/-!
# Protocol versions and transaction ids

Versions are the bytes that stand first in every header: 1 for OpenFlow 1.0 and 4 for
OpenFlow 1.3, the two this library speaks.
-/

namespace Southbound

/-- The version byte of a header. -/
abbrev Version := UInt8

namespace Version

/-- OpenFlow 1.0. -/
def v10 : Version := 1

/-- OpenFlow 1.3. -/
def v13 : Version := 4

/-- The versions that have a codec, lowest first. -/
def supported : List Version := [v10, v13]

def isSupported (v : Version) : Bool := supported.contains v

end Version

/-- Pairs a request with its answer. -/
abbrev Xid := UInt32

end Southbound
