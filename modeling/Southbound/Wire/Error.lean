import Southbound.OpenFlow.MessageType

/-!
# Wire errors

What can keep a message from being read or written.
-/

namespace Southbound

inductive WireError where
  /-- Fewer bytes than a field needs. A plain number that is cut off reports 0 and 0. -/
  | truncated (needed available : Nat)
  | unexpectedValue (value field owner : String)
  | unsupportedVersion (version : Version)
  | unsupportedType (version : Version) (number : UInt8)
  | unsupportedMessage (version : Version) (type : MessageType)
  | tooLong (type : MessageType) (length : Nat)
deriving DecidableEq

namespace WireError

/-- The name of the kind of error. -/
def label : WireError → String
  | truncated .. => "Truncated"
  | unexpectedValue .. => "UnexpectedValueError"
  | unsupportedVersion _ => "UnsupportedVersion"
  | unsupportedType .. => "UnsupportedTypeCode"
  | unsupportedMessage .. => "UnsupportedMessageCode"
  | tooLong .. => "TooLong"

def message : WireError → String
  | truncated needed available =>
    s!"Truncated buffer: needed {needed} bytes, {available} available"
  | unexpectedValue value field owner =>
    s!"Unexpected value '{value}' at field '{field}' of '{owner}'"
  | unsupportedVersion version => s!"Unsupported OpenFlow version: {version}"
  | unsupportedType version number =>
    s!"Unsupported OpenFlow message type code {number} for version: {version}"
  | unsupportedMessage version type =>
    s!"Unsupported OpenFlow message {type.label} for version: {version}"
  | tooLong type length =>
    s!"Message {type.label} exceeds the maximum OpenFlow length ({length} bytes)"

end WireError

end Southbound
