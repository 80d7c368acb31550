import Southbound.OpenFlow.Version

/-!
# Version negotiation

The version for a connection, from the versions we speak, the version of the peer's hello and the
versions the peer lists in it.
-/

namespace Southbound

/-- The greatest of our versions that the peer lists, if it lists any. Otherwise the lesser of our
greatest version and that of its hello, if we speak that one. `ours` is in ascending order. -/
def negotiate (ours : List Version) (peer : Version) (listed : List Version) : Option Version :=
  if listed.isEmpty then
    match ours.getLast? with
    | none => none
    | some greatest =>
      let v := min greatest peer
      if ours.contains v then some v else none
  else ours.reverse.find? listed.contains

end Southbound
