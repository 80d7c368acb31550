import Southbound.Dispatch.Dispatcher

/-!
# Recordings

What a listener was told of datapaths, looked at afterwards.
-/

namespace Southbound

/-- The events of datapaths that a listener was told of, oldest first. -/
abbrev Recording := List DatapathEvent

namespace Recording

/-- What the listener named `name` was told. -/
def ofDeliveries (name : String) (ds : List Delivery) : Recording :=
  ds.filterMap fun d =>
    if d.listener.name = name then
      match d.event with
      | .datapath e => some e
      | .message _ => none
    else none

/-- The kinds of events of a datapath. -/
def kindsOf (r : Recording) (d : DatapathId) : List DatapathEventKind :=
  (r.filter (·.datapath = d)).map (·.kind)

/-- How many events of a kind there were for a datapath. -/
def count (r : Recording) (d : DatapathId) (k : DatapathEventKind) : Nat :=
  (r.kindsOf d).countP (· = k)

end Recording

end Southbound
