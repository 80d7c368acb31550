import Southbound.Failure
import Southbound.OpenFlow.Message

/-!
# Send policy

What callers may send, decided before anything is done: only messages that controllers send, flow
requests only together with a barrier, and changes of state only as the master of the switch.
-/

namespace Southbound

/-- What this controller is to a switch. -/
inductive Role where
  | master
  | slave
deriving DecidableEq

def Role.label : Role → String
  | master => "Master"
  | slave => "Slave"

/-- The switches this controller is the master of. The decision is made elsewhere; here it is only
enforced. -/
inductive Mastership where
  | all
  | none
  | only (datapaths : List DatapathId)

def Mastership.role (m : Mastership) (d : DatapathId) : Role :=
  match m with
  | all => .master
  | none => .slave
  | only datapaths => if datapaths.contains d then .master else .slave

/-- How a message is sent. -/
inductive SendPath where
  /-- Fire and forget. -/
  | plain
  /-- Answered by a reply. -/
  | reply
  /-- Confirmed by a barrier. -/
  | barrier
deriving DecidableEq

namespace Policy

/-- The first reason to refuse the message, if there is one. -/
def refusal? (role : Role) (d : DatapathId) (m : Message) (path : SendPath) : Option Refusal :=
  let type := m.type
  -- a hello is symmetric, but belongs to the session and not to callers
  if type = .hello ∨ type.direction = .switchToController then some (.notForControllers type)
  else if type = .flowMod ∧ path ≠ .barrier then some .flowWithoutBarrier
  else if type.isMutating ∧ role ≠ .master then some (.notMaster d type)
  else none

def check (role : Role) (d : DatapathId) (m : Message) (path : SendPath) : Except Failure Unit :=
  match refusal? role d m path with
  | some r => .error (.invalidArgument r)
  | none => .ok ()

/-- Transaction id 0 is that of unsolicited messages and never pairs a request with its answer. -/
def checkXid (xid : Option Xid) : Except Failure Unit :=
  if xid = some 0 then .error (.invalidArgument .reservedXid) else .ok ()

end Policy

end Southbound
