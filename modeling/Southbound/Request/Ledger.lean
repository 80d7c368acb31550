import Southbound.Failure
import Southbound.OpenFlow.Message

/-!
# Requests and their outcomes

Every correlated request is entered into a ledger, where its outcome is written down once. The
place of a request in the ledger is its ticket.

* `outcome?_settle_of_some`  the first outcome of a request stays.
-/

namespace Southbound

/-- How a request ended. -/
inductive Outcome where
  /-- Its reply, put together from fragments if it came in several. -/
  | reply (message : Message)
  /-- The barrier behind it came back and no error came before. -/
  | confirmed
  /-- The switch answered with an error. -/
  | refused (error : ErrorMessage)
  | failed (failure : Failure)
deriving DecidableEq

namespace Outcome

def label : Outcome → String
  | reply _ => "Success"
  | confirmed => "SuccessNoReply"
  | refused _ => "ProtocolError"
  | failed _ => "Exception"

def isSuccess : Outcome → Bool
  | reply _ | confirmed => true
  | refused _ | failed _ => false

end Outcome

/-- A request and, once it is known, its outcome. -/
structure Request where
  datapath : DatapathId
  xid : Xid
  type : MessageType
  /-- When it was made. -/
  created : Nat
  outcome : Option Outcome := none
deriving DecidableEq

namespace Request

def stateLabel (r : Request) : String :=
  match r.outcome with
  | none => "Pending"
  | some o => o.label

/-- One line about a request. -/
def text (r : Request) : String :=
  s!"MessageFuture({r.datapath.text} xid={r.xid} {r.type.label} {r.stateLabel})"

/-- Writes the outcome down unless there is one. -/
def settle (o : Outcome) (r : Request) : Request :=
  match r.outcome with
  | none => { r with outcome := some o }
  | some _ => r

/-- The reply, if that is how the request ended. -/
def reply? (r : Request) : Option Message :=
  match r.outcome with
  | some (.reply m) => some m
  | _ => none

end Request

/-- The place of a request in the ledger. -/
abbrev Ticket := Nat

/-- Every request ever made, oldest first. -/
structure Ledger where
  requests : List Request := []
deriving DecidableEq

namespace Ledger

def get? (l : Ledger) (t : Ticket) : Option Request := l.requests[t]?

/-- Enters a request and issues its ticket. -/
def enter (l : Ledger) (r : Request) : Ledger × Ticket :=
  (⟨l.requests ++ [r]⟩, l.requests.length)

/-- Writes an outcome down, unless the request has one. -/
def settle (l : Ledger) (t : Ticket) (o : Outcome) : Ledger :=
  ⟨l.requests.modify t (Request.settle o)⟩

def outcome? (l : Ledger) (t : Ticket) : Option Outcome := (l.get? t).bind (·.outcome)

/-- Only the request of that ticket is settled. -/
theorem get?_settle (l : Ledger) (t u : Ticket) (o : Outcome) :
    (l.settle t o).get? u = (l.get? u).map fun r => if t = u then r.settle o else r := by
  simp only [get?, settle, List.getElem?_modify]
  cases l.requests[u]? <;> split <;> rfl

/-- An outcome that is written down stays. -/
theorem outcome?_settle_of_some {l : Ledger} {u : Ticket} {p : Outcome} (t : Ticket) (o : Outcome)
    (h : l.outcome? u = some p) : (l.settle t o).outcome? u = some p := by
  rw [outcome?] at h ⊢
  rw [get?_settle]
  cases hr : l.get? u with
  | none => rw [hr] at h; simp at h
  | some r =>
    rw [hr] at h
    simp only [Option.bind_some] at h
    simp only [Option.map_some, Option.bind_some]
    split
    · rw [Request.settle, h]
      exact h
    · exact h

end Ledger

end Southbound
