import Southbound.Request.Table

/-!
# Tracking requests

The operations on the open requests of a datapath together with the ledger in which outcomes are
written down.
-/

namespace Southbound

structure Tracker where
  ledger : Ledger
  table : RequestTable

namespace Tracker

/-- Writes down the same outcome for several requests. -/
def settleAll (l : Ledger) (es : List OpenRequest) (o : OpenRequest → Outcome) : Ledger :=
  es.foldl (fun l e => l.settle e.ticket (o e)) l

/-- Tracks a request of the ledger. A claim that conflicts with an open request fails the new
request and leaves the open ones alone. -/
def register (k : Tracker) (c : Claim) : Tracker × Except Failure Unit :=
  match k.table.insert c with
  | .ok table => ({ k with table }, .ok ())
  | .error x =>
    let failure := Failure.duplicateXid k.table.datapath x
    ({ k with ledger := k.ledger.settle c.ticket (.failed failure) }, .error failure)

/-- Offers a message to the open requests; `true` if one of them takes it. -/
def resolve (k : Tracker) (x : Xid) (m : Message) : Tracker × Bool :=
  match k.table.onMessage x m with
  | (table, .ignored) => ({ k with table }, false)
  | (table, .kept) => ({ k with table }, true)
  | (table, .settles ticket o) => (⟨k.ledger.settle ticket o, table⟩, true)

/-- Forgets a request without an outcome. -/
def remove (k : Tracker) (x : Xid) : Tracker × Option Ticket :=
  let (table, e) := k.table.remove x
  ({ k with table }, e.map (·.ticket))

/-- Gives up the requests whose deadline has passed. -/
def prune (k : Tracker) (now : Nat) : Tracker × List OpenRequest :=
  let (table, evicted) := k.table.prune now
  (⟨settleAll k.ledger evicted fun e => .failed (.agedOut k.table.datapath e.xid), table⟩, evicted)

/-- Gives up all requests because the datapath is lost, and says how many. -/
def failAll (k : Tracker) : Tracker × Nat :=
  let (table, lost) := k.table.clear
  (⟨settleAll k.ledger lost fun _ => .failed (.disconnected k.table.datapath), table⟩, lost.length)

end Tracker

end Southbound
