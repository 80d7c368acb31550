import Southbound.Keyed
import Southbound.Request.Ledger

/-!
# The table of open requests of a datapath

An open request occupies transaction ids: its own, that of its barrier, and those of the further
writes that the barrier covers. A reply, a barrier reply or an error that carries one of them ends
the request; so do its deadline and the loss of the datapath.

Deadlines are kept apart in the order in which they pass. A request that ends early leaves its
deadline behind; the generation number, which is never used twice, tells it from the deadline of a
later request under the same transaction id.
-/

namespace Southbound

/-- What ends a request well. -/
inductive Completion where
  /-- The reply with the same transaction id. -/
  | byReply
  /-- The reply to the barrier behind it. -/
  | byBarrier
deriving DecidableEq

/-- An open request. -/
structure OpenRequest where
  ticket : Ticket
  xid : Xid
  completion : Completion
  barrier : Option Xid := none
  /-- Further writes that the same barrier covers. -/
  writes : List Xid := []
  /-- The fragments of its reply so far, put together. -/
  fragments : Option MultipartReply := none
  generation : Nat
deriving DecidableEq

/-- When the request of a generation is given up. -/
structure Deadline where
  time : Nat
  generation : Nat
  xid : Xid
deriving DecidableEq

/-- Earlier times first, and of equal times the request made first. -/
def Deadline.precedes (a b : Deadline) : Bool :=
  a.time < b.time || (a.time == b.time && a.generation < b.generation)

/-- What a new request asks the table for. -/
structure Claim where
  ticket : Ticket
  xid : Xid
  created : Nat
  completion : Completion
  barrier : Option Xid := none
  writes : List Xid := []

/-- The transaction ids that a claim occupies, its own first. -/
def Claim.xids (c : Claim) : List Xid := c.xid :: (c.barrier.toList ++ c.writes)

structure RequestTable where
  datapath : DatapathId
  /-- How long a request may stay open. -/
  ageOut : Nat
  entries : Keyed Xid OpenRequest := []
  /-- The request of each barrier. -/
  barriers : Keyed Xid Xid := []
  /-- The request of each further write. -/
  writes : Keyed Xid Xid := []
  deadlines : List Deadline := []
  /-- The generation of the last request. Requests are numbered one after the other, without a
  bound. -/
  generation : Nat := 0
deriving DecidableEq

/-- What a message means to the open requests. -/
inductive Verdict where
  /-- Nothing. -/
  | ignored
  /-- It is a fragment of a reply, and more will follow. -/
  | kept
  | settles (ticket : Ticket) (outcome : Outcome)
deriving DecidableEq

namespace RequestTable

def size (t : RequestTable) : Nat := t.entries.length

def isUsed (t : RequestTable) (x : Xid) : Bool :=
  t.entries.has x || t.barriers.has x || t.writes.has x

/-- The request that occupies a transaction id. -/
def owner? (t : RequestTable) (x : Xid) : Option Xid :=
  if t.entries.has x then some x
  else match t.barriers.find? x with
    | some k => some k
    | none => t.writes.find? x

/-- Puts a deadline in its place. -/
def insertDeadline (d : Deadline) : List Deadline → List Deadline
  | [] => [d]
  | e :: ds => if d.precedes e then d :: e :: ds else e :: insertDeadline d ds

/-- The transaction id that keeps a claim out: the first one in use, or the claim's own if it asks
for one twice. -/
def conflict? (t : RequestTable) (c : Claim) : Option Xid :=
  match c.xids.find? t.isUsed with
  | some x => some x
  -- all are free, but one was asked for twice
  | none => if c.xids.Nodup then none else some c.xid

/-- The table with the request of a claim that nothing keeps out. -/
def enroll (t : RequestTable) (c : Claim) : RequestTable :=
  let generation := t.generation + 1
  { t with
    generation
    deadlines := insertDeadline ⟨c.created + t.ageOut, generation, c.xid⟩ t.deadlines
    barriers := c.barrier.toList.foldl (fun m b => m.put b c.xid) t.barriers
    writes := c.writes.foldl (fun m w => m.put w c.xid) t.writes
    entries := t.entries.put c.xid {
      ticket := c.ticket, xid := c.xid, completion := c.completion, barrier := c.barrier
      writes := c.writes, generation } }

/-- Enters a request, or names the transaction id that is in the way. -/
def insert (t : RequestTable) (c : Claim) : Except Xid RequestTable :=
  match t.conflict? c with
  | some x => .error x
  | none => .ok (t.enroll c)

/-- Takes the request with transaction id `x` out. -/
def remove (t : RequestTable) (x : Xid) : RequestTable × Option OpenRequest :=
  match t.entries.find? x with
  | none => (t, none)
  | some e =>
    ({ t with
        entries := t.entries.erase x
        barriers := e.barrier.toList.foldl (fun m b => m.erase b) t.barriers
        writes := e.writes.foldl (fun m w => m.erase w) t.writes },
      some e)

/-- Takes the request of `x` out and settles it. -/
def finish (t : RequestTable) (x : Xid) (o : OpenRequest → Outcome) : RequestTable × Verdict :=
  match t.remove x with
  | (t', some e) => (t', .settles e.ticket (o e))
  | (t', none) => (t', .ignored)

/-- The whole reply, given the fragments before its last message. -/
def wholeReply (fragments : Option MultipartReply) (last : Message) : Message :=
  match fragments, last with
  | some before, .multipartReply r => .multipartReply (before.merge r)
  | _, m => m

/-- A reply under the transaction id of the request itself. -/
def onOwnReply (t : RequestTable) (x : Xid) (m : Message) : RequestTable × Verdict :=
  match t.entries.find? x with
  | some e =>
    if e.completion = .byReply then t.finish x fun e => .reply (wholeReply e.fragments m)
    else (t, .ignored)
  | none => (t, .ignored)

/-- A fragment that more will follow. -/
def onFragment (t : RequestTable) (x : Xid) (r : MultipartReply) : RequestTable × Verdict :=
  match t.entries.find? x with
  | some e =>
    if e.completion = .byReply then
      let merged := match e.fragments with
        | some before => before.merge r
        | none => r
      ({ t with entries := t.entries.put x { e with fragments := some merged } }, .kept)
    else (t, .ignored)
  | none => (t, .ignored)

/-- Takes in a message. Only replies mean anything here: an error ends the request that occupies
its transaction id in any way, a barrier reply the request in front of that barrier, any other
reply the request it answers. -/
def onMessage (t : RequestTable) (x : Xid) (m : Message) : RequestTable × Verdict :=
  match m with
  | .error e =>
    match t.owner? x with
    | some k => t.finish k fun _ => .refused e
    | none => (t, .ignored)
  | .barrierReply =>
    match t.barriers.find? x with
    | some k => t.finish k fun _ => .confirmed
    -- a barrier can itself be the request
    | none => t.onOwnReply x m
  | .multipartReply r => if r.hasMore then t.onFragment x r else t.onOwnReply x m
  | m => if m.type.isReply then t.onOwnReply x m else (t, .ignored)

/-- Takes the request of one deadline out, if it is still open. -/
def expire (t : RequestTable) (d : Deadline) : RequestTable × Option OpenRequest :=
  match t.entries.find? d.xid with
  -- the transaction id may have gone to a later request in the meantime
  | some e => if e.generation = d.generation then t.remove d.xid else (t, none)
  | none => (t, none)

/-- Takes the requests of deadlines out, in the order of the deadlines. -/
def expireAll (t : RequestTable) : List Deadline → RequestTable × List OpenRequest
  | [] => (t, [])
  | d :: ds =>
    let (t', e) := t.expire d
    let (t'', es) := expireAll t' ds
    (t'', e.toList ++ es)

/-- Takes out all requests whose deadline is at or before `now`. -/
def prune (t : RequestTable) (now : Nat) : RequestTable × List OpenRequest :=
  -- deadlines are in order, so those that have passed stand in front
  let due := t.deadlines.takeWhile (fun d => d.time ≤ now)
  expireAll { t with deadlines := t.deadlines.drop due.length } due

/-- Takes all requests out. -/
def clear (t : RequestTable) : RequestTable × List OpenRequest :=
  ({ t with entries := [], barriers := [], writes := [], deadlines := [] }, t.entries.values)

end RequestTable

end Southbound
