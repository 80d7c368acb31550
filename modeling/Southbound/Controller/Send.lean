import Southbound.Controller.State

/-!
# Sending

What callers can send. A call is checked before anything is done, and a refused call changes
nothing; whatever goes wrong afterwards becomes the outcome of the request. A correlated request
whose frames cannot all be queued is not tracked any more.
-/

namespace Southbound

/-- A message to send, under a transaction id of the caller's choice if there is one. -/
structure Outbound where
  message : Message
  xid : Option Xid := none
deriving DecidableEq

namespace Controller

/-- Runs `next` with the result of a check, or leaves the failure. -/
def andThen {α β : Type} (c : Controller) (checked : Except Failure α)
    (next : α → Controller × Except Failure β) : Controller × Except Failure β :=
  match checked with
  | .error e => (c, .error e)
  | .ok a => next a

/-- Looks a datapath up and checks the messages that are to go to it. -/
def permit (c : Controller) (d : DatapathId) (ms : List Message) (path : SendPath) :
    Except Failure Datapath := do
  let dp ← c.lookup d
  for m in ms do
    Policy.check (c.roleOf d) d m path
  return dp

/-- Fire and forget, on the connection for an auxiliary id. -/
def send (c : Controller) (d : DatapathId) (auxiliary : UInt8) (m : Message) :
    Controller × Except Failure Unit :=
  c.andThen (c.permit d [m] .plain) fun dp =>
    -- the connection is chosen before a transaction id is drawn
    let l := dp.select c.isClosed auxiliary
    let (c, x) := c.drawXid
    c.writeAll l [(x, m)]

/-- The transaction id that the caller chose, or a new one. -/
def xidFor (c : Controller) (chosen : Option Xid) : Controller × Xid :=
  match chosen with
  | some x => (c, x)
  | none => c.drawXid

/-- Enters a request into the ledger and, if its transaction ids are free, into the table of the
datapath; then queues its frames. If that fails the request ends with the failure. -/
def issue (c : Controller) (dp : Datapath) (type : MessageType) (claim : Ticket → Claim)
    (frames : List (Xid × Message)) : Controller × Ticket :=
  -- the transaction id of a claim does not depend on its ticket
  let own := (claim 0).xid
  let (ledger, ticket) := c.ledger.enter
    { datapath := dp.id, xid := own, type, created := c.clock }
  let c := { c with ledger }
  match c.track dp (fun t => t.register (claim ticket)) with
  | (c, .error _) => (c, ticket)
  | (c, .ok ()) =>
    match c.writeAll dp.main frames with
    | (c, .ok ()) => (c, ticket)
    | (c, .error e) =>
      match c.datapath? dp.main with
      | none => (c, ticket)
      | some dp =>
        -- the transaction ids are free again, though some frames may have been queued
        let (c, _) := c.track dp fun t => t.remove own
        ({ c with ledger := c.ledger.settle ticket (.failed e) }, ticket)

/-- Sends a request that its reply ends. -/
def sendRequest (c : Controller) (d : DatapathId) (o : Outbound) :
    Controller × Except Failure Ticket :=
  c.andThen (c.permit d [o.message] .reply) fun dp =>
    c.andThen (Policy.checkXid o.xid) fun _ =>
      let (c, x) := c.xidFor o.xid
      let (c, ticket) := c.issue dp o.message.type
        (fun ticket => { ticket, xid := x, created := c.clock, completion := .byReply })
        [(x, o.message)]
      (c, .ok ticket)

/-- Sends a request and a barrier behind it, whose reply ends the request. -/
def sendWithBarrier (c : Controller) (d : DatapathId) (o : Outbound) (barrier : Option Xid) :
    Controller × Except Failure Ticket :=
  c.andThen (c.permit d [o.message] .barrier) fun dp =>
    c.andThen (Policy.checkXid o.xid) fun _ =>
      c.andThen (Policy.checkXid barrier) fun _ =>
        let (c, x) := c.xidFor o.xid
        let (c, b) := c.xidFor barrier
        let (c, ticket) := c.issue dp o.message.type
          (fun ticket =>
            { ticket, xid := x, created := c.clock, completion := .byBarrier, barrier := some b })
          [(x, o.message), (b, .barrierRequest)]
        (c, .ok ticket)

/-- Sends a request with a companion of the caller's choice, which has to be a barrier request. -/
def sendWithCompanion (c : Controller) (d : DatapathId) (o companion : Outbound) :
    Controller × Except Failure Ticket :=
  if companion.message ≠ .barrierRequest then
    (c, .error (.invalidArgument (.companionNotBarrier companion.message.summary)))
  else if companion.xid.isSome ∧ companion.xid = o.xid then
    (c, .error (.invalidArgument .sharedXid))
  else c.sendWithBarrier d o companion.xid

/-- Sends several requests to a datapath and one barrier behind them, whose reply ends them all. -/
def sendBatchOn (c : Controller) (dp : Datapath) (ms : List Message) :
    Controller × Except Failure Ticket :=
  match ms with
  | [] => (c, .error (.invalidArgument .emptyBatch))
  | first :: _ =>
    c.andThen (ms.forM fun m => Policy.check (c.roleOf dp.id) dp.id m .barrier) fun _ =>
      let (c, writes) := c.drawXids ms
      let (c, b) := c.drawXid
      match writes with
      | [] => (c, .error (.invalidArgument .emptyBatch))
      | (x, _) :: others =>
        let (c, ticket) := c.issue dp first.type
          (fun ticket =>
            { ticket, xid := x, created := c.clock, completion := .byBarrier, barrier := some b
              writes := others.map (·.1) })
          (writes ++ [(b, .barrierRequest)])
        (c, .ok ticket)

def sendBatch (c : Controller) (d : DatapathId) (ms : List Message) :
    Controller × Except Failure Ticket :=
  c.andThen (c.lookup d) fun dp => c.sendBatchOn dp ms

/-- Sends a request and takes its outcome if it is known at once. -/
def sendAndWait (c : Controller) (d : DatapathId) (o : Outbound) :
    Controller × Except Failure Outcome :=
  match c.sendRequest d o with
  | (c, .error e) => (c, .error e)
  | (c, .ok ticket) =>
    match c.ledger.outcome? ticket with
    | some o => (c, .ok o)
    | none => (c, .error .timeout)

/-- Brings a port up or shuts it down. -/
def enablePort (c : Controller) (d : DatapathId) (n : PortNumber) (enable : Bool) :
    Controller × Except Failure Ticket :=
  c.andThen (c.lookup d) fun dp =>
    match dp.ports.get? n with
    | none => (c, .error (.portNotFound d n))
    | some p => c.sendWithBarrier d { message := .portMod (PortMod.setEnabled p enable) } none

/-- How many endpoints are listened on, unless there was a shutdown. -/
def listen (c : Controller) : Except Failure Nat :=
  if c.isShutDown then .error .notListening else .ok c.settings.listenAddresses.length

def versionOf (c : Controller) (d : DatapathId) : Except Failure Version := do
  return (← c.info d).version

end Controller

end Southbound
