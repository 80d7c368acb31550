import Southbound.Counters
import Southbound.Datapath.Descriptions
import Southbound.Dispatch.Event
import Southbound.Policy
import Southbound.Request.Tracker
import Southbound.Settings

/-!
# The state of a controller

All connections ever made, the datapaths they introduced, which of those are registered, the
requests of callers, and the events not yet handed to the dispatcher. A datapath is named by its
main connection, so two switches that claim the same id stay apart.
-/

namespace Southbound

/-- What the reading side of a connection has got to. -/
structure Session where
  /-- The transaction id of the features request. -/
  featuresXid : Option Xid := none
  descriptions : Descriptions := {}
  /-- The main connection of the datapath that the session serves. -/
  datapath : Option LinkId := none
  /-- The session has ended. -/
  isOver : Bool := false
deriving DecidableEq

/-- A connection and its session. -/
structure Link where
  connection : Connection
  session : Session := {}
deriving DecidableEq

/-- Names a contributor among all ever added. -/
abbrev ContributorId := Nat

/-- Supplies flows that a datapath should have from the start. -/
structure Contributor where
  id : ContributorId
  /-- The flows for a datapath, which may depend on whether the controller runs in hybrid mode. -/
  flows : DatapathInfo → Bool → List FlowMod

/-- How far the installation of initial flows has got. -/
inductive TaskStage where
  /-- It was found worth doing. -/
  | begun
  /-- The deletion of all flows was sent. -/
  | purging (ticket : Ticket)
  /-- The deletion was confirmed, and these are the flows of the contributors. -/
  | collected (flows : List FlowMod)
  /-- The flows of the contributors were sent. -/
  | installing (ticket : Ticket)
  /-- A batch was not confirmed or could not be sent. -/
  | failed
deriving DecidableEq

/-- The installation in progress. -/
structure ActiveTask where
  datapath : LinkId
  stage : TaskStage
deriving DecidableEq

structure Controller where
  settings : Settings
  mastership : Mastership := .all
  /-- How many transaction ids have been drawn. -/
  drawn : Nat := 0
  counters : Counters := {}
  links : List Link := []
  /-- The datapaths by their main connections. -/
  datapaths : Keyed LinkId Datapath := []
  /-- The main connections of the registered datapaths. -/
  registry : Keyed DatapathId LinkId := []
  ledger : Ledger := {}
  /-- Events to be handed to the dispatcher, oldest first. -/
  events : List Event := []
  contributors : List Contributor := []
  lastContributor : ContributorId := 0
  /-- Datapaths whose initial flows are to be installed, in that order. -/
  tasks : List LinkId := []
  activeTask : Option ActiveTask := none
  isShutDown : Bool := false
  /-- Nobody holds the controller any more; work that was submitted outlives it. -/
  isAbandoned : Bool := false
  /-- The time in milliseconds. -/
  clock : Nat := 0

/-- Transaction id number `n` of those drawn: all but 0 come in turn, over and over. -/
def xidAt (n : Nat) : Xid := UInt32.ofNat (n % (UInt32.size - 1) + 1)

namespace Controller

/-! ## Connections -/

def link? (c : Controller) (l : LinkId) : Option Link := c.links[l]?

def connection? (c : Controller) (l : LinkId) : Option Connection := (c.link? l).map (·.connection)

def modifyLink (c : Controller) (l : LinkId) (f : Link → Link) : Controller :=
  { c with links := c.links.modify l f }

def modifyConnection (c : Controller) (l : LinkId) (f : Connection → Connection) : Controller :=
  c.modifyLink l fun k => { k with connection := f k.connection }

def modifySession (c : Controller) (l : LinkId) (f : Session → Session) : Controller :=
  c.modifyLink l fun k => { k with session := f k.session }

/-- Is the connection closed? One that never was counts as closed. -/
def isClosed (c : Controller) (l : LinkId) : Bool :=
  match c.connection? l with
  | some k => k.isClosed
  | none => true

/-- The connections whose sessions have not ended. -/
def openLinks (c : Controller) : List LinkId :=
  (List.range c.links.length).filter fun l =>
    match c.link? l with
    | some k => !k.session.isOver
    | none => false

/-! ## Datapaths -/

def datapath? (c : Controller) (main : LinkId) : Option Datapath := c.datapaths.find? main

def modifyDatapath (c : Controller) (main : LinkId) (f : Datapath → Datapath) : Controller :=
  { c with datapaths := c.datapaths.adjust main f }

/-- The registered datapath with an id. -/
def registered? (c : Controller) (d : DatapathId) : Option Datapath :=
  (c.registry.find? d).bind c.datapath?

/-- The registered datapath with an id, or the failure that there is none. -/
def lookup (c : Controller) (d : DatapathId) : Except Failure Datapath :=
  match c.registered? d with
  | some dp => .ok dp
  | none => .error (.notFound d)

/-- What there is to see of a datapath. -/
def infoOf (c : Controller) (dp : Datapath) : Option DatapathInfo :=
  (c.connection? dp.main).map dp.info

def info (c : Controller) (d : DatapathId) : Except Failure DatapathInfo := do
  let dp ← c.lookup d
  match c.infoOf dp with
  | some i => return i
  | none => throw (.notFound d)

/-- All registered datapaths in the order of their ids. -/
def allInfo (c : Controller) : List DatapathInfo :=
  c.registry.filterMap fun (d, _) => (c.registered? d).bind c.infoOf

/-- The role of the controller towards a datapath. -/
def roleOf (c : Controller) (d : DatapathId) : Role := c.mastership.role d

/-! ## Events and transaction ids -/

def emit (c : Controller) (e : Event) : Controller := { c with events := c.events ++ [e] }

/-- Tells of a datapath as it is now. -/
def emitDatapath (c : Controller) (kind : DatapathEventKind) (dp : Datapath) : Controller :=
  c.emit (.datapath { kind, datapath := dp.id, info := c.infoOf dp })

/-- Draws a transaction id. -/
def drawXid (c : Controller) : Controller × Xid := ({ c with drawn := c.drawn + 1 }, xidAt c.drawn)

/-- Draws a transaction id for each of some messages. -/
def drawXids (c : Controller) : List Message → Controller × List (Xid × Message)
  | [] => (c, [])
  | m :: ms =>
    let (c', x) := c.drawXid
    let (c'', rest) := c'.drawXids ms
    (c'', (x, m) :: rest)

/-! ## Sending -/

/-- Counts a message that was queued. -/
def countWrite (c : Controller) (m : Message) : Controller :=
  let counters := c.counters.countSent
  match m with
  | .packetOut p => { c with counters := counters.countPacketOut p.data.length }
  | _ => { c with counters }

/-- Queues a frame on a connection, without counting it. -/
def writeFrame (c : Controller) (l : LinkId) (frame : Bytes) : Except Failure Controller :=
  match c.connection? l with
  | none => .error (.notFound {})
  | some k => (k.sendFrame frame).map fun k' => c.modifyConnection l fun _ => k'

/-- Queues a message on a connection and counts it. A failure changes nothing. -/
def write (c : Controller) (l : LinkId) (x : Xid) (m : Message) : Except Failure Controller :=
  match c.connection? l with
  | none => .error (.notFound {})
  | some k => (k.send Codec.encode x m).map fun k' =>
      (c.modifyConnection l fun _ => k').countWrite m

/-- Queues messages one after the other up to the first that fails. -/
def writeAll (c : Controller) (l : LinkId) :
    List (Xid × Message) → Controller × Except Failure Unit
  | [] => (c, .ok ())
  | (x, m) :: rest =>
    match c.write l x m with
    | .error e => (c, .error e)
    | .ok c' => c'.writeAll l rest

/-! ## Open requests -/

/-- Runs an operation on the open requests of a datapath and the ledger. -/
def track {α : Type} (c : Controller) (dp : Datapath) (f : Tracker → Tracker × α) :
    Controller × α :=
  let (k, a) := f ⟨c.ledger, dp.requests⟩
  (({ c with ledger := k.ledger }).modifyDatapath dp.main fun d => { d with requests := k.table },
    a)

end Controller

end Southbound
