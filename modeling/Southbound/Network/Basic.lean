import Southbound.Controller.Provision
import Southbound.Controller.Stream
import Southbound.Controller.Sweep
import Southbound.Dispatch.Dispatcher
import Southbound.Network.Peer

/-!
# Networks

A controller with its dispatcher and the peers at the other ends of its connections, and how all
of them run. `Network.settle` lets everything happen that can happen: what has arrived is read,
what is queued is written, switches answer, listeners are called, and initial flows are installed.
-/

namespace Southbound

structure Network where
  controller : Controller
  dispatcher : Dispatcher
  /-- The far ends, in the order of the connections. -/
  peers : List Peer := []
  /-- All calls of listeners so far. -/
  deliveries : List Delivery := []
  /-- How the work for datapaths ended, oldest first. -/
  outcomes : List (DatapathId × TaskOutcome) := []

namespace Network

/-- A network without connections. -/
def new (settings : Settings) (mastership : Mastership) : Network where
  controller := { settings, mastership }
  dispatcher := .new settings.workers settings.listenerCapacity

def peer? (n : Network) (l : LinkId) : Option Peer := n.peers[l]?

def modifyPeer (n : Network) (l : LinkId) (f : Peer → Peer) : Network :=
  { n with peers := n.peers.modify l f }

/-- All connections there have been. -/
def links (n : Network) : List LinkId := List.range n.peers.length

/-! ## Events -/

/-- Hands an event to the dispatcher and lets listeners run. A message that is lost is counted. -/
def deliver (n : Network) (e : Event) : Network :=
  match n.dispatcher.submit e with
  | (d, .dropped) =>
    let c := n.controller
    { n with dispatcher := d, controller := { c with counters := c.counters.countDrop } }
  | (d, _) =>
    let (dispatcher, made) := d.run
    { n with dispatcher, deliveries := n.deliveries ++ made }

/-- Hands over all events of the controller. -/
def deliverEvents (n : Network) : Network :=
  let c := n.controller
  c.events.foldl deliver { n with controller := { c with events := [] } }

/-! ## Streams -/

/-- Lets the controller read what has arrived on a connection. -/
def serve (n : Network) (l : LinkId) : Network :=
  match n.peer? l with
  | none => n
  | some p =>
    let (controller, unread) := n.controller.serve l p.hasLeft p.unread
    { n with controller }.modifyPeer l fun p => { p with unread }

/-- Runs the writer of a connection, which brings the queued frames to its peer. -/
def flush (n : Network) (l : LinkId) : Network :=
  match n.controller.connection? l, n.peer? l with
  | some k, some p =>
    let w := runWriter k.queue k.isClosed true p.sink
    let controller := n.controller.modifyConnection l fun k => k.afterWriting w
    { n with controller }.modifyPeer l fun p => p.takeIn w.sink
  | _, _ => n

/-- Is there anything to read or to end on a connection? -/
def needsService (n : Network) (l : LinkId) : Bool :=
  match n.peer? l with
  | none => false
  | some p => n.controller.needsService l p.hasLeft p.unread

/-- Serves all connections, then brings all frames to the peers. -/
def exchange (n : Network) : Network :=
  -- answers to what is read now are read in the next round
  let n := n.links.foldl serve n
  n.links.foldl flush n.deliverEvents

/-! ## Initial flows -/

/-- Is the confirmation of initial flows waited for? -/
def isPatient (n : Network) : Bool := n.controller.settings.barrierTimeout ≠ 0

/-- Notes how the work for a datapath ended. -/
def note (n : Network) (main : LinkId) (o : TaskOutcome) : Network :=
  match n.controller.datapath? main with
  | none => n
  | some dp => { n with outcomes := n.outcomes ++ [(dp.id, o)] }

/-- Takes up to `fuel` steps of the installation of initial flows, as many as can be taken without
anything else happening. -/
def provision (patient : Bool) : Nat → Network → Network
  | 0, n => n
  | fuel + 1, n =>
    match n.controller.provision? patient with
    | none => n
    | some (main, c, outcome) =>
      let n := { n with controller := c }
      provision patient fuel (match outcome with
        | some o => n.note main o
        | none => n)

/-- An upper bound for the steps that can be taken: for a datapath the work has six. -/
def provisionSteps (n : Network) : Nat := 6 * (n.controller.tasks.length + 1)

/-! ## Running -/

/-- Is there anything to be done at once, not counting initial flows? -/
def isBusy (n : Network) : Bool := n.links.any n.needsService

/-- Runs for up to `fuel` rounds. Initial flows are attended to whenever nothing else happens. -/
def run : Nat → Network → Network
  | 0, n => n
  | fuel + 1, n =>
    let n := n.exchange
    if n.isBusy then run fuel n
    else if (n.controller.provision? n.isPatient).isSome then
      run fuel ((provision n.isPatient n.provisionSteps n).deliverEvents)
    else n

/-- More rounds than anything takes: a switch only answers, and what it can be asked in answer to
an answer is settled in a handshake. -/
def rounds : Nat := 100000

/-- Lets everything happen that can happen. -/
def settle (n : Network) : Network := run rounds n.deliverEvents

/-! ## Peers -/

/-- Makes a connection. -/
def connect (n : Network) (remote : String) (switch : Option Switch) :
    Except Failure (Network × LinkId) :=
  (n.controller.accept remote).map fun (controller, l) =>
    ({ n with controller, peers := n.peers ++ [{ switch }] }, l)

/-- What a simulated switch is called as a peer. -/
def switchName (s : Switch) : String := "mock:" ++ s.profile.id.text

/-- A peer does something; `false` if it cannot or there is no such peer. -/
def act (n : Network) (l : LinkId) (f : Peer → Peer × Bool) : Network × Bool :=
  match n.peer? l with
  | none => (n, false)
  | some p =>
    let (p, done) := f p
    (n.modifyPeer l fun _ => p, done)

/-! ## The controller -/

/-- Runs an operation of the controller. -/
def call {α : Type} (n : Network) (f : Controller → Controller × α) : Network × α :=
  let (controller, a) := f n.controller
  ({ n with controller }, a)

/-- Changes who is told of events. -/
def withListeners {α : Type} (n : Network) (f : Listeners → Listeners × α) : Network × α :=
  let d := n.dispatcher
  let (listeners, a) := f d.listeners
  ({ n with dispatcher := { d with listeners } }, a)

/-- Lets waiting listeners go on. -/
def release (n : Network) (count : Nat) : Network :=
  let (dispatcher, made) := (n.dispatcher.release count).run
  { n with dispatcher, deliveries := n.deliveries ++ made }

/-- What a controller does from time to time. -/
inductive Sweep where
  /-- It looks for silent connections. -/
  | idle
  /-- It gives up old requests. -/
  | requests
deriving DecidableEq

/-- One sweep, while the controller serves. -/
def sweep (n : Network) (s : Sweep) : Network :=
  let c := n.controller
  if c.isShutDown then n
  else match s with
    | .idle => { n with controller := c.checkIdle }
    | .requests => { n with controller := c.pruneRequests }

/-- Stops serving. Work for datapaths is not waited for, and listeners learn of what happened
before but not that the connections end. -/
def shutDown (n : Network) : Network :=
  if n.controller.isShutDown then n
  else
    let n := { n with controller := n.controller.shutDown }
    -- all connections are closed by now, so no work can end well, but what was announced before is
    -- still told
    let n := (provision false n.provisionSteps n).deliverEvents
    let (dispatcher, made) := n.dispatcher.shutdown
    { n with dispatcher, deliveries := n.deliveries ++ made }

end Network

end Southbound
