import Southbound.Dispatch.Listeners
import Southbound.Dispatch.SipHash

/-!
# The dispatcher

Brings events to listeners on a fixed number of workers. All events of a datapath go to the same
worker, which takes them one by one, so they are delivered in the order in which they were
submitted. A worker that has too many events waiting loses new messages, but never an event about
a datapath.

Who is called is decided when a worker takes an event up, not when it is submitted. A listener that
waits keeps its worker busy until it is released; releases that nobody waits for are kept.
-/

namespace Southbound

/-- The worker's share of the events: those that wait, and the calls that the event it has taken
up still gives rise to. -/
structure Worker where
  queue : List Event := []
  /-- How many events wait. -/
  depth : Nat := 0
  /-- The calls still to be made for the event in hand. -/
  calls : List Delivery := []
  /-- The last call has not returned. -/
  isWaiting : Bool := false
deriving DecidableEq

/-- Whether waiting listeners may go on. -/
structure Gate where
  /-- Releases not used up yet. -/
  releases : Nat := 0
  /-- Nobody has to wait any more. -/
  isOpen : Bool := false
deriving DecidableEq

/-- Lets one waiting listener go on, if that can be. -/
def Gate.pass? (g : Gate) : Option Gate :=
  if g.isOpen then some g
  else if g.releases > 0 then some { g with releases := g.releases - 1 }
  else none

namespace Worker

/-- Makes the calls of the event in hand up to one that has to wait: the calls left, whether the
last one waits, and the calls made. -/
def makeCalls (g : Gate) : List Delivery → Gate × List Delivery × Bool × List Delivery
  | [] => (g, [], false, [])
  | d :: ds =>
    if d.listener.conduct = .waits then
      match g.pass? with
      | none => (g, ds, true, [d])
      | some g' =>
        let (g'', left, waits, made) := makeCalls g' ds
        (g'', left, waits, d :: made)
    else
      let (g', left, waits, made) := makeCalls g ds
      (g', left, waits, d :: made)

/-- Takes up the events that wait, one after the other, until one has to wait. -/
def takeUp (ls : Listeners) (g : Gate) (depth : Nat) : List Event → Gate × Worker × List Delivery
  | [] => (g, { depth }, [])
  | e :: es =>
    -- who is called is settled here, when the event is taken up
    match makeCalls g (ls.deliveries e) with
    | (g', left, true, made) =>
      (g', { queue := es, depth := depth - 1, calls := left, isWaiting := true }, made)
    | (g', _, false, made) =>
      let (g'', w, more) := takeUp ls g' (depth - 1) es
      (g'', w, made ++ more)

/-- Goes on with the event in hand, and then with those that wait. -/
def resume (ls : Listeners) (g : Gate) (w : Worker) : Gate × Worker × List Delivery :=
  match makeCalls g w.calls with
  | (g', left, true, made) => (g', { w with calls := left, isWaiting := true }, made)
  | (g', _, false, made) =>
    let (g'', w', more) := takeUp ls g' w.depth w.queue
    (g'', w', made ++ more)

/-- Runs until there is nothing to do or a listener has to wait. -/
def run (ls : Listeners) (g : Gate) (w : Worker) : Gate × Worker × List Delivery :=
  if w.isWaiting then
    match g.pass? with
    | none => (g, w, [])
    | some g' => resume ls g' { w with isWaiting := false }
  else resume ls g w

/-- Runs workers one after the other. -/
def runAll (ls : Listeners) (g : Gate) : List Worker → Gate × List Worker × List Delivery
  | [] => (g, [], [])
  | w :: ws =>
    let (g', w', made) := run ls g w
    let (g'', ws', more) := runAll ls g' ws
    (g'', w' :: ws', made ++ more)

end Worker

structure Dispatcher where
  listeners : Listeners := {}
  /-- None after a shutdown. -/
  workers : List Worker
  /-- How many messages may wait for a worker. -/
  capacity : Nat
  gate : Gate := {}
deriving DecidableEq

/-- What became of a submitted event. -/
inductive Submission where
  | accepted
  | dropped
  /-- There are no workers any more. -/
  | discarded
deriving DecidableEq

namespace Dispatcher

def new (workers capacity : Nat) : Dispatcher where
  workers := List.replicate (max workers 1) {}
  capacity := capacity

/-- The share of a datapath among `n` workers. -/
def shard (n : Nat) (d : DatapathId) : Nat := (SipHash.hash 0 0 [d.value]).toNat % n

/-- Hands an event to the worker that `place` names among so many. -/
def submitTo (place : Nat → DatapathId → Nat) (d : Dispatcher) (e : Event) :
    Dispatcher × Submission :=
  let i := place d.workers.length e.source
  match d.workers[i]? with
  | none => (d, .discarded)
  | some w =>
    -- the event in hand is not among those that wait
    if e.isDroppable ∧ w.depth ≥ d.capacity then (d, .dropped)
    else
      let w' := { w with queue := w.queue ++ [e], depth := w.depth + 1 }
      ({ d with workers := d.workers.set i w' }, .accepted)

/-- Hands an event to the worker of its datapath. -/
def submit (d : Dispatcher) (e : Event) : Dispatcher × Submission := submitTo shard d e

/-- Runs all workers as far as they get. -/
def run (d : Dispatcher) : Dispatcher × List Delivery :=
  let (gate, workers, made) := Worker.runAll d.listeners d.gate d.workers
  ({ d with gate, workers }, made)

/-- Lets `n` waiting listeners go on, now or later. -/
def release (d : Dispatcher) (n : Nat) : Dispatcher :=
  { d with gate := { d.gate with releases := d.gate.releases + n } }

/-- Ends the workers when they have delivered everything that was submitted. -/
def shutdown (d : Dispatcher) : Dispatcher × List Delivery :=
  let (d', made) := { d with gate := { d.gate with isOpen := true } }.run
  ({ d' with workers := [] }, made)

end Dispatcher

end Southbound
