import Southbound.Dispatch.Event
import Southbound.Failure

/-!
# Listeners

Who is to be told of which events. Message listeners are told of the types of messages they are
interested in, datapath listeners of everything that happens to datapaths, both in the order of
priority and then of registration. Packets go to the one packet sequencer and to nobody else.
-/

namespace Southbound

/-- How a listener takes a call. -/
inductive Conduct where
  | completes
  | fails
  | panics
  /-- It returns only when it is released. -/
  | waits
deriving DecidableEq

structure Listener where
  name : String
  conduct : Conduct := .completes
deriving DecidableEq

/-- The types of messages a listener wants. -/
inductive Interest where
  | all
  | only (types : List MessageType)
deriving DecidableEq

def Interest.covers (i : Interest) (t : MessageType) : Bool :=
  match i with
  | all => true
  | only types => types.contains t

/-- The number of a registration; no number is given out twice. -/
abbrev ListenerId := Nat

structure Registration where
  id : ListenerId
  priority : Int
  interest : Interest
  listener : Listener
deriving DecidableEq

/-- Lower priorities first, and of equal ones the earlier registration. -/
def Registration.precedes (a b : Registration) : Bool :=
  a.priority < b.priority || (a.priority == b.priority && a.id < b.id)

/-- One call of a listener. -/
structure Delivery where
  listener : Listener
  event : Event
  /-- Is the listener called as the packet sequencer? -/
  isSequencer : Bool := false
deriving DecidableEq

structure Listeners where
  message : List Registration := []
  datapath : List Registration := []
  sequencer : Option Listener := none
  /-- The number given out last. Numbers are given out one after the other, without a bound. -/
  lastId : ListenerId := 0
deriving DecidableEq

namespace Listeners

/-- Puts a registration in its place. -/
def insert (r : Registration) : List Registration → List Registration
  | [] => [r]
  | s :: rs => if r.precedes s then r :: s :: rs else s :: insert r rs

/-- Registers a message listener. Packets cannot be asked for. -/
def addMessage (ls : Listeners) (l : Listener) (i : Interest) (priority : Int) :
    Except Failure (Listeners × ListenerId) :=
  let reserved := match i with
    | .all => false
    | .only types => types.contains .packetIn
  if reserved then .error (.invalidArgument .packetInListener)
  else
    let id := ls.lastId + 1
    .ok ({ ls with message := insert ⟨id, priority, i, l⟩ ls.message, lastId := id }, id)

/-- Registers a datapath listener. -/
def addDatapath (ls : Listeners) (l : Listener) (priority : Int) : Listeners × ListenerId :=
  let id := ls.lastId + 1
  ({ ls with datapath := insert ⟨id, priority, .all, l⟩ ls.datapath, lastId := id }, id)

/-- Unregisters a message listener; `false` if there is none with that number. -/
def removeMessage (ls : Listeners) (id : ListenerId) : Listeners × Bool :=
  ({ ls with message := ls.message.filter (·.id ≠ id) }, ls.message.any (·.id = id))

def removeDatapath (ls : Listeners) (id : ListenerId) : Listeners × Bool :=
  ({ ls with datapath := ls.datapath.filter (·.id ≠ id) }, ls.datapath.any (·.id = id))

/-- Installs the packet sequencer, of which there is at most one. -/
def setSequencer (ls : Listeners) (l : Listener) : Except Failure Listeners :=
  match ls.sequencer with
  | some _ => .error .sequencerTaken
  | none => .ok { ls with sequencer := some l }

/-- Removes the packet sequencer; `false` if there is none. -/
def clearSequencer (ls : Listeners) : Listeners × Bool :=
  ({ ls with sequencer := none }, ls.sequencer.isSome)

/-- The calls an event gives rise to, in order. How a listener takes a call does not matter to
those after it. -/
def deliveries (ls : Listeners) (e : Event) : List Delivery :=
  match e with
  | .message m =>
    -- packets are for the sequencer alone, and lost without one
    if m.message.type = .packetIn then
      ls.sequencer.toList.map fun l => { listener := l, event := e, isSequencer := true }
    else
      (ls.message.filter (fun r => r.interest.covers m.message.type)).map fun r =>
        { listener := r.listener, event := e }
  | .datapath _ => ls.datapath.map fun r => { listener := r.listener, event := e }

end Listeners

end Southbound
