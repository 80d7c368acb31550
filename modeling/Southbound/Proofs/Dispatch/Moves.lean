import Southbound.Counters
import Southbound.Dispatch.Dispatcher
import Southbound.Proofs.Dispatch.Registrations

/-!
# The dispatcher move by move

`Worker.run` lets a worker go on until there is nothing to do or a listener has to wait. Seen more
closely, a worker makes one move at a time (`Worker.next?`): it starts an event, calls a listener,
or finds that the call it was waiting for has returned. `Activity` is a dispatcher together with
what has happened so far, and `Activity.step` lets workers move between submissions, releases,
registrations and a shutdown in any order, for any hash of datapath ids.

* `Worker.next?_eq_some_iff`  everything a worker can do next
* `Activity.does_step`        everything a move can do
-/

namespace Southbound

/-- What a worker does in one move. -/
inductive Deed where
  | starts (e : Event)
  | calls (d : Delivery)
  /-- The call it was waiting for has returned. -/
  | returns
deriving DecidableEq

/-- The call that is made. -/
def Deed.call? : Deed → Option Delivery
  | calls d => some d
  | _ => none

/-! ## One worker -/

namespace Worker

/-- The next move of a worker, unless it has nothing to do or has to wait. -/
def next? (ls : Listeners) (g : Gate) (w : Worker) : Option (Gate × Worker × Deed) :=
  if w.isWaiting then g.pass?.map fun g' => (g', { w with isWaiting := false }, .returns)
  else
    -- the event in hand goes before those that wait
    match w.calls, w.queue with
    | d :: ds, _ =>
      some (g, { w with calls := ds, isWaiting := d.listener.conduct = .waits }, .calls d)
    | [], e :: es =>
      -- whom to call is settled when the event is started
      some (g, { w with queue := es, depth := w.depth - 1, calls := ls.deliveries e }, .starts e)
    | [], [] => none

/-- There is nothing to do. -/
structure IsIdle (w : Worker) : Prop where
  isWaiting : w.isWaiting = false
  calls : w.calls = []
  queue : w.queue = []

/-- Everything a worker can do next. -/
inductive Goes (ls : Listeners) (g : Gate) (w : Worker) : Gate × Worker × Deed → Prop
  | returns {g' : Gate} (hw : w.isWaiting = true) (hg : g.pass? = some g') :
      Goes ls g w (g', { w with isWaiting := false }, .returns)
  | calls {d : Delivery} {ds : List Delivery} (hw : w.isWaiting = false)
      (hcalls : w.calls = d :: ds) :
      Goes ls g w (g, { w with calls := ds, isWaiting := d.listener.conduct = .waits }, .calls d)
  | starts {e : Event} {es : List Event} (hw : w.isWaiting = false) (hcalls : w.calls = [])
      (hqueue : w.queue = e :: es) :
      Goes ls g w
        (g, { w with queue := es, depth := w.depth - 1, calls := ls.deliveries e }, .starts e)

variable {ls : Listeners} {g : Gate} {w : Worker}

/-- A worker makes one of the moves that there are. -/
theorem next?_eq_some_iff {p : Gate × Worker × Deed} : w.next? ls g = some p ↔ w.Goes ls g p := by
  constructor
  · intro h
    -- waiting, calls in hand, events in the queue: the three are asked in this order
    unfold next? at h
    split at h
    · next hw =>
      obtain ⟨g', hg, rfl⟩ := Option.map_eq_some_iff.1 h
      exact .returns hw hg
    · next hw =>
      have hw' := eq_false_of_ne_true hw
      split at h
      · next d ds es hcalls => exact Option.some.inj h ▸ .calls hw' hcalls
      · next e es hcalls hqueue => exact Option.some.inj h ▸ .starts hw' hcalls hqueue
      · cases h
  · intro h
    cases h with
    | returns hw hg => rw [next?, if_pos hw, hg, Option.map_some]
    | calls hw hcalls => simp [next?, hw, hcalls]
    | starts hw hcalls hqueue => simp [next?, hw, hcalls, hqueue]

/-- Only a listener that has to wait keeps a worker from going on. -/
theorem next?_eq_none_iff :
    w.next? ls g = none ↔ w.IsIdle ∨ (w.isWaiting = true ∧ g.pass? = none) := by
  unfold next?
  split
  · next hw =>
    rw [Option.map_eq_none_iff]
    exact ⟨fun h => .inr ⟨hw, h⟩, fun h => h.elim (fun h => by simp [h.isWaiting] at hw) And.right⟩
  · next hw =>
    -- a worker that waits for nobody rests only when it has nothing to do
    have hno : ¬ (w.isWaiting = true ∧ g.pass? = none) := fun h => hw h.1
    rw [or_iff_left hno]
    split
    · next d ds es hcalls => exact ⟨nofun, fun h => by simp [h.calls] at hcalls⟩
    · next e es hcalls hqueue => exact ⟨nofun, fun h => by simp [h.queue] at hqueue⟩
    · next hcalls hqueue => exact ⟨fun _ => ⟨eq_false_of_ne_true hw, hcalls, hqueue⟩, fun _ => rfl⟩

/-- What holds of all workers, after one of them has changed. -/
theorem forall_set {ws : List Worker} {i : Nat} {w' : Worker} {P Q : Nat → Worker → Prop}
    (h : ∀ j w, ws[j]? = some w → P j w) (hi : Q i w') (hne : ∀ j w, j ≠ i → P j w → Q j w)
    (j : Nat) (w : Worker) (hw : (ws.set i w')[j]? = some w) : Q j w := by
  by_cases hj : j = i
  · subst hj
    rw [List.getElem?_set_self'] at hw
    obtain ⟨-, -, rfl⟩ := Option.map_eq_some_iff.1 hw
    exact hi
  · rw [List.getElem?_set_ne (Ne.symm hj)] at hw
    exact hne j w hj (h j w hw)

end Worker

/-! ## What happens -/

/-- Something that happens to a dispatcher. -/
inductive Occurrence where
  | submitted (e : Event) (s : Submission)
  | did (i : Nat) (deed : Deed)
  | changed (op : Listeners.Operation) (a : Listeners.Answer)
deriving DecidableEq

namespace Occurrence

/-- The event that was accepted. -/
def accepted? : Occurrence → Option Event
  | submitted e .accepted => some e
  | _ => none

/-- The event that was dropped. -/
def dropped? : Occurrence → Option Event
  | submitted e .dropped => some e
  | _ => none

/-- The event that a worker started. -/
def started? : Occurrence → Option Event
  | did _ (.starts e) => some e
  | _ => none

/-- What was done to the listeners. -/
def operation? : Occurrence → Option Listeners.Operation
  | changed op _ => some op
  | _ => none

/-- What came of it. -/
def answer? : Occurrence → Option Listeners.Answer
  | changed _ a => some a
  | _ => none

/-- The call that a worker made. -/
def call? : Occurrence → Option Delivery
  | did _ deed => deed.call?
  | _ => none

/-- Has the `i`-th worker done this? -/
def isBy (i : Nat) : Occurrence → Bool
  | did j _ => j = i
  | _ => false

/-- Has the `i`-th worker started an event? -/
def isStartBy (i : Nat) (o : Occurrence) : Bool := o.isBy i && o.started?.isSome

end Occurrence

/-- What has happened to a dispatcher, oldest first. -/
abbrev History := List Occurrence

namespace History

variable (h : History) (o : Occurrence)

/-- The accepted events, in the order of submission. -/
def accepted : List Event := h.filterMap Occurrence.accepted?

def dropped : List Event := h.filterMap Occurrence.dropped?

/-- The events that workers have started, in that order. -/
def started : List Event := h.filterMap Occurrence.started?

/-- The calls that workers have made. -/
def calls : List Delivery := h.filterMap Occurrence.call?

/-- What was done to the listeners. -/
def operations : List Listeners.Operation := h.filterMap Occurrence.operation?

def answers : List Listeners.Answer := h.filterMap Occurrence.answer?

/-- What is read off a history grows by what is read off its end. -/
private theorem filterMap_concat {α : Type} (f : Occurrence → Option α) :
    (h ++ [o]).filterMap f = h.filterMap f ++ (f o).toList := by
  rw [List.filterMap_append]
  cases hf : f o <;> simp [hf]

@[simp] theorem accepted_concat : accepted (h ++ [o]) = h.accepted ++ o.accepted?.toList :=
  filterMap_concat h o _

@[simp] theorem dropped_concat : dropped (h ++ [o]) = h.dropped ++ o.dropped?.toList :=
  filterMap_concat h o _

@[simp] theorem started_concat : started (h ++ [o]) = h.started ++ o.started?.toList :=
  filterMap_concat h o _

@[simp] theorem operations_concat :
    operations (h ++ [o]) = h.operations ++ o.operation?.toList :=
  filterMap_concat h o _

@[simp] theorem answers_concat : answers (h ++ [o]) = h.answers ++ o.answer?.toList :=
  filterMap_concat h o _

end History

/-- A dispatcher and what has happened to it. -/
structure Activity where
  dispatcher : Dispatcher
  /-- Nothing is accepted any more. -/
  isShutDown : Bool := false
  counters : Counters := {}
  past : History := []

/-- Whatever can happen next. -/
inductive Move where
  | submit (e : Event)
  /-- The `i`-th worker makes a move, if it can. -/
  | work (i : Nat)
  /-- So many listeners that wait may go on. -/
  | release (n : Nat)
  /-- No listener has to wait any more. -/
  | unblock
  | change (op : Listeners.Operation)
  | shutDown

namespace Activity

def new (workers capacity : Nat) : Activity where
  dispatcher := .new workers capacity

/-- The share of a datapath among `n` workers. -/
def place (hash : DatapathId → Nat) (n : Nat) (d : DatapathId) : Nat := hash d % n

/-- The hash of the dispatcher's own sharing out. -/
def sipHash (d : DatapathId) : Nat := (SipHash.hash 0 0 [d.value]).toNat

/-- The dispatcher shares out by its own hash. -/
theorem shard_eq_place : Dispatcher.shard = place sipHash := rfl

/-- Workers have moved, and this is what they have done. -/
def advance (a : Activity) (gate : Gate) (workers : List Worker) (past : History) : Activity :=
  { a with dispatcher := { a.dispatcher with gate, workers }, past := a.past ++ past }

def step (hash : DatapathId → Nat) (a : Activity) : Move → Activity
  | .submit e =>
    -- workers go on after a shutdown, but are handed nothing
    if a.isShutDown then { a with past := a.past ++ [.submitted e .discarded] }
    else
      let (dispatcher, s) := a.dispatcher.submitTo (place hash) e
      { a with
        dispatcher
        counters := if s = .dropped then a.counters.countDrop else a.counters
        past := a.past ++ [.submitted e s] }
  | .work i =>
    match a.dispatcher.workers[i]?.bind (Worker.next? a.dispatcher.listeners a.dispatcher.gate) with
    | none => a
    | some (g, w, deed) => a.advance g (a.dispatcher.workers.set i w) [.did i deed]
  | .release n => { a with dispatcher := a.dispatcher.release n }
  | .unblock =>
    { a with dispatcher := { a.dispatcher with gate := { a.dispatcher.gate with isOpen := true } } }
  | .change op =>
    let (listeners, answer) := a.dispatcher.listeners.apply op
    { a with
      dispatcher := { a.dispatcher with listeners }
      past := a.past ++ [.changed op answer] }
  | .shutDown => { a with isShutDown := true }

def run (hash : DatapathId → Nat) (a : Activity) (ms : List Move) : Activity :=
  ms.foldl (step hash) a

/-- Moves can be made in two parts. -/
theorem run_append (hash : DatapathId → Nat) (a : Activity) (before after : List Move) :
    a.run hash (before ++ after) = (a.run hash before).run hash after := List.foldl_append

/-- What every move keeps, every run keeps. -/
theorem run_induction {hash : DatapathId → Nat} {P : Activity → Prop}
    (hstep : ∀ a m, P a → P (a.step hash m)) {a : Activity} (h : P a) (ms : List Move) :
    P (a.run hash ms) := by
  induction ms generalizing a with
  | nil => exact h
  | cons m ms ih => exact ih (hstep a m h)

/-- The worker that is to have the events of a datapath. -/
def workerOf? (hash : DatapathId → Nat) (a : Activity) (d : DatapathId) : Option Worker :=
  a.dispatcher.workers[place hash a.dispatcher.workers.length d]?

/-! ## One move -/

/-- Everything a move can do. -/
inductive Does (hash : DatapathId → Nat) (a : Activity) : Move → Activity → Prop
  | discards {e : Event} (h : a.isShutDown = true ∨ a.workerOf? hash e.source = none) :
      Does hash a (.submit e) { a with past := a.past ++ [.submitted e .discarded] }
  | drops {e : Event} {w : Worker} (h : a.isShutDown = false)
      (hw : a.workerOf? hash e.source = some w) (he : e.isDroppable = true)
      (hfull : a.dispatcher.capacity ≤ w.depth) :
      Does hash a (.submit e)
        { a with counters := a.counters.countDrop, past := a.past ++ [.submitted e .dropped] }
  | accepts {e : Event} {w : Worker} (h : a.isShutDown = false)
      (hw : a.workerOf? hash e.source = some w)
      (hroom : ¬ (e.isDroppable = true ∧ a.dispatcher.capacity ≤ w.depth)) :
      Does hash a (.submit e)
        { a with
          dispatcher := { a.dispatcher with
            workers := a.dispatcher.workers.set
              (place hash a.dispatcher.workers.length e.source)
              { w with queue := w.queue ++ [e], depth := w.depth + 1 } }
          past := a.past ++ [.submitted e .accepted] }
  | works {i : Nat} {w w' : Worker} {g : Gate} {deed : Deed}
      (hw : a.dispatcher.workers[i]? = some w)
      (h : w.Goes a.dispatcher.listeners a.dispatcher.gate (g, w', deed)) :
      Does hash a (.work i) (a.advance g (a.dispatcher.workers.set i w') [.did i deed])
  | rests {i : Nat} (h : ∀ w, a.dispatcher.workers[i]? = some w →
      w.next? a.dispatcher.listeners a.dispatcher.gate = none) : Does hash a (.work i) a
  | releases {n : Nat} : Does hash a (.release n) { a with dispatcher := a.dispatcher.release n }
  | unblocks : Does hash a .unblock
      { a with
        dispatcher := { a.dispatcher with gate := { a.dispatcher.gate with isOpen := true } } }
  | changes {op : Listeners.Operation} : Does hash a (.change op)
      { a with
        dispatcher := { a.dispatcher with listeners := (a.dispatcher.listeners.apply op).1 }
        past := a.past ++ [.changed op (a.dispatcher.listeners.apply op).2] }
  | shutsDown : Does hash a .shutDown { a with isShutDown := true }

/-- A move does one of the things that there are. -/
theorem does_step (hash : DatapathId → Nat) (a : Activity) (m : Move) :
    a.Does hash m (a.step hash m) := by
  cases m with
  | submit e =>
    cases hdown : a.isShutDown with
    | true =>
      rw [step, if_pos hdown]
      exact .discards (.inl hdown)
    | false =>
      -- what is left is what the dispatcher does with the event
      rw [step, if_neg (ne_true_of_eq_false hdown), Dispatcher.submitTo]
      cases hw : a.dispatcher.workers[place hash a.dispatcher.workers.length e.source]? with
      | none => exact .discards (.inr hw)
      | some w =>
        by_cases hfull : e.isDroppable = true ∧ a.dispatcher.capacity ≤ w.depth
        · dsimp only
          rw [if_pos hfull]
          exact .drops hdown hw hfull.1 hfull.2
        · dsimp only
          rw [if_neg hfull]
          exact .accepts hdown hw hfull
  | work i =>
    rw [step]
    cases hnext : a.dispatcher.workers[i]?.bind
        (Worker.next? a.dispatcher.listeners a.dispatcher.gate) with
    | none => exact .rests (Option.bind_eq_none_iff.1 hnext)
    | some p =>
      obtain ⟨w, hw, hp⟩ := Option.bind_eq_some_iff.1 hnext
      exact .works hw (Worker.next?_eq_some_iff.1 hp)
  | release n => exact .releases
  | unblock => exact .unblocks
  | change op => exact .changes
  | shutDown => exact .shutsDown

end Activity

end Southbound
