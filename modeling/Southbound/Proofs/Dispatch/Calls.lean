import Southbound.Proofs.Dispatch.Running

/-!
# Who is called

A worker that has started an event makes just the calls that the registrations of that moment ask
for, in their order, whatever comes of each call, and then goes on to the next event.

* `Worker.Follows`         every event that a worker has started, and whom it has called for it
* `Activity.orderly_step`  a move keeps to that
* `Activity.calls_run`     in every run, the calls are those that are owed
-/

namespace Southbound

open Listeners (Owes)

/-! ## The calls of one worker -/

namespace History

variable {i : Nat} {o : Occurrence}

/-- The calls for the event in hand: those that the `i`-th worker makes before it starts another
one, and those `left`, if it does not. -/
def callsInHand (i : Nat) (left : List Delivery) : History → List Delivery
  | [] => left
  | o :: os =>
    if o.isStartBy i then []
    else if o.isBy i then o.call?.toList ++ callsInHand i left os
    else callsInHand i left os

/-- All calls that the `i`-th worker has made. -/
def callsBy (i : Nat) (h : History) : List Delivery := calls (h.filter (·.isBy i))

/-- What a worker calls is no longer left, and it starts another event when nothing is left. -/
theorem callsInHand_concat {left left' : List Delivery}
    (h : callsInHand i left' [o] = left) (since : History) :
    callsInHand i left' (since ++ [o]) = since.callsInHand i left := by
  induction since with
  | nil => exact h
  | cons p os ih => rw [List.cons_append, callsInHand, callsInHand, ih]

/-- A worker has made one call more, or the same. -/
private theorem callsBy_concat (h : History) :
    callsBy i (h ++ [o]) = h.callsBy i ++ if o.isBy i then o.call?.toList else [] := by
  rw [callsBy, List.filter_append, calls, List.filterMap_append, List.filter_singleton]
  cases o.isBy i with
  | false => rfl
  | true => cases hcall : o.call? <;> simp [calls, callsBy, hcall]

end History

namespace Worker

variable {i : Nat} {past : History} {o : Occurrence} {w w' : Worker}

/-- The `i`-th worker has made the calls for each event that it has started, but for those left, no
others, and it waits only for a listener that has to be waited for. -/
structure Follows (i : Nat) (past : History) (w : Worker) : Prop where
  unprompted : past.callsInHand i w.calls = []
  started (before : History) (e : Event) (after : History) :
    past = before ++ .did i (.starts e) :: after →
      Owes before.operations e (after.callsInHand i w.calls)
  waits : w.isWaiting = true →
    ∃ d, (past.callsBy i).getLast? = some d ∧ d.listener.conduct = .waits

/-- A worker follows what was owed as long as it makes the next call or starts the next event. -/
private theorem Follows.concat (h : w.Follows i past)
    (hcalls : History.callsInHand i w'.calls [o] = w.calls)
    (hstarts : ∀ e, o = .did i (.starts e) → Owes past.operations e w'.calls)
    (hwaits : w'.isWaiting = true →
      ∃ d, (History.callsBy i (past ++ [o])).getLast? = some d ∧ d.listener.conduct = .waits) :
    w'.Follows i (past ++ [o]) := by
  refine ⟨(History.callsInHand_concat hcalls past).trans h.unprompted, ?_, hwaits⟩
  intro before e after heq
  -- the event is started just now, or it was started before
  rcases Listeners.concat_eq_append_cons.1 heq with ⟨rfl, rfl, rfl⟩ | ⟨after', rfl, rfl⟩
  · exact hstarts e rfl
  · rw [History.callsInHand_concat hcalls]
    exact h.started before e after' rfl

/-- What others do is no concern of a worker. -/
theorem Follows.other (h : w.Follows i past) (ho : o.isBy i = false) (hcalls : w'.calls = w.calls)
    (hwaiting : w'.isWaiting = w.isWaiting) : w'.Follows i (past ++ [o]) := by
  refine h.concat ?_ ?_ ?_
  · simp [History.callsInHand, Occurrence.isStartBy, ho, hcalls]
  · rintro e rfl
    simp [Occurrence.isBy] at ho
  · rw [hwaiting, History.callsBy_concat, ho]
    simpa using h.waits

/-- So it does in each of its moves. -/
private theorem Follows.goes {ls : Listeners} {g g' : Gate} {deed : Deed} (h : w.Follows i past)
    (hls : ls = Listeners.run {} past.operations) (hgoes : w.Goes ls g (g', w', deed)) :
    w'.Follows i (past ++ [.did i deed]) := by
  -- a worker returns from a call, makes the next one, or starts the next event
  cases hgoes with
  | returns =>
    refine h.concat ?_ (fun e he => by cases he) nofun
    simp [History.callsInHand, Occurrence.isStartBy, Occurrence.isBy, Occurrence.started?,
      Occurrence.call?, Deed.call?]
  | @calls d ds hw hcalls =>
    refine h.concat ?_ (fun e he => by cases he) fun hwaits => ⟨d, ?_, of_decide_eq_true hwaits⟩
    · simp [History.callsInHand, Occurrence.isStartBy, Occurrence.isBy, Occurrence.started?,
        Occurrence.call?, Deed.call?, hcalls]
    · simp [History.callsBy_concat, Occurrence.isBy, Occurrence.call?, Deed.call?]
  | @starts e es hw hcalls =>
    refine h.concat ?_ (fun e' he => ?_) fun hwaits => ?_
    · simp [History.callsInHand, Occurrence.isStartBy, Occurrence.isBy, Occurrence.started?, hcalls]
    · -- the calls are settled now, by the listeners registered so far
      cases he
      exact hls ▸ Listeners.owes_deliveries _ e
    · simp [hw] at hwaits

end Worker

/-! ## All workers -/

namespace Activity

variable {hash : DatapathId → Nat} {ls : Listeners} {ws : List Worker} {past : History}
  {a : Activity}

/-- The listeners are those that were registered, and all workers follow them. -/
structure Orderly (ls : Listeners) (ws : List Worker) (past : History) : Prop where
  listeners : ls = Listeners.run {} past.operations
  answers : past.answers = Listeners.answers {} past.operations
  follows (i : Nat) (w : Worker) : ws[i]? = some w → w.Follows i past
  lt_length (i : Nat) (deed : Deed) : .did i deed ∈ past → i < ws.length

/-- At first nobody has been called. -/
private theorem orderly_new (workers capacity : Nat) :
    let a := new workers capacity
    Orderly a.dispatcher.listeners a.dispatcher.workers a.past where
  listeners := rfl
  answers := rfl
  follows i w hw := by
    obtain rfl := List.eq_of_mem_replicate (List.mem_of_getElem? hw)
    exact ⟨rfl, fun before e after heq => by simp [new] at heq, nofun⟩
  lt_length i deed h := absurd h List.not_mem_nil

namespace Orderly

/-- Submitting an event calls nobody. -/
private theorem submit (h : Orderly ls ws past) (e : Event) (s : Submission) :
    Orderly ls ws (past ++ [.submitted e s]) where
  listeners := by simpa [Occurrence.operation?] using h.listeners
  answers := by simpa [Occurrence.answer?, Occurrence.operation?] using h.answers
  follows i w hw := (h.follows i w hw).other rfl rfl rfl
  lt_length i deed hmem := h.lt_length i deed (by simpa using hmem)

/-- A registration changes what is owed for the events that are started from now on. -/
private theorem change (h : Orderly ls ws past) (op : Listeners.Operation) :
    Orderly (ls.apply op).1 ws (past ++ [.changed op (ls.apply op).2]) where
  listeners := by
    rw [History.operations_concat, h.listeners]
    exact (Listeners.run_concat _ _ op).symm
  answers := by
    rw [History.answers_concat, History.operations_concat, h.answers, h.listeners]
    exact (Listeners.answers_concat _ _ op).symm
  follows i w hw := (h.follows i w hw).other rfl rfl rfl
  lt_length i deed hmem := h.lt_length i deed (by simpa using hmem)

/-- What is done to the events that wait is no concern of the event in hand. -/
theorem set {i : Nat} {w w' : Worker} (h : Orderly ls ws past) (hw : ws[i]? = some w)
    (hcalls : w'.calls = w.calls) (hwaiting : w'.isWaiting = w.isWaiting) :
    Orderly ls (ws.set i w') past where
  listeners := h.listeners
  answers := h.answers
  follows := by
    obtain ⟨hunprompted, hstarted, hwaits⟩ := h.follows i w hw
    refine Worker.forall_set h.follows ?_ ?_
    · exact ⟨hcalls ▸ hunprompted, hcalls ▸ hstarted, hwaiting ▸ hwaits⟩
    · exact fun _ _ _ hv => hv
  lt_length j deed hmem := by
    rw [List.length_set]
    exact h.lt_length j deed hmem

/-- A move of one worker concerns no other. -/
private theorem work {i : Nat} {w w' : Worker} {g g' : Gate} {deed : Deed} (h : Orderly ls ws past)
    (hw : ws[i]? = some w) (hgoes : w.Goes ls g (g', w', deed)) :
    Orderly ls (ws.set i w') (past ++ [.did i deed]) where
  listeners := by simpa [Occurrence.operation?] using h.listeners
  answers := by simpa [Occurrence.answer?, Occurrence.operation?] using h.answers
  follows := by
    refine Worker.forall_set h.follows ?_ ?_
    · exact (h.follows i w hw).goes h.listeners hgoes
    · intro j v hj hv
      exact hv.other (decide_eq_false hj.symm) rfl rfl
  lt_length j deed' hmem := by
    rw [List.length_set]
    rcases List.mem_append.1 hmem with hmem | hmem
    · exact h.lt_length j deed' hmem
    · cases List.mem_singleton.1 hmem
      exact (List.getElem?_eq_some_iff.1 hw).1

end Orderly

/-- Every move keeps to what is owed. -/
theorem orderly_step (h : Orderly a.dispatcher.listeners a.dispatcher.workers a.past) (m : Move) :
    let b := a.step hash m
    Orderly b.dispatcher.listeners b.dispatcher.workers b.past := by
  have hdoes := a.does_step hash m
  intro b
  change a.Does hash m b at hdoes
  generalize b = c at hdoes
  -- a submission adds no deed, and a worker that steps adds exactly the one it did
  cases hdoes with
  | discards | drops => exact h.submit _ _
  | accepts _ hw => exact (h.submit _ _).set hw rfl rfl
  | works hw hgoes => exact h.work hw hgoes
  | changes => exact h.change _
  | rests | releases | unblocks | shutsDown => exact h

/-- By induction, so does every run. -/
private theorem orderly_run (h : Orderly a.dispatcher.listeners a.dispatcher.workers a.past)
    (ms : List Move) :
    let b := a.run hash ms
    Orderly b.dispatcher.listeners b.dispatcher.workers b.past :=
  run_induction (P := fun b => Orderly b.dispatcher.listeners b.dispatcher.workers b.past)
    (fun _ m h => orderly_step h m) h ms

/-- In every run, whatever was registered and removed, for each event that a worker has started the
calls made and those left are the ones owed to the registrations of that moment, in their order, and
workers make no other calls. Only a listener that waits holds a worker up: otherwise it makes the
calls that are left, whatever came of those before. There is at most one packet sequencer, the first
one installed since the last removal; no number is handed out twice, and what is refused changes
nothing. What the dispatcher does in one run are such moves of its workers. -/
theorem calls_run (hash : DatapathId → Nat) (workers capacity : Nat) (ms : List Move) :
    let a := (new workers capacity).run hash ms
    let ls := a.dispatcher.listeners
    (∀ (before after : History) i e, a.past = before ++ .did i (.starts e) :: after →
      ∃ w, a.dispatcher.workers[i]? = some w ∧
        Owes before.operations e (after.callsInHand i w.calls)) ∧
    (∀ i w, a.dispatcher.workers[i]? = some w → a.past.callsInHand i w.calls = [] ∧
      (w.isWaiting = true →
        ∃ d, (a.past.callsBy i).getLast? = some d ∧ d.listener.conduct = .waits) ∧
      (w.isWaiting = false → ∀ d ds, w.calls = d :: ds →
        (a.step hash (.work i)).past = a.past ++ [.did i (.calls d)])) ∧
    ls.sequencer = Listeners.installed? a.past.operations ∧
    (∀ l s, ls.sequencer = some s → ls.apply (.setSequencer l) = (ls, .refused .sequencerTaken)) ∧
    (a.past.answers.filterMap Listeners.Answer.number?).Nodup ∧
    (∀ op id, (ls.apply op).2.number? = some id → id = Listeners.numbered a.past.operations + 1) ∧
    (∀ op f, (ls.apply op).2 = .refused f → (a.step hash (.change op)).dispatcher = a.dispatcher) ∧
    ∃ os, Reaches hash a { a with dispatcher := a.dispatcher.run.1, past := a.past ++ os }
      a.dispatcher.run.2 := by
  intro a ls
  have h : Orderly ls a.dispatcher.workers a.past := orderly_run (orderly_new workers capacity) ms
  refine ⟨fun before after i e heq => ?_, fun i w hw => ⟨(h.follows i w hw).unprompted,
    (h.follows i w hw).waits, fun hwaiting d ds hcalls => past_work hw (.calls hwaiting hcalls)⟩,
    ?_, fun l s hs => ?_, ?_, fun op id hid => ?_, fun op f hf => ?_, reaches_run hash a⟩
  -- only workers that exist have deeds in the past
  · have hlt : i < a.dispatcher.workers.length := by
      refine h.lt_length i (.starts e) ?_
      rw [heq]
      exact List.mem_append_right _ List.mem_cons_self
    have hw := List.getElem?_eq_getElem hlt
    exact ⟨_, hw, (h.follows i _ hw).started before e after heq⟩
  · rw [h.listeners, Listeners.sequencer_run]
  · rw [Listeners.apply, Listeners.setSequencer, hs]
  · rw [h.answers, Listeners.numbers_run]
    exact List.nodup_range'
  · rw [(Listeners.does_apply ls op).number?, h.listeners, Listeners.lastId_run] at hid
    split at hid
    · exact (Option.some.inj hid).symm
    · cases hid
  · show { a.dispatcher with listeners := (ls.apply op).1 } = a.dispatcher
    rw [(Listeners.does_apply ls op).eq_of_refused hf]

end Activity

end Southbound
