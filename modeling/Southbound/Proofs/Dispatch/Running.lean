import Southbound.Network.Basic
import Southbound.Proofs.Dispatch.Moves

/-!
# Running is moving

What `Dispatcher.run` and `Dispatcher.shutdown` do at one go, workers do move by move.

* `Worker.runsTo_run`          a run takes a worker through moves until it has none left
* `Activity.reaches_run`       and the dispatcher through moves of its workers
* `Activity.reaches_shutdown`  as does a shutdown, after which all workers are idle
* `Activity.reaches_deliver`   and a network that hands over an event
-/

namespace Southbound

/-! ## One worker -/

namespace Worker

variable {ls : Listeners} {g g' g'' : Gate} {w w' w'' : Worker} {deed : Deed}
  {deeds more : List Deed}

/-- A worker makes moves one after the other, and nobody else does in between. -/
inductive Proceeds (ls : Listeners) : Gate → Worker → List Deed → Gate → Worker → Prop
  | refl {g : Gate} {w : Worker} : Proceeds ls g w [] g w
  | step {g g' g'' : Gate} {w w' w'' : Worker} {deed : Deed} {deeds : List Deed}
      (h : w.Goes ls g (g', w', deed)) (more : Proceeds ls g' w' deeds g'' w'') :
      Proceeds ls g w (deed :: deeds) g'' w''

/-- A worker can make its moves in two parts. -/
private theorem Proceeds.trans (h : Proceeds ls g w deeds g' w')
    (h' : Proceeds ls g' w' more g'' w'') :
    Proceeds ls g w (deeds ++ more) g'' w'' := by
  induction h with
  | refl => exact h'
  | step hgoes _ ih => exact .step hgoes (ih h')

/-- No move opens or closes the gate. -/
private theorem Goes.isOpen (h : w.Goes ls g (g', w', deed)) : g'.isOpen = g.isOpen := by
  cases h with
  | returns _ hg =>
    unfold Gate.pass? at hg
    split at hg
    · exact Option.some.inj hg ▸ rfl
    · split at hg
      · exact Option.some.inj hg ▸ rfl
      · cases hg
  | calls | starts => rfl

/-- Neither do several. -/
private theorem Proceeds.isOpen (h : Proceeds ls g w deeds g' w') : g'.isOpen = g.isOpen := by
  induction h with
  | refl => rfl
  | step hgoes _ ih => exact ih.trans hgoes.isOpen

/-- A worker has made moves until it had none left, and this is where it has come to and whom it has
called. -/
def RunsTo (ls : Listeners) (g : Gate) (w : Worker) (p : Gate × Worker × List Delivery) : Prop :=
  ∃ deeds, Proceeds ls g w deeds p.1 p.2.1 ∧ deeds.filterMap Deed.call? = p.2.2 ∧
    p.2.1.next? ls p.1 = none

/-- Moves in front of a run are part of it. -/
private theorem RunsTo.of_proceeds {p : Gate × Worker × List Delivery}
    (h : Proceeds ls g w deeds g' w') (hp : RunsTo ls g' w' p) :
    RunsTo ls g w (p.1, p.2.1, deeds.filterMap Deed.call? ++ p.2.2) := by
  obtain ⟨more, hmore, hmade, hnext⟩ := hp
  exact ⟨deeds ++ more, h.trans hmore, by rw [List.filterMap_append, hmade], hnext⟩

/-- The calls of the event in hand up to one that has to wait. -/
theorem proceeds_makeCalls (ls : Listeners) (g : Gate) (ds : List Delivery) (queue : List Event)
    (depth : Nat) :
    let (g', left, waits, made) := makeCalls g ds
    ∃ deeds, Proceeds ls g ⟨queue, depth, ds, false⟩ deeds g' ⟨queue, depth, left, waits⟩ ∧
      deeds.filterMap Deed.call? = made ∧ if waits then g'.pass? = none else left = [] := by
  fun_induction makeCalls g ds with
  | case1 g => exact ⟨[], .refl, rfl, rfl⟩
  | case2 g d ds hwaits hpass =>
    -- the call is made, but does not return
    refine ⟨[.calls d], .step (.calls rfl rfl) ?_, rfl, hpass⟩
    rw [decide_eq_true hwaits]
    exact .refl
  | case3 g d ds hwaits g' hpass g'' left waits made hmake ih =>
    -- a call that waits and may go on at once is two moves
    rw [hmake] at ih
    obtain ⟨deeds, hdeeds, hmade, hend⟩ := ih
    refine ⟨.calls d :: .returns :: deeds, .step (.calls rfl rfl) ?_, congrArg (d :: ·) hmade, hend⟩
    exact .step (.returns (decide_eq_true hwaits) hpass) hdeeds
  | case4 g d ds hwaits g' left waits made hmake ih =>
    rw [hmake] at ih
    obtain ⟨deeds, hdeeds, hmade, hend⟩ := ih
    refine ⟨.calls d :: deeds, .step (.calls rfl rfl) ?_, congrArg (d :: ·) hmade, hend⟩
    rw [decide_eq_false hwaits]
    exact hdeeds

/-- By induction on the queue, events are taken up until a listener has to wait or none is left. -/
private theorem runsTo_takeUp (ls : Listeners) (g : Gate) (depth : Nat) (es : List Event) :
    RunsTo ls g { queue := es, depth } (takeUp ls g depth es) := by
  fun_induction takeUp ls g depth es with
  | case1 g depth => exact ⟨[], .refl, rfl, rfl⟩
  | case2 g depth e es g' left made hmake =>
    have h := proceeds_makeCalls ls g (ls.deliveries e) es (depth - 1)
    rw [hmake] at h
    obtain ⟨deeds, hdeeds, hmade, hpass⟩ := h
    exact ⟨.starts e :: deeds, .step (.starts rfl rfl rfl) hdeeds, hmade,
      next?_eq_none_iff.2 (.inr ⟨rfl, hpass⟩)⟩
  | case3 g depth e es g' left made hmake g'' w more htake ih =>
    have h := proceeds_makeCalls ls g (ls.deliveries e) es (depth - 1)
    rw [hmake] at h
    obtain ⟨deeds, hdeeds, rfl, rfl⟩ := h
    -- nothing is left to be called, and the worker is where `takeUp` goes on
    rw [htake] at ih
    exact .of_proceeds (.step (.starts rfl rfl rfl) hdeeds) ih

/-- The event in hand comes first. -/
private theorem runsTo_resume (ls : Listeners) (g : Gate) (hw : w.isWaiting = false) :
    RunsTo ls g w (resume ls g w) := by
  obtain ⟨queue, depth, ds, _⟩ := w
  obtain rfl := hw
  have h := proceeds_makeCalls ls g ds queue depth
  -- the calls in hand come first; if none of them waits, the queue is taken up
  unfold resume
  split
  · next g' left made hmake =>
    rw [hmake] at h
    obtain ⟨deeds, hdeeds, hmade, hpass⟩ := h
    exact ⟨deeds, hdeeds, hmade, next?_eq_none_iff.2 (.inr ⟨rfl, hpass⟩)⟩
  · next g' left made hmake =>
    rw [hmake] at h
    obtain ⟨deeds, hdeeds, rfl, rfl⟩ := h
    exact .of_proceeds hdeeds (runsTo_takeUp ls g' depth queue)

/-- So a run takes a worker through moves until it has none left. -/
theorem runsTo_run (ls : Listeners) (g : Gate) (w : Worker) : RunsTo ls g w (run ls g w) := by
  unfold run
  split
  · next hw =>
    split
    · next hpass => exact ⟨[], .refl, rfl, next?_eq_none_iff.2 (.inr ⟨hw, hpass⟩)⟩
    · next g' hpass =>
      exact .of_proceeds (.step (.returns hw hpass) .refl) (runsTo_resume ls g' rfl)
  · next hw => exact runsTo_resume ls g (eq_false_of_ne_true hw)

/-- A worker that has no move left while nobody has to wait is idle. -/
theorem isIdle_of_isOpen (hopen : g.isOpen = true) (h : w.next? ls g = none) : w.IsIdle := by
  refine (next?_eq_none_iff.1 h).resolve_right fun ⟨_, hpass⟩ => ?_
  rw [Gate.pass?, if_pos hopen] at hpass
  cases hpass

end Worker

/-! ## All workers -/

namespace Activity

variable {hash : DatapathId → Nat} {a : Activity} {g g' : Gate} {w w' : Worker}

/-- A worker that can move does. -/
private theorem step_work {i : Nat} {deed : Deed} (hw : a.dispatcher.workers[i]? = some w)
    (h : w.Goes a.dispatcher.listeners a.dispatcher.gate (g', w', deed)) :
    a.step hash (.work i) = a.advance g' (a.dispatcher.workers.set i w') [.did i deed] := by
  rw [step, hw, Option.bind_some, Worker.next?_eq_some_iff.2 h]

/-- And that goes down in history. -/
theorem past_work {i : Nat} {deed : Deed} (hw : a.dispatcher.workers[i]? = some w)
    (h : w.Goes a.dispatcher.listeners a.dispatcher.gate (g', w', deed)) :
    (a.step hash (.work i)).past = a.past ++ [.did i deed] := by
  rw [step_work hw h, advance]

/-- To advance by nothing is to stay. -/
private theorem advance_self (a : Activity) :
    a.advance a.dispatcher.gate a.dispatcher.workers [] = a := by
  rw [advance, List.append_nil]

/-- Two advances are one. -/
private theorem advance_advance (a : Activity) (g g' : Gate) (ws ws' : List Worker)
    (os os' : History) :
    (a.advance g ws os).advance g' ws' os' = a.advance g' ws' (os ++ os') := by
  simp [advance]

/-- The moves of one worker lead where it proceeds to. -/
private theorem run_replicate_work {ls : Listeners} {i : Nat} {deeds : List Deed}
    (h : Worker.Proceeds ls g w deeds g' w') (hls : a.dispatcher.listeners = ls)
    (hg : a.dispatcher.gate = g) (hw : a.dispatcher.workers[i]? = some w) :
    a.run hash (List.replicate deeds.length (.work i)) =
      a.advance g' (a.dispatcher.workers.set i w') (deeds.map (.did i)) := by
  induction h generalizing a with
  | refl =>
    obtain ⟨hi, rfl⟩ := List.getElem?_eq_some_iff.1 hw
    subst hg
    rw [List.set_getElem_self]
    exact (advance_self a).symm
  | @step g g₁ g' w w₁ w' deed deeds hgoes _ ih =>
    subst hls hg
    -- the first move leads to `w₁` at the same place, where the others start
    have hw₁ : (a.dispatcher.workers.set i w₁)[i]? = some w₁ :=
      List.getElem?_set_self (List.getElem?_eq_some_iff.1 hw).1
    have hrest := ih (a := a.advance g₁ (a.dispatcher.workers.set i w₁) [.did i deed]) rfl rfl hw₁
    rw [List.length_cons, List.replicate_succ, run, List.foldl_cons, ← run, step_work hw hgoes,
      hrest, advance_advance]
    exact congrArg (a.advance _ · _) (List.set_set ..)

/-- Moves of workers, in some order, lead from one state to another, and make these calls. -/
def Reaches (hash : DatapathId → Nat) (a b : Activity) (made : List Delivery) : Prop :=
  ∃ is : List Nat, a.run hash (is.map .work) = b ∧ b.past.calls = a.past.calls ++ made

private theorem Reaches.refl (a : Activity) :
    Reaches hash a a [] := ⟨[], rfl, (List.append_nil _).symm⟩

/-- What is reached in two parts is reached. -/
private theorem Reaches.trans {b c : Activity} {made more : List Delivery}
    (h : Reaches hash a b made) (h' : Reaches hash b c more) : Reaches hash a c (made ++ more) := by
  obtain ⟨is, rfl, hmade⟩ := h
  obtain ⟨is', rfl, hmore⟩ := h'
  refine ⟨is ++ is', ?_, ?_⟩
  · rw [List.map_append, run_append]
  · rw [hmore, hmade, List.append_assoc]

/-- What a worker proceeds to is reached. -/
private theorem Reaches.of_proceeds (hash : DatapathId → Nat) {i : Nat} {deeds : List Deed}
    (h : Worker.Proceeds a.dispatcher.listeners a.dispatcher.gate w deeds g w')
    (hw : a.dispatcher.workers[i]? = some w) :
    Reaches hash a (a.advance g (a.dispatcher.workers.set i w') (deeds.map (.did i)))
      (deeds.filterMap Deed.call?) := by
  refine ⟨List.replicate deeds.length i, ?_, ?_⟩
  · rw [List.map_replicate, run_replicate_work h rfl rfl hw]
  · rw [advance, History.calls, List.filterMap_append, List.filterMap_map]
    rfl

/-- When all workers from some worker on run in turn, they make moves. -/
theorem reaches_runAll (hash : DatapathId → Nat) (before ws : List Worker)
    (hws : a.dispatcher.workers = before ++ ws) :
    let (g, ws', made) := Worker.runAll a.dispatcher.listeners a.dispatcher.gate ws
    ∃ os, Reaches hash a (a.advance g (before ++ ws') os) made ∧
      (a.dispatcher.gate.isOpen = true → ∀ w ∈ ws', w.IsIdle) := by
  induction ws generalizing a before with
  | nil =>
    refine ⟨[], ?_, fun _ => List.forall_mem_nil _⟩
    rw [← hws, advance_self]
    exact .refl a
  | cons w ws ih =>
    -- the first worker moves until it can no more, and then the others run
    have hrun := Worker.runsTo_run a.dispatcher.listeners a.dispatcher.gate w
    unfold Worker.runAll
    generalize Worker.run a.dispatcher.listeners a.dispatcher.gate w = p at hrun ⊢
    obtain ⟨g, w', made⟩ := p
    obtain ⟨deeds, hdeeds, rfl, hstuck⟩ := hrun
    have hw : a.dispatcher.workers[before.length]? = some w := by simp [hws]
    have hset : a.dispatcher.workers.set before.length w' = before ++ [w'] ++ ws := by simp [hws]
    have hfirst := Reaches.of_proceeds hash hdeeds hw
    rw [hset] at hfirst
    have hrest := ih (a := a.advance g (before ++ [w'] ++ ws) (deeds.map (.did before.length)))
      (before ++ [w']) rfl
    dsimp only [advance] at hrest ⊢
    generalize Worker.runAll a.dispatcher.listeners g ws = q at hrest ⊢
    obtain ⟨g', ws', more⟩ := q
    obtain ⟨os, hmoves, hidle⟩ := hrest
    refine ⟨deeds.map (.did before.length) ++ os, ?_, fun hopen => ?_⟩
    · simpa [advance] using hfirst.trans hmoves
    · -- a gate that is open stays open, so the first worker had nothing left to do
      have hopen' : g.isOpen = true := hdeeds.isOpen.trans hopen
      exact List.forall_mem_cons.2 ⟨Worker.isIdle_of_isOpen hopen' hstuck, hidle hopen'⟩

/-- A run of the dispatcher is some moves of its workers. -/
theorem reaches_run (hash : DatapathId → Nat) (a : Activity) :
    ∃ os, Reaches hash a { a with dispatcher := a.dispatcher.run.1, past := a.past ++ os }
      a.dispatcher.run.2 := by
  obtain ⟨os, hmoves, -⟩ := reaches_runAll hash [] a.dispatcher.workers rfl
  exact ⟨os, hmoves⟩

/-- A shutdown lets nobody wait any more, and workers move until they are idle and then are gone. -/
theorem reaches_shutdown (hash : DatapathId → Nat) (a : Activity) :
    ∃ b, Reaches hash (a.step hash .unblock) b a.dispatcher.shutdown.2 ∧
      { b.dispatcher with workers := [] } = a.dispatcher.shutdown.1 ∧
      ∀ w ∈ b.dispatcher.workers, w.IsIdle := by
  obtain ⟨os, hmoves, hidle⟩ := reaches_runAll hash (a := a.step hash .unblock) []
    a.dispatcher.workers rfl
  exact ⟨_, hmoves, rfl, hidle rfl⟩

/-! ## Networks -/

/-- This is the dispatcher of a network, with its counters. -/
structure Serves (a : Activity) (net : Network) : Prop where
  dispatcher : a.dispatcher = net.dispatcher
  counters : a.counters = net.controller.counters

/-- A network that hands over an event submits it, and then workers move. -/
theorem reaches_deliver {net : Network} (h : a.Serves net) (hopen : a.isShutDown = false)
    (e : Event) :
    ∃ b made, Reaches sipHash (a.step sipHash (.submit e)) b made ∧ b.Serves (net.deliver e) ∧
      (net.deliver e).deliveries = net.deliveries ++ made := by
  have hsubmit : a.step sipHash (.submit e) =
      { a with
        dispatcher := (net.dispatcher.submit e).1
        counters := if (net.dispatcher.submit e).2 = .dropped then a.counters.countDrop
          else a.counters
        past := a.past ++ [.submitted e (net.dispatcher.submit e).2] } := by
    rw [step, if_neg (ne_true_of_eq_false hopen), h.dispatcher, ← shard_eq_place]
    rfl
  rw [hsubmit, Network.deliver]
  rcases net.dispatcher.submit e with ⟨d, s⟩
  -- a dropped event only counts; any other lets the workers run until they rest
  cases s with
  | dropped =>
    exact ⟨_, [], .refl _, ⟨rfl, congrArg Counters.countDrop h.counters⟩,
      (List.append_nil _).symm⟩
  | accepted | discarded =>
    obtain ⟨os, hreach⟩ := reaches_run sipHash
      { a with dispatcher := d, past := a.past ++ [.submitted e _] }
    exact ⟨_, _, hreach, ⟨rfl, h.counters⟩, rfl⟩

end Activity

end Southbound
