import Southbound.Proofs.Dispatch.Running

/-!
# What becomes of an event

However submissions, moves of workers, releases, registrations and a shutdown follow each other,
each worker has started the events accepted for it in their order, up to those that still wait, of
which it keeps the right count; only messages are dropped, and each drop is counted.

* `Activity.balanced_step`   a move keeps the books right
* `Activity.accounting_run`  in every run, events are accepted, dropped and run as they should be
-/

namespace Southbound

/-! ## The books of one worker -/

namespace Worker

/-- Of the events accepted for a worker, those that it has not started wait, and are counted. -/
structure Keeps (mine : Event → Prop) [DecidablePred mine] (accepted started : List Event)
    (w : Worker) : Prop where
  depth : w.depth = w.queue.length
  accepted : accepted.filter mine = started.filter mine ++ w.queue

variable {mine : Event → Prop} [DecidablePred mine] {accepted started : List Event} {w : Worker}
  {e : Event}

/-- What is not one's own does not show among one's own. -/
private theorem filter_concat_of_not (es : List Event) (he : ¬ mine e) :
    (es ++ [e]).filter mine = es.filter mine := by
  rw [List.filter_append, List.filter_singleton, decide_eq_false he, cond_false, List.append_nil]

/-- What waits for a worker was accepted for it. -/
private theorem Keeps.of_mem (h : w.Keeps mine accepted started) (he : e ∈ w.queue) : mine e := by
  have hmem : e ∈ accepted.filter mine := h.accepted ▸ List.mem_append_right _ he
  exact of_decide_eq_true (List.mem_filter.1 hmem).2

/-- An event that is accepted waits. -/
theorem Keeps.accept (h : w.Keeps mine accepted started) (he : mine e) :
    Keeps mine (accepted ++ [e]) started
      { w with queue := w.queue ++ [e], depth := w.depth + 1 } where
  depth := by rw [List.length_append, h.depth]; rfl
  accepted := by
    rw [List.filter_append, h.accepted, List.filter_singleton, decide_eq_true he, cond_true,
      List.append_assoc]

/-- One that is accepted for another worker does not. -/
private theorem Keeps.accept_other (h : w.Keeps mine accepted started) (he : ¬ mine e) :
    w.Keeps mine (accepted ++ [e]) started where
  depth := h.depth
  accepted := by rw [filter_concat_of_not accepted he, h.accepted]

/-- The first event that waits is started. -/
theorem Keeps.start {es : List Event} (h : w.Keeps mine accepted started)
    (hqueue : w.queue = e :: es) (ds : List Delivery) :
    Keeps mine accepted (started ++ [e])
      { w with queue := es, depth := w.depth - 1, calls := ds } where
  depth := by rw [h.depth, hqueue]; rfl
  accepted := by
    have he : mine e := h.of_mem (hqueue ▸ List.mem_cons_self)
    rw [h.accepted, hqueue, List.filter_append, List.filter_singleton, decide_eq_true he, cond_true,
      List.append_assoc]
    rfl

/-- What another worker starts did not wait here. -/
private theorem Keeps.start_other (h : w.Keeps mine accepted started) (he : ¬ mine e) :
    w.Keeps mine accepted (started ++ [e]) where
  depth := h.depth
  accepted := by rw [filter_concat_of_not started he, h.accepted]

/-- The order of all events of a worker is the order of those of each datapath. -/
theorem Keeps.filter (h : w.Keeps mine accepted started) {p : Event → Prop} [DecidablePred p]
    (hp : ∀ e, p e → mine e) :
    accepted.filter p = started.filter p ++ w.queue.filter p := by
  have hfilter (es : List Event) : (es.filter mine).filter p = es.filter p := by
    rw [List.filter_filter]
    refine List.filter_congr fun e _ => ?_
    rw [← Bool.decide_and, decide_eq_decide]
    exact and_iff_left_of_imp (hp e)
  rw [← hfilter accepted, h.accepted, List.filter_append, hfilter]

end Worker

/-! ## All books -/

namespace Activity

variable {hash : DatapathId → Nat} {n : Nat} {ws : List Worker} {drops : Nat} {past : History}
  {a : Activity}

/-- The books of all workers are right, and those of the dropped events. -/
structure Balanced (hash : DatapathId → Nat) (n : Nat) (ws : List Worker) (drops : Nat)
    (past : History) : Prop where
  length : ws.length = n
  keeps (i : Nat) (w : Worker) : ws[i]? = some w →
    w.Keeps (fun e => place hash n e.source = i) past.accepted past.started
  own (i : Nat) (e : Event) : .did i (.starts e) ∈ past → place hash n e.source = i
  counted : drops = past.dropped.length
  droppable (e : Event) : e ∈ past.dropped → e.isDroppable = true

/-- At first nothing has been accepted. -/
private theorem balanced_new (hash : DatapathId → Nat) (workers capacity : Nat) :
    let a := new workers capacity
    Balanced hash (max workers 1) a.dispatcher.workers a.counters.droppedEvents a.past where
  length := List.length_replicate
  keeps i w hw := by
    obtain rfl := List.eq_of_mem_replicate (List.mem_of_getElem? hw)
    exact ⟨rfl, rfl⟩
  own i e he := absurd he List.not_mem_nil
  counted := rfl
  droppable e he := absurd he List.not_mem_nil

namespace Balanced

variable {w w' : Worker} {i : Nat} {e : Event} {o : Occurrence}

/-- What is no start adds none to those that were made. -/
private theorem mem_concat_of_started? (ho : o.started? = none) :
    Occurrence.did i (.starts e) ∈ past ++ [o] ↔ Occurrence.did i (.starts e) ∈ past := by
  rw [List.mem_append, List.mem_singleton, or_iff_left]
  rintro rfl
  cases ho

/-- What is neither a submission nor the start of an event does not touch the books. -/
theorem record (h : Balanced hash n ws drops past) (haccepted : o.accepted? = none)
    (hdropped : o.dropped? = none) (hstarted : o.started? = none) :
    Balanced hash n ws drops (past ++ [o]) where
  length := h.length
  keeps := by simpa [haccepted, hstarted] using h.keeps
  own j f hf := h.own j f ((mem_concat_of_started? hstarted).1 hf)
  counted := by simpa [hdropped] using h.counted
  droppable := by simpa [hdropped] using h.droppable

/-- A drop is counted. -/
private theorem drop (h : Balanced hash n ws drops past) (he : e.isDroppable = true) :
    Balanced hash n ws (drops + 1) (past ++ [.submitted e .dropped]) where
  length := h.length
  keeps := by simpa [Occurrence.accepted?, Occurrence.started?] using h.keeps
  own j f hf := h.own j f ((mem_concat_of_started? rfl).1 hf)
  counted := by simp [Occurrence.dropped?, h.counted]
  droppable f hf := by
    rw [History.dropped_concat, List.mem_append] at hf
    rcases hf with hf | hf
    · exact h.droppable f hf
    · rwa [List.mem_singleton.1 hf]

/-- An event is accepted for the worker that is to have it. -/
private theorem accept (h : Balanced hash n ws drops past)
    (hw : ws[place hash n e.source]? = some w) :
    Balanced hash n
      (ws.set (place hash n e.source) { w with queue := w.queue ++ [e], depth := w.depth + 1 })
      drops (past ++ [.submitted e .accepted]) where
  length := List.length_set.trans h.length
  keeps := by
    have hstarted : History.started (past ++ [.submitted e .accepted]) = past.started := by
      simp [Occurrence.started?]
    rw [hstarted, History.accepted_concat]
    refine Worker.forall_set h.keeps ?_ ?_
    · exact (h.keeps _ w hw).accept rfl
    · intro j v hj hv
      exact hv.accept_other hj.symm
  own j f hf := h.own j f ((mem_concat_of_started? rfl).1 hf)
  counted := by simpa [Occurrence.dropped?] using h.counted
  droppable := by simpa [Occurrence.dropped?] using h.droppable

/-- A worker that starts an event takes it off its own books and no others. -/
theorem start (h : Balanced hash n ws drops past) (hw : ws[i]? = some w) {es : List Event}
    (hqueue : w.queue = e :: es) (ds : List Delivery) :
    Balanced hash n (ws.set i { w with queue := es, depth := w.depth - 1, calls := ds }) drops
      (past ++ [.did i (.starts e)]) := by
  have hkeeps := h.keeps i w hw
  -- it waited for this worker, so it is one of its own
  have hown : place hash n e.source = i := hkeeps.of_mem (hqueue ▸ List.mem_cons_self)
  constructor
  case length => exact List.length_set.trans h.length
  case keeps =>
    have haccepted : History.accepted (past ++ [.did i (.starts e)]) = past.accepted := by
      simp [Occurrence.accepted?]
    rw [haccepted, History.started_concat]
    refine Worker.forall_set h.keeps ?_ ?_
    · exact hkeeps.start hqueue ds
    · intro j v hj hv
      exact hv.start_other fun hj' => hj (hj'.symm.trans hown)
  case own =>
    intro j f hf
    rcases List.mem_append.1 hf with hf | hf
    · exact h.own j f hf
    · cases List.mem_singleton.1 hf
      exact hown
  case counted => simpa [Occurrence.dropped?] using h.counted
  case droppable => simpa [Occurrence.dropped?] using h.droppable

/-- Apart from that, moves of workers do not touch the books. -/
theorem set (h : Balanced hash n ws drops past) (hw : ws[i]? = some w)
    (hdepth : w'.depth = w.depth) (hqueue : w'.queue = w.queue) :
    Balanced hash n (ws.set i w') drops past where
  length := List.length_set.trans h.length
  keeps := by
    have hkeeps := h.keeps i w hw
    refine Worker.forall_set h.keeps ?_ ?_
    · exact ⟨by rw [hdepth, hqueue, hkeeps.depth], by rw [hqueue, hkeeps.accepted]⟩
    · exact fun _ _ _ hv => hv
  own := h.own
  counted := h.counted
  droppable := h.droppable

end Balanced

/-- Every move keeps the books right. -/
theorem balanced_step (h : Balanced hash n a.dispatcher.workers a.counters.droppedEvents a.past)
    (m : Move) :
    let b := a.step hash m
    Balanced hash n b.dispatcher.workers b.counters.droppedEvents b.past := by
  have hdoes := a.does_step hash m
  intro b
  change a.Does hash m b at hdoes
  generalize b = c at hdoes
  -- an event moves from submitted to queued or dropped, and from queued to started; nothing else is
  -- counted
  cases hdoes with
  | discards | changes => exact h.record rfl rfl rfl
  | drops hopen hw he hfull => exact h.drop he
  | accepts hopen hw hroom =>
    rw [h.length]
    exact h.accept (h.length ▸ hw)
  | works hw hgoes =>
    cases hgoes with
    | returns | calls => refine (h.set hw ?_ ?_).record ?_ ?_ ?_ <;> rfl
    | starts _ _ hqueue => exact h.start hw hqueue _
  | rests | releases | unblocks | shutsDown => exact h

/-- By induction, so does every run. -/
private theorem balanced_run
    (h : Balanced hash n a.dispatcher.workers a.counters.droppedEvents a.past) (ms : List Move) :
    let b := a.run hash ms
    Balanced hash n b.dispatcher.workers b.counters.droppedEvents b.past :=
  run_induction (P := fun b =>
    Balanced hash n b.dispatcher.workers b.counters.droppedEvents b.past)
    (fun _ m h => balanced_step h m) h ms

/-- The capacity is what it was. -/
private theorem capacity_step (a : Activity) (m : Move) :
    (a.step hash m).dispatcher.capacity = a.dispatcher.capacity := by
  have hdoes := a.does_step hash m
  generalize a.step hash m = b at hdoes
  cases hdoes <;> rfl

/-- So it is in every run. -/
private theorem capacity_run (a : Activity) (ms : List Move) :
    (a.run hash ms).dispatcher.capacity = a.dispatcher.capacity :=
  run_induction (P := fun b => b.dispatcher.capacity = a.dispatcher.capacity)
    (fun b m h => (capacity_step b m).trans h) rfl ms

/-- A dispatcher is shut down once, and for good. -/
private theorem isShutDown_run (a : Activity) (ms : List Move) :
    (a.run hash ms).isShutDown = true ↔ a.isShutDown = true ∨ .shutDown ∈ ms := by
  induction ms generalizing a with
  | nil => simp [run]
  | cons m ms ih =>
    have hstep : (a.step hash m).isShutDown = true ↔ a.isShutDown = true ∨ .shutDown = m := by
      have hdoes := a.does_step hash m
      generalize a.step hash m = b at hdoes
      cases hdoes <;> simp [advance]
    rw [List.mem_cons, ← or_assoc, ← hstep]
    exact ih _

/-- Nothing is accepted after that. -/
private theorem accepted_step (h : a.isShutDown = true) (m : Move) :
    (a.step hash m).isShutDown = true ∧ (a.step hash m).past.accepted = a.past.accepted := by
  have hdoes := a.does_step hash m
  generalize a.step hash m = b at hdoes
  cases hdoes with
  | drops hopen | accepts hopen => simp [h] at hopen
  | discards | works | changes => simp [h, advance, Occurrence.accepted?]
  | rests | releases | unblocks => exact ⟨h, rfl⟩
  | shutsDown => exact ⟨rfl, rfl⟩

/-- Nothing is accepted after a shutdown. -/
theorem accepted_run (h : a.isShutDown = true) (ms : List Move) :
    (a.run hash ms).past.accepted = a.past.accepted := by
  have hrun : (a.run hash ms).isShutDown = true ∧ (a.run hash ms).past.accepted = a.past.accepted :=
    run_induction (P := fun b => b.isShutDown = true ∧ b.past.accepted = a.past.accepted)
      (fun b m hb => ⟨(accepted_step hb.1 m).1, (accepted_step hb.1 m).2.trans hb.2⟩) ⟨h, rfl⟩ ms
  exact hrun.2

/-! ## Every run -/

/-- The worker of an event has room for it, unless that may be dropped and too many wait. -/
theorem past_submit (h : Balanced hash n a.dispatcher.workers a.counters.droppedEvents a.past)
    (hopen : a.isShutDown = false) {e : Event} {w : Worker}
    (hw : a.dispatcher.workers[place hash n e.source]? = some w) :
    (a.step hash (.submit e)).past = a.past ++ [.submitted e
      (if e.isDroppable = true ∧ a.dispatcher.capacity ≤ w.queue.length then .dropped
        else .accepted)] := by
  have hof : a.workerOf? hash e.source = some w := by
    rw [workerOf?, h.length, hw]
  -- the depth kept beside the queue is its length
  have hdepth := (h.keeps _ w hw).depth
  have hdoes := a.does_step hash (.submit e)
  generalize a.step hash (.submit e) = b at hdoes
  cases hdoes with
  | discards hno => simp [hopen, hof] at hno
  | @drops e v _ hv he hfull =>
    obtain rfl : w = v := Option.some.inj (hof.symm.trans hv)
    rw [if_pos ⟨he, hdepth ▸ hfull⟩]
  | @accepts e v _ hv hroom =>
    obtain rfl : w = v := Option.some.inj (hof.symm.trans hv)
    rw [hdepth] at hroom
    rw [if_neg hroom]

/-- Of the events of each datapath, all that were accepted have been started, in their order. -/
def HasStartedAll (past : History) : Prop :=
  ∀ x : DatapathId, past.started.filter (·.source = x) = past.accepted.filter (·.source = x)

/-- The events of a datapath are all with one worker. -/
private theorem Balanced.exists_worker (h : Balanced hash n ws drops past) (hn : 0 < n)
    (x : DatapathId) :
    ∃ w, ws[place hash n x]? = some w ∧
      past.accepted.filter (·.source = x) =
        past.started.filter (·.source = x) ++ w.queue.filter (·.source = x) := by
  have hlt : place hash n x < ws.length := by
    rw [h.length]
    exact Nat.mod_lt _ hn
  obtain ⟨w, hw⟩ : ∃ w, ws[place hash n x]? = some w := ⟨_, List.getElem?_eq_getElem hlt⟩
  refine ⟨w, hw, (h.keeps _ w hw).filter fun e he => ?_⟩
  rw [he]

/-- When all workers are idle every accepted event has been started. -/
private theorem Balanced.hasStartedAll (h : Balanced hash n ws drops past) (hn : 0 < n)
    (hidle : ∀ w ∈ ws, w.IsIdle) : HasStartedAll past := by
  intro x
  obtain ⟨w, hw, heq⟩ := h.exists_worker hn x
  rw [heq, (hidle w (List.mem_of_getElem? hw)).queue, List.filter_nil, List.append_nil]

/-- In every run, each worker keeps the books of the events that were accepted for it, so those of
one datapath are started in the order of submission, each once, the next one as soon as the worker
has nothing in hand. Before a shutdown an event is accepted unless it may be dropped and at least as
many events as allowed wait for the worker of its datapath; then it is counted, and it was no event
about a datapath. What the dispatcher does in one run, and a network with an event, are such moves.
After a shutdown nothing is accepted any more, and workers run all that was accepted before, once
listeners return. -/
theorem accounting_run (hash : DatapathId → Nat) (workers capacity : Nat) (ms : List Move) :
    let n := max workers 1
    let a := (new workers capacity).run hash ms
    (∀ i < n, ∃ w, a.dispatcher.workers[i]? = some w ∧
      w.Keeps (fun e => place hash n e.source = i) a.past.accepted a.past.started) ∧
    (∀ x, ∃ w, a.dispatcher.workers[place hash n x]? = some w ∧
      a.past.accepted.filter (·.source = x) =
        a.past.started.filter (·.source = x) ++ w.queue.filter (·.source = x)) ∧
    (∀ i e, .did i (.starts e) ∈ a.past → place hash n e.source = i) ∧
    (∀ i w e es, a.dispatcher.workers[i]? = some w → w.isWaiting = false → w.calls = [] →
      w.queue = e :: es → (a.step hash (.work i)).past = a.past ++ [.did i (.starts e)]) ∧
    (.shutDown ∉ ms → ∀ e, ∃ w, a.dispatcher.workers[place hash n e.source]? = some w ∧
      (a.step hash (.submit e)).past = a.past ++ [.submitted e
        (if e.isDroppable = true ∧ capacity ≤ w.queue.length then .dropped else .accepted)]) ∧
    (∀ e ∈ a.past.dropped, ∃ m, e = .message m) ∧
    a.counters.droppedEvents = a.past.dropped.length ∧
    (∃ os, Reaches hash a { a with dispatcher := a.dispatcher.run.1, past := a.past ++ os }
      a.dispatcher.run.2) ∧
    (∀ net e, a.Serves net → .shutDown ∉ ms → ∃ b made,
      Reaches sipHash (a.step sipHash (.submit e)) b made ∧ b.Serves (net.deliver e) ∧
        (net.deliver e).deliveries = net.deliveries ++ made) ∧
    ∀ later, let c := a.run hash (.shutDown :: later)
      c.past.accepted = a.past.accepted ∧
      ∃ b, Reaches hash (c.step hash .unblock) b c.dispatcher.shutdown.2 ∧
        { b.dispatcher with workers := [] } = c.dispatcher.shutdown.1 ∧
        (∀ w ∈ b.dispatcher.workers, w.IsIdle) ∧ b.past.accepted = a.past.accepted ∧
        HasStartedAll b.past := by
  intro n a
  have hn : 0 < n := Nat.le_max_right _ _
  have h : Balanced hash n a.dispatcher.workers a.counters.droppedEvents a.past :=
    balanced_run (balanced_new hash workers capacity) ms
  have hopen (hno : .shutDown ∉ ms) : a.isShutDown = false := by
    rw [← Bool.not_eq_true, isShutDown_run]
    exact not_or_intro nofun hno
  refine ⟨fun i hi => ?_, h.exists_worker hn, h.own,
    fun i w e es hw hwaiting hcalls hqueue => past_work hw (.starts hwaiting hcalls hqueue),
    fun hno e => ?_, fun e he => ?_, h.counted, reaches_run hash a,
    fun net e hnet hno => reaches_deliver hnet (hopen hno) e, fun later => ?_⟩
  · have hlt : i < a.dispatcher.workers.length := h.length.symm ▸ hi
    exact ⟨_, List.getElem?_eq_getElem hlt, h.keeps i _ (List.getElem?_eq_getElem hlt)⟩
  · obtain ⟨w, hw, -⟩ := h.exists_worker hn e.source
    have hcapacity : a.dispatcher.capacity = capacity := capacity_run _ ms
    rw [← hcapacity]
    exact ⟨w, hw, past_submit h (hopen hno) hw⟩
  · cases e with
    | message m => exact ⟨m, rfl⟩
    | datapath d => cases h.droppable _ he
  · intro c
    have hdown : c.isShutDown = true := (isShutDown_run a _).2 (.inr List.mem_cons_self)
    have haccepted : c.past.accepted = a.past.accepted := accepted_run rfl later
    obtain ⟨b, hreach, hshutdown, hidle⟩ := reaches_shutdown hash c
    obtain ⟨is, rfl, -⟩ := id hreach
    -- the workers got there by moves, so their books are still right
    have hb := balanced_run (balanced_step (balanced_run h (.shutDown :: later)) .unblock)
      (is.map .work)
    exact ⟨haccepted, _, hreach, hshutdown, hidle,
      (accepted_run hdown (.unblock :: is.map .work)).trans haccepted, hb.hasStartedAll hn hidle⟩

end Activity

end Southbound
