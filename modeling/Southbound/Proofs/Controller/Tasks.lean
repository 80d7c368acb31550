import Southbound.Proofs.Controller.Sessions

/-!
# Initial flows and sweeps as steps

The installation of initial flows makes one piece of news, that a datapath is ready, and what is
done from time to time makes none.
-/

namespace Southbound.Controller

open Relation (ReflTransGen)

variable {a : Option LinkId} {c c' : Controller} {l m : LinkId}

/-! ## Initial flows -/

/-- A datapath that is wanted was submitted, and its connection is open. -/
theorem isWanted_eq_true {dp : Datapath} (h : c.isWanted dp = true) :
    dp.provisioning = .submitted ∧
      ∃ k, c.link? dp.main = some k ∧ k.connection.isClosed = false := by
  rw [isWanted, Bool.and_eq_true, decide_eq_true_iff, Bool.not_eq_true'] at h
  obtain ⟨hsubmitted, hopen⟩ := h
  refine ⟨hsubmitted, ?_⟩
  unfold isClosed at hopen
  split at hopen
  · next hconnection =>
    obtain ⟨k, hk, rfl⟩ := connection?_eq_some hconnection
    exact ⟨k, hk, hopen⟩
  · cases hopen

/-- The end of the work is that the datapath gets ready, if it does. -/
theorem moves_completeTask {dp : Datapath} (hdp : c.datapath? m = some dp) (hm : dp.main = m) :
    Moves a m c (c.completeTask dp).1 := by
  subst hm
  unfold completeTask
  split
  · next hwanted =>
    split
    · exact moves_of_eq rfl
    · next hnew =>
      obtain ⟨hsubmitted, k, hk, hopen⟩ := isWanted_eq_true hwanted
      -- that it is ready, and that its connection is, are one change of the outline
      have hready : ((c.modifyDatapath dp.main fun _ =>
          { dp with isReady := true }).modifyConnection dp.main fun k => k.enter .ready).outline =
          (c.outline.updateDatapath dp.main .getReady).updateLink dp.main (.enter .ready) := by
        rw [outline_modifyConnection_enter,
          outline_setDatapath (g := .getReady) (datapath?_outline hdp) rfl]
      obtain ⟨e, he, hout⟩ := outline_emitDatapath ((c.modifyDatapath dp.main fun _ =>
        { dp with isReady := true }).modifyConnection dp.main fun k => k.enter .ready) .ready
        { dp with isReady := true }
      refine moves_of_news ⟨?_, introduces_of_tells (congrArg (·.events) hout) he (by decide)⟩
      refine Eq.subst (motive := Outline.Eventful dp.main c.outline) (hout.trans ?_).symm
        (.readies (link?_outline hk) hopen (datapath?_outline hdp) hsubmitted
          (Bool.eq_false_iff.2 hnew) he)
      exact congrArg (Outline.tell · [e]) hready
  · exact moves_of_eq rfl

/-- Sending flows leaves the outline alone. -/
theorem outline_sendFlows (c : Controller) (dp : Datapath) (flows : List FlowMod)
    (awaiting : Ticket → TaskStage) : (c.sendFlows dp flows awaiting).1.outline = c.outline := by
  have hsent := outline_sendBatchOn c dp (flows.map .flowMod)
  unfold sendFlows
  split
  · next h =>
    rw [h] at hsent
    exact hsent
  · next h =>
    rw [h] at hsent
    exact hsent

/-- So does collecting them. -/
private theorem outline_collectFlows (c : Controller) (dp : Datapath) :
    (c.collectFlows dp).1.outline = c.outline := by
  unfold collectFlows
  split <;> rfl

/-- The type of a device does not show. -/
theorem outline_beginTask (c : Controller) (m : LinkId) :
    (c.beginTask m).1.outline = c.outline := by
  unfold beginTask
  split
  · rfl
  · split
    · next dp _ _ =>
      show (c.modifyDatapath m fun dp' =>
        { dp' with deviceType := some (DeviceType.resolve dp.descriptor) }).outline = _
      exact outline_modifyDatapath_same fun _ _ => rfl
    · rfl

/-- What goes on with the work is its completion, or does not show. -/
theorem continueTask_eq_some {dp : Datapath} {patient : Bool} {stage : TaskStage} {p : Progress}
    (h : c.continueTask dp patient stage = some p) :
    p = c.completeTask dp ∨ p.1.outline = c.outline := by
  -- completing is the one step that shows outside the task
  cases stage with
  | begun =>
    obtain rfl := Option.some.inj h
    split
    · exact .inr (outline_sendFlows c dp _ _)
    · exact .inl rfl
  | purging ticket =>
    obtain ⟨confirmed, -, rfl⟩ := Option.map_eq_some_iff.1 h
    cases confirmed with
    | false => exact .inr rfl
    | true => exact .inr (outline_collectFlows c dp)
  | collected flows =>
    cases flows with
    | nil => exact .inl (Option.some.inj h).symm
    | cons f fs =>
      obtain rfl := Option.some.inj h
      exact .inr (outline_sendFlows c dp _ _)
  | installing ticket =>
    obtain ⟨confirmed, -, rfl⟩ := Option.map_eq_some_iff.1 h
    cases confirmed with
    | false => exact .inr rfl
    | true => exact .inl rfl
  | failed =>
    obtain rfl := Option.some.inj h
    exact .inr rfl

/-- A step of the work completes what was begun for a datapath, or does not show. -/
theorem provision?_eq_some {patient : Bool} {p : Progress}
    (h : c.provision? patient = some (m, p)) :
    (∃ dp, c.datapath? m = some dp ∧ p = c.completeTask dp) ∨ p.1.outline = c.outline := by
  -- the running task goes on, or the next one in the queue begins
  unfold provision? at h
  split at h
  · split at h
    · obtain ⟨rfl, rfl⟩ := Prod.mk.inj (Option.some.inj h)
      exact .inr rfl
    · next dp hdp =>
      obtain ⟨p', hp', heq⟩ := Option.map_eq_some_iff.1 h
      obtain ⟨rfl, rfl⟩ := Prod.mk.inj heq
      exact (continueTask_eq_some hp').imp_left fun hcomplete => ⟨dp, hdp, hcomplete⟩
  · split at h
    · cases h
    · next rest _ =>
      obtain ⟨rfl, rfl⟩ := Prod.mk.inj (Option.some.inj h)
      exact .inr (outline_beginTask { c with tasks := rest } _)

/-- A step of the work for a datapath is an operation of its main connection. -/
theorem moves_provision? (h : c.outline.Sound) {patient : Bool} {p : Progress}
    (hstep : c.provision? patient = some (m, p)) : Moves a m c p.1 := by
  rcases provision?_eq_some hstep with ⟨dp, hdp, rfl⟩ | hout
  · exact moves_completeTask hdp (h.main_eq (datapath?_outline hdp))
  · exact moves_of_eq hout

/-- Initial flows are installed on datapaths that are registered, which nobody gets by it. -/
theorem main?_provision? {patient : Bool} {p : Progress}
    (hstep : c.provision? patient = some (m, p)) (i : DatapathId) :
    p.1.outline.main? i = c.outline.main? i := by
  rcases provision?_eq_some hstep with ⟨dp, -, rfl⟩ | hout
  · unfold completeTask
    split
    · split <;> rfl
    · rfl
  · rw [hout]

/-! ## Connections that come and go -/

/-- A connection that is accepted is new. -/
theorem outline_accept {remote : String} (h : c.accept remote = .ok (c', l)) :
    c.outline.link? l = none ∧ c'.outline = c.outline.addLink l := by
  unfold accept at h
  split at h
  · cases h
  · obtain ⟨rfl, rfl⟩ := Prod.mk.inj (Except.ok.inj h)
    refine ⟨congrArg (Option.map Link.outline) (List.getElem?_eq_none (Nat.le_refl _)), ?_⟩
    refine Outline.ext (funext fun j => ?_) rfl rfl rfl
    -- connections are numbered in the order in which they come, so the new one has the first free
    -- number
    simp only [outline, link?, Outline.addLink]
    split
    · next hj =>
      rw [hj, List.getElem?_concat_length]
      rfl
    · next hj =>
      rw [List.getElem?_append, List.getElem?_singleton]
      split
      · rfl
      · next hlt =>
        have hgt : c.links.length < j := Nat.lt_of_le_of_ne (Nat.not_lt.1 hlt) (Ne.symm hj)
        rw [if_neg (Nat.sub_ne_zero_of_lt hgt), List.getElem?_eq_none (Nat.le_of_lt hgt)]

/-- That is a quiet step. -/
theorem calm_accept {remote : String} (h : c.accept remote = .ok (c', l)) :
    Outline.Calm a c.outline c'.outline := by
  obtain ⟨hnone, hout⟩ := outline_accept h
  exact hout ▸ .accept hnone

/-- Connections are closed one quiet step after the other. -/
private theorem calm_closeLinks (c : Controller) (ls : List LinkId) :
    ReflTransGen (Outline.Calm a) c.outline (c.closeLinks ls).outline := by
  rw [outline_closeLinks]
  generalize c.outline = o
  induction ls generalizing o with
  | nil => exact .refl
  | cons l ls ih => exact .head (.close l) (ih (o.updateLink l .close))

/-- A writer that fails cancels its connection. -/
theorem calm_afterWriting (c : Controller) (l : LinkId) (w : WriterRun) :
    ReflTransGen (Outline.Calm a) c.outline
      (c.modifyConnection l fun k => k.afterWriting w).outline := by
  -- what becomes of the queue does not show
  have hwritten (k : Link) : Link.outline { k with connection :=
      if w.finished then k.connection.orphan else { k.connection with queue := [] } } =
      k.outline := by
    split <;> rfl
  cases hw : w.cancelled with
  | true =>
    have hout : (c.modifyConnection l fun k => k.afterWriting w).outline =
        c.outline.updateLink l .cancel := by
      refine outline_modifyLink fun k _ => ?_
      rw [← hwritten k, ← outline_cancel]
      simp only [Connection.afterWriting, hw, ↓reduceIte]
    exact hout ▸ .single (.cancel l)
  | false =>
    have hout : (c.modifyConnection l fun k => k.afterWriting w).outline = c.outline := by
      refine outline_modifyLink_same fun k _ => ?_
      rw [← hwritten k]
      simp only [Connection.afterWriting, hw, Bool.false_eq_true, ↓reduceIte]
    exact hout ▸ .refl

/-- Liveness checks close connections at most. -/
theorem calm_checkLink (c : Controller) (l : LinkId) :
    ReflTransGen (Outline.Calm a) c.outline (c.checkLink l).outline := by
  unfold checkLink
  split
  · exact .refl
  · next k hk =>
    -- neither does the bookkeeping of liveness, so that only closing counts
    have hchecked (liveness : Liveness) :
        (c.modifyConnection l fun k => { k with liveness }).outline = c.outline :=
      outline_modifyLink_same fun _ _ => rfl
    dsimp only
    split
    · exact hchecked _ ▸ .refl
    · split
      · exact hchecked _ ▸ .refl
      · split
        · next h => exact ((outline_write h).trans (hchecked _)) ▸ .refl
        · exact hchecked (k.liveness.check c.clock c.livenessLimits).1 ▸ .refl
    · rw [outline_modifyConnection_close, hchecked]
      exact .single (.close l)

/-- So are those that have been idle for too long. -/
theorem calm_checkIdle (c : Controller) :
    ReflTransGen (Outline.Calm a) c.outline c.checkIdle.outline := by
  unfold checkIdle
  generalize c.openLinks = ls
  induction ls generalizing c with
  | nil => exact .refl
  | cons l ls ih => exact (calm_checkLink c l).trans (ih (c.checkLink l))

/-- So are all of them when the controller shuts down. -/
theorem calm_shutDown (c : Controller) :
    ReflTransGen (Outline.Calm a) c.outline c.shutDown.outline :=
  calm_closeLinks { c with isShutDown := true } c.openLinks

end Southbound.Controller
