import Southbound.Proofs.Controller.Contributors
import Southbound.Proofs.Controller.Ports

/-!
# The course of the work for a datapath

The work for a datapath takes one step after the other, and anything can happen between two of them.
A `Course` is what it comes to from some step on: which batches it sends, how it ends, and whether
the datapath is announced to be ready. There is one for each stage the work can be at, and so for
all of it (`provisioning_run`).
-/

namespace Southbound.Controller

variable {c c' : Controller} {l m : LinkId} {d : DatapathId}

/-! ## What steps do -/

/-- The step from `c` to `c'` sends a batch, and does nothing else. -/
def SendsBatch (c c' : Controller) (m : LinkId) (flows : List FlowMod)
    (result : Except Failure Ticket) : Prop :=
  ∃ dp, c.datapath? m = some dp ∧
    c.sendBatchOn dp (flows.map .flowMod) = ({ c' with activeTask := c.activeTask }, result)

/-- The step from `c` to `c'` sends nothing. -/
structure SendsNothing (c c' : Controller) : Prop where
  queues : ∀ l, (c'.connection? l).map (·.queue) = (c.connection? l).map (·.queue)
  ledger : c'.ledger = c.ledger
  drawn : c'.drawn = c.drawn

/-- The step from `c` to `c'` tells that the datapath of `m` is ready, which it was not. -/
def Announces (c c' : Controller) (m : LinkId) : Prop :=
  ∃ dp e, c.datapath? m = some dp ∧ e.Tells .ready dp.id ∧ c'.events = c.events ++ [e] ∧
    dp.isReady = false ∧ (c'.datapath? m).map (·.isReady) = some true

/-- The datapath of `m` has not gone away. -/
def Wants (c : Controller) (m : LinkId) : Prop :=
  ∃ dp, c.datapath? m = some dp ∧ c.isWanted dp = true

/-- The datapath of `m` has not gone away, and is not ready. -/
def WaitsFor (c : Controller) (m : LinkId) : Prop :=
  ∃ dp, c.datapath? m = some dp ∧ c.isWanted dp = true ∧ dp.isReady = false

/-- A request was confirmed by the switch. -/
def Confirms (c : Controller) (ticket : Ticket) : Prop :=
  ∃ o, c.ledger.outcome? ticket = some o ∧ o.isSuccess = true

/-- The contributors offer these flows, given what there is to see of the datapath of `m`. -/
def Collects (c : Controller) (m : LinkId) (flows : List FlowMod) : Prop :=
  ∃ info, (c.datapath? m).bind c.infoOf = some info ∧
    Offers info c.settings.hybridMode c.contributors flows

/-- Who leaves the connections, the ledger and the ids alone sends nothing. -/
private theorem sendsNothing_of_queues (hdrawn : c'.drawn = c.drawn)
    (hledger : c'.ledger = c.ledger) (hlinks : c'.links = c.links) : c.SendsNothing c' := by
  refine ⟨fun l => ?_, hledger, hdrawn⟩
  simp only [connection?, link?, hlinks]

/-- The work for the datapath of `m` ends with the step from `c` to `c'`: all that was sent was
confirmed, or not. -/
structure Finishes (c c' : Controller) (m : LinkId) (confirmed : Prop) (o : TaskOutcome) :
    Prop where
  idle : c'.activeTask = none
  completed_iff : o = .completed ↔ confirmed ∧ c.Wants m
  failed_iff : o = .flowsFailed ↔ ¬ confirmed ∧ c.Wants m
  suppressed_iff : o = .readySuppressed ↔ ¬ c.Wants m
  announces : confirmed → c.WaitsFor m → c.Announces c' m
  tacit : ¬ (confirmed ∧ c.WaitsFor m) → c'.events = c.events

/-- The work for a datapath is wanted as long as the datapath is. -/
private theorem wants_iff {dp : Datapath} (hdp : c.datapath? m = some dp) :
    c.Wants m ↔ c.isWanted dp = true := by
  refine ⟨fun ⟨dp', hdp', h⟩ => ?_, fun h => ⟨dp, hdp, h⟩⟩
  rwa [Option.some.inj (hdp.symm.trans hdp')]

/-- The work waits for a datapath that is wanted and not ready. -/
private theorem waitsFor_iff {dp : Datapath} (hdp : c.datapath? m = some dp) :
    c.WaitsFor m ↔ c.isWanted dp = true ∧ dp.isReady = false := by
  refine ⟨fun ⟨dp', hdp', h⟩ => ?_, fun h => ⟨dp, hdp, h⟩⟩
  rwa [Option.some.inj (hdp.symm.trans hdp')]

/-- Work that was begun is not called off. -/
private theorem Finishes.ne_aborted {P : Prop} {o : TaskOutcome} (h : Finishes c c' m P o) :
    o ≠ .aborted := by
  rintro rfl
  by_cases hwants : c.Wants m
  · by_cases hP : P
    · exact absurd (h.completed_iff.2 ⟨hP, hwants⟩) nofun
    · exact absurd (h.failed_iff.2 ⟨hP, hwants⟩) nofun
  · exact absurd (h.suppressed_iff.2 hwants) nofun

/-- Whoever would not wait any longer knows whether a request was confirmed. -/
theorem confirmation?_cases (c : Controller) (ticket : Ticket) :
    c.confirmation? ticket false = some true ∧ c.Confirms ticket ∨
      c.confirmation? ticket false = some false ∧ ¬ c.Confirms ticket := by
  unfold confirmation? Confirms
  cases c.ledger.outcome? ticket with
  | none => exact .inr ⟨rfl, fun ⟨_, ho, _⟩ => by cases ho⟩
  | some o => cases ho : o.isSuccess <;> simp [ho]

/-- The work fails. -/
theorem failTask_spec {dp : Datapath} (hdp : c.datapath? m = some dp) :
    ∃ o, (c.failTask dp).2 = some o ∧ Finishes c (c.failTask dp).1 m False o ∧
      c.SendsNothing (c.failTask dp).1 := by
  refine ⟨_, rfl, ?_, sendsNothing_of_queues rfl rfl rfl⟩
  have hwants := wants_iff hdp
  -- failing is reported as such only while the datapath is still wanted
  cases hw : c.isWanted dp with
  | true =>
    have hw' := hwants.2 hw
    exact ⟨rfl, by simp, by simp [hw'], by simp [hw'], False.elim, fun _ => rfl⟩
  | false =>
    have hw' : ¬ c.Wants m := fun h => by
      rw [hw] at hwants
      cases hwants.1 h
    exact ⟨rfl, by simp, by simp [hw'], by simp [hw'], False.elim, fun _ => rfl⟩

/-- All that was to be confirmed was confirmed. -/
theorem completeTask_spec {dp : Datapath} (hdp : c.datapath? m = some dp) (hm : dp.main = m) :
    ∃ o, (c.completeTask dp).2 = some o ∧ Finishes c (c.completeTask dp).1 m True o ∧
      c.SendsNothing (c.completeTask dp).1 := by
  subst hm
  have hwants := wants_iff hdp
  have hwaits := waitsFor_iff hdp
  unfold completeTask
  -- whether ready is wanted is settled by who the datapath's main connection now is
  split
  · next hw =>
    have hw' := hwants.2 hw
    split
    · next hready =>
      -- ready already, for instance by an earlier task: completed, with nothing more to do
      have hnot : ¬ c.WaitsFor dp.main := fun h => by
        rw [(hwaits.1 h).2] at hready
        cases hready
      exact ⟨.completed, rfl, ⟨rfl, by simp [hw'], by simp, by simp [hw'],
        fun _ h => absurd h hnot, fun _ => rfl⟩, sendsNothing_of_queues rfl rfl rfl⟩
    · next hnew =>
      have hnew := Bool.eq_false_iff.2 hnew
      refine ⟨.completed, rfl, ⟨rfl, by simp [hw'], by simp, by simp [hw'], fun _ _ => ?_,
        fun hnot => absurd ⟨trivial, hwaits.2 ⟨hw, hnew⟩⟩ hnot⟩, ?_⟩
      -- the flag is the only thing of the datapath that changes
      · let dp' : Datapath := { dp with isReady := true }
        have hdp' : (c.modifyDatapath dp.main fun _ => dp').datapath? dp.main = some dp' := by
          rw [datapath?_modifyDatapath, if_pos rfl, hdp]
          rfl
        exact ⟨dp, _, hdp, ⟨_, rfl, rfl, rfl⟩, rfl, hnew, congrArg (Option.map (·.isReady)) hdp'⟩
      · exact ⟨fun l => queue?_modifyConnection _ dp.main l fun k => queue_enter k _, rfl, rfl⟩
  · next hw =>
    have hw' : ¬ c.Wants dp.main := fun h => hw (hwants.1 h)
    exact ⟨.readySuppressed, rfl, ⟨rfl, by simp [hw'], by simp, by simp [hw'],
      fun _ h => absurd (hwaits.1 h).1 hw, fun _ => rfl⟩, sendsNothing_of_queues rfl rfl rfl⟩

/-- A batch is sent, and the work goes on to wait for it, or to fail. -/
theorem sendFlows_spec (h : c.outline.Sound) {dp : Datapath} (hdp : c.datapath? dp.main = some dp)
    (hm : c.book.isRegistered dp.main ∨ c.isClosed dp.main = true) (flows : List FlowMod)
    (awaiting : Ticket → TaskStage) :
    ∃ r stage, c.sendFlows dp flows awaiting = ((c.sendFlows dp flows awaiting).1, none) ∧
      (c.sendFlows dp flows awaiting).1.activeTask = some ⟨dp.main, stage⟩ ∧
      c.SendsBatch (c.sendFlows dp flows awaiting).1 dp.main flows r ∧
      (stage = .failed ∧ (∃ e, r = .error e) ∨
        ∃ ticket, stage = awaiting ticket ∧ r = .ok ticket) := by
  -- sending leaves the task alone, so the stage is the only thing set afterwards
  have hactive := (proceeds_sendBatchOn h hdp hm (flows.map .flowMod)).activeTask
  unfold sendFlows
  cases heq : c.sendBatchOn dp (flows.map .flowMod) with | mk c₁ r
  rw [heq] at hactive
  have hsent : c.sendBatchOn dp (flows.map .flowMod) =
      ({ c₁ with activeTask := c.activeTask }, r) := by
    rw [heq, ← hactive]
  cases r with
  | error e => exact ⟨_, .failed, rfl, rfl, ⟨dp, hdp, hsent⟩, .inl ⟨rfl, e, rfl⟩⟩
  | ok ticket => exact ⟨_, awaiting ticket, rfl, rfl, ⟨dp, hdp, hsent⟩, .inr ⟨ticket, rfl, rfl⟩⟩

/-! ## Work in progress -/

/-- The work for the datapath of `m`, which is registered as `d` or was, is at a stage. -/
structure Working (c : Controller) (m : LinkId) (d : DatapathId) (stage : TaskStage) : Prop where
  kept : c.Kept
  active : c.activeTask = some ⟨m, stage⟩
  tells : ∃ dp, c.outline.Tells m dp ∧ dp.id = d

/-- The datapath that is worked for is there, and registered or closed. -/
private theorem Working.exists_datapath {stage : TaskStage} (h : c.Working m d stage) :
    ∃ dp, c.datapath? m = some dp ∧ dp.main = m ∧ dp.id = d ∧
      (c.book.isRegistered m ∨ c.isClosed m = true) := by
  obtain ⟨o, htells, hid⟩ := h.tells
  obtain ⟨dp, hdp, rfl⟩ := Option.map_eq_some_iff.1 htells.datapath?
  have hmain : dp.main = m := h.kept.healthy.sound.main_eq htells.datapath?
  refine ⟨dp, hdp, hmain, hid, ?_⟩
  have hm := isRegistered_or_isClosed h.kept.healthy.sound h.kept.orderly hdp htells.isAnnounced
  rwa [hmain] at hm

/-- There is always something to see of the datapath. -/
theorem Working.exists_info {stage : TaskStage} (h : c.Working m d stage) {dp : Datapath}
    (hdp : c.datapath? m = some dp) : ∃ info, c.infoOf dp = some info := by
  obtain ⟨o, htells, -⟩ := h.tells
  obtain ⟨k, -, hk, -⟩ := exists_connection
    (h.kept.orderly.isPast h.kept.healthy.sound htells.datapath? htells.isAnnounced)
  have hmain : dp.main = m := h.kept.healthy.sound.main_eq (datapath?_outline hdp)
  exact ⟨dp.info k.connection, by rw [infoOf, hmain, hk]; rfl⟩

/-- A step is one with the datapath as it is. -/
theorem Working.provision?_eq {stage : TaskStage} (h : c.Working m d stage) {dp : Datapath}
    (hdp : c.datapath? m = some dp) (patient : Bool) :
    c.provision? patient = (c.continueTask dp patient stage).map fun p => (m, p) := by
  simp only [Controller.provision?, h.active, hdp]

/-- The operation does the step. -/
private theorem apply_provision {patient : Bool} {o : Option TaskOutcome}
    (hstep : c.provision? patient = some (m, c', o)) : c.apply (.provision patient) = c' := by
  simp only [apply, hstep]

/-- The work is at the next stage after a step. -/
theorem working_of_step {stage : TaskStage} (hkept : c.Kept)
    (htells : ∃ dp, c.outline.Tells m dp ∧ dp.id = d)
    (hstep : c.provision? false = some (m, c', none))
    (hactive : c'.activeTask = some ⟨m, stage⟩) : c'.Working m d stage := by
  obtain ⟨dp, htells, hid⟩ := htells
  obtain ⟨dp', htells', hid', -⟩ :=
    stays_apply hkept.healthy hkept.orderly htells (.provision false)
  have hkept' := kept_apply hkept (.provision false)
  rw [apply_provision hstep] at htells' hkept'
  exact ⟨hkept', hactive, dp', htells', hid'.trans hid⟩

/-- What is no step of the work leaves it where it is. -/
theorem Working.run {stage : TaskStage} (h : c.Working m d stage) {ops : List Operation}
    (hops : ∀ op ∈ ops, ∀ b, op ≠ .provision b) : (c.run ops).Working m d stage := by
  induction ops generalizing c with
  | nil => exact h
  | cons op ops ih =>
    obtain ⟨hop, hops⟩ := List.forall_mem_cons.1 hops
    obtain ⟨dp, htells, hid⟩ := h.tells
    obtain ⟨dp', htells', hid', -⟩ := stays_apply h.kept.healthy h.kept.orderly htells op
    refine ih ⟨kept_apply h.kept op, ?_, dp', htells', hid'.trans hid⟩ hops
    rw [(idles_apply h.kept.healthy hop).activeTask, h.active]

/-! ## Courses -/

/-- A batch that a step sends, and what comes back at once. -/
structure Sending where
  step : Nat
  flows : List FlowMod
  result : Except Failure Ticket

/-- The batch was confirmed before the next step. -/
def Sending.IsConfirmed (x : Sending) (s : Nat → Controller) : Prop :=
  ∃ ticket, x.result = .ok ticket ∧ (s (x.step + 1)).Confirms ticket

/-- The work for the datapath of `m` takes steps `first` to `last`, `s n` being the state before
step `n`. It sends some batches and nothing else, and ends with an outcome: what was to be
confirmed was confirmed, or not. -/
structure Course (s : Nat → Controller) (m : LinkId) (first last : Nat) (sent : List Sending)
    (confirmed : Prop) (o : TaskOutcome) : Prop where
  le : first ≤ last
  goesOn : ∀ n, first ≤ n → n < last →
    ∃ c', (s n).provision? false = some (m, c', none) ∧ c'.events = (s n).events
  ends : ∃ c', (s last).provision? false = some (m, c', some o) ∧ Finishes (s last) c' m confirmed o
  sends : ∀ x ∈ sent, first ≤ x.step ∧ x.step < last ∧
    (s x.step).SendsBatch ((s x.step).apply (.provision false)) m x.flows x.result
  silent : ∀ n, first ≤ n → n ≤ last → (∀ x ∈ sent, x.step ≠ n) →
    (s n).SendsNothing ((s n).apply (.provision false))

section Courses

variable {s : Nat → Controller} {k last : Nat} {sent : List Sending} {P Q : Prop}
  {o : TaskOutcome}

/-- What is to be confirmed may be said in another way. -/
private theorem Course.congr (h : Course s m k last sent P o) (hPQ : P ↔ Q) :
    Course s m k last sent Q o := propext hPQ ▸ h

/-- A course of one step. -/
theorem Course.single (hstep : (s k).provision? false = some (m, c', some o))
    (hends : Finishes (s k) c' m P o) (hsilent : (s k).SendsNothing c') :
    Course s m k k [] P o where
  le := Nat.le_refl k
  goesOn n hle hlt := absurd hlt (Nat.not_lt.2 hle)
  ends := ⟨c', hstep, hends⟩
  sends := nofun
  silent n hle hge _ := by
    obtain rfl := Nat.le_antisymm hge hle
    rwa [apply_provision hstep]

/-- A course behind a step that sends nothing. -/
theorem Course.silently (h : Course s m (k + 1) last sent P o)
    (hstep : (s k).provision? false = some (m, c', none)) (hevents : c'.events = (s k).events)
    (hsilent : (s k).SendsNothing c') : Course s m k last sent P o where
  le := Nat.le_of_succ_le h.le
  goesOn n hle hlt := by
    -- the step at `k` is given, those after it are the course's own
    rcases Nat.eq_or_lt_of_le hle with rfl | hgt
    · exact ⟨c', hstep, hevents⟩
    · exact h.goesOn n hgt hlt
  ends := h.ends
  sends x hx := (h.sends x hx).imp_left Nat.le_of_succ_le
  silent n hle hge hx := by
    rcases Nat.eq_or_lt_of_le hle with rfl | hgt
    · rwa [apply_provision hstep]
    · exact h.silent n hgt hge hx

/-- A course behind a step that sends a batch. -/
theorem Course.sending (h : Course s m (k + 1) last sent P o)
    (hstep : (s k).provision? false = some (m, c', none)) (hevents : c'.events = (s k).events)
    {flows : List FlowMod} {r : Except Failure Ticket}
    (hsends : (s k).SendsBatch c' m flows r) :
    Course s m k last (⟨k, flows, r⟩ :: sent) P o where
  le := Nat.le_of_succ_le h.le
  goesOn n hle hlt := by
    rcases Nat.eq_or_lt_of_le hle with rfl | hgt
    · exact ⟨c', hstep, hevents⟩
    · exact h.goesOn n hgt hlt
  ends := h.ends
  sends x hx := by
    rcases List.mem_cons.1 hx with rfl | hx
    · exact ⟨Nat.le_refl k, h.le, (apply_provision hstep).symm ▸ hsends⟩
    · exact (h.sends x hx).imp_left Nat.le_of_succ_le
  silent n hle hge hx := by
    obtain ⟨hk, hx⟩ := List.forall_mem_cons.1 hx
    exact h.silent n (Nat.lt_of_le_of_ne hle hk) hge hx

/-! ## One course for each stage -/

/-- Work that has failed ends with the next step. -/
private theorem Working.of_failed (h : (s k).Working m d .failed) :
    ∃ o, Course s m k k [] False o := by
  obtain ⟨dp, hdp, -⟩ := h.exists_datapath
  obtain ⟨o, ho, hfinishes, hsilent⟩ := failTask_spec hdp
  refine ⟨o, .single ?_ hfinishes hsilent⟩
  rw [h.provision?_eq hdp, ← ho]
  rfl

/-- What is complete finishes with the next step. -/
theorem course_of_completeTask {dp : Datapath} (hdp : (s k).datapath? m = some dp)
    (hmain : dp.main = m) (hstep : (s k).provision? false = some (m, (s k).completeTask dp)) :
    ∃ o, Course s m k k [] True o := by
  obtain ⟨o, ho, hfinishes, hsilent⟩ := completeTask_spec hdp hmain
  refine ⟨o, .single ?_ hfinishes hsilent⟩
  rw [hstep, ← ho]

variable {during : Nat → List Operation}
  (hs : ∀ n, s (n + 1) = ((s n).apply (.provision false)).run (during n))
  (hduring : ∀ n, ∀ op ∈ during n, ∀ b, op ≠ .provision b)

include hs hduring in
/-- The stage that a step leaves is that at which the next step begins. -/
theorem Working.next {stage stage' : TaskStage} (h : (s k).Working m d stage)
    (hstep : (s k).provision? false = some (m, c', none))
    (hactive : c'.activeTask = some ⟨m, stage'⟩) : (s (k + 1)).Working m d stage' := by
  rw [hs, apply_provision hstep]
  exact (working_of_step h.kept h.tells hstep hactive).run (hduring k)

include hs hduring in
/-- So work that fails takes one step more. -/
private theorem Working.fails {stage : TaskStage} (h : (s k).Working m d stage)
    (hstep : (s k).provision? false = some (m, (s k).enterStage m .failed)) :
    ∃ o, Course s m k (k + 1) [] False o := by
  obtain ⟨o, hcourse⟩ := (h.next hs hduring hstep rfl).of_failed
  exact ⟨o, hcourse.silently hstep rfl (sendsNothing_of_queues rfl rfl rfl)⟩

include hs hduring in
/-- When the last batch was sent one step waits for its confirmation, if that comes. -/
private theorem Working.of_installing {ticket : Ticket}
    (h : (s k).Working m d (.installing ticket)) :
    ∃ last o, last ≤ k + 1 ∧ Course s m k last [] ((s k).Confirms ticket) o := by
  obtain ⟨dp, hdp, rfl, -⟩ := h.exists_datapath
  have hstep := h.provision?_eq hdp false
  rcases confirmation?_cases (s k) ticket with ⟨heq, hconfirms⟩ | ⟨heq, hconfirms⟩
  · rw [continueTask, heq] at hstep
    obtain ⟨o, hcourse⟩ := course_of_completeTask hdp rfl hstep
    exact ⟨k, o, Nat.le_succ k, hcourse.congr (iff_of_true trivial hconfirms)⟩
  · rw [continueTask, heq] at hstep
    obtain ⟨o, hcourse⟩ := h.fails hs hduring hstep
    exact ⟨k + 1, o, Nat.le_refl _, hcourse.congr (iff_of_false id hconfirms)⟩

include hs hduring in
/-- A batch is sent, and either the work waits for it or fails. -/
theorem Working.sendsFlows {stage : TaskStage} {flows : List FlowMod}
    {awaiting : Ticket → TaskStage} (h : (s k).Working m d stage) {dp : Datapath}
    (hdp : (s k).datapath? dp.main = some dp) (hmain : dp.main = m)
    (hstep : (s k).provision? false = some (m, (s k).sendFlows dp flows awaiting)) :
    ∃ c' r, (s k).provision? false = some (m, c', none) ∧ c'.events = (s k).events ∧
      (s k).SendsBatch c' m flows r ∧
      ((∃ e, r = .error e) ∧ (s (k + 1)).Working m d .failed ∨
        ∃ ticket, r = .ok ticket ∧ (s (k + 1)).Working m d (awaiting ticket)) := by
  subst hmain
  have hm : (s k).book.isRegistered dp.main ∨ (s k).isClosed dp.main = true := by
    obtain ⟨_, -, -, -, hm⟩ := h.exists_datapath
    exact hm
  obtain ⟨r, stage', heq, hactive, hsends, hresult⟩ :=
    sendFlows_spec h.kept.healthy.sound hdp hm flows awaiting
  have hevents : ((s k).sendFlows dp flows awaiting).1.events = (s k).events :=
    congrArg (·.events) (outline_sendFlows (s k) dp flows awaiting)
  rw [heq] at hstep
  have hnext := h.next hs hduring hstep hactive
  refine ⟨_, r, hstep, hevents, hsends, ?_⟩
  -- a batch that cannot be sent fails the task, one that was sent is waited for
  rcases hresult with ⟨rfl, he⟩ | ⟨ticket, rfl, rfl⟩
  · exact .inl ⟨he, hnext⟩
  · exact .inr ⟨ticket, rfl, hnext⟩

/-- A batch that was sent is confirmed with its ticket. -/
private theorem isConfirmed_ok (k : Nat) (flows : List FlowMod) (ticket : Ticket) :
    Sending.IsConfirmed ⟨k, flows, .ok ticket⟩ s ↔ (s (k + 1)).Confirms ticket :=
  ⟨fun ⟨_, heq, h⟩ => Except.ok.inj heq ▸ h, fun h => ⟨ticket, rfl, h⟩⟩

/-- A batch that could not be sent is not confirmed. -/
private theorem not_isConfirmed_error (k : Nat) (flows : List FlowMod) (e : Failure) :
    ¬ Sending.IsConfirmed ⟨k, flows, .error e⟩ s := fun ⟨_, heq, _⟩ => by cases heq

include hs hduring in
/-- What was collected is sent, unless it is nothing. -/
private theorem Working.of_collected {flows : List FlowMod}
    (h : (s k).Working m d (.collected flows)) :
    ∃ last sent o, last ≤ k + 2 ∧ Course s m k last sent (∀ x ∈ sent, x.IsConfirmed s) o ∧
      sent.map (·.flows) = if flows = [] then [] else [flows] := by
  obtain ⟨dp, hdp, rfl, -⟩ := h.exists_datapath
  have hstep := h.provision?_eq hdp false
  cases flows with
  -- nothing to install: the task completes in this very step
  | nil =>
    obtain ⟨o, hcourse⟩ := course_of_completeTask hdp rfl hstep
    exact ⟨k, [], o, Nat.le_add_right k 2,
      hcourse.congr (iff_of_true trivial (List.forall_mem_nil _)), rfl⟩
  | cons f fs =>
    obtain ⟨c', r, hstep', hevents, hsends, ⟨⟨e, rfl⟩, hnext⟩ | ⟨ticket, rfl, hnext⟩⟩ :=
      h.sendsFlows hs hduring hdp rfl hstep
    · obtain ⟨o, hcourse⟩ := hnext.of_failed
      refine ⟨k + 1, _, o, Nat.le_succ _, (hcourse.sending hstep' hevents hsends).congr ?_, rfl⟩
      simp [not_isConfirmed_error]
    · obtain ⟨last, o, hlast, hcourse⟩ := hnext.of_installing hs hduring
      refine ⟨last, _, o, hlast, (hcourse.sending hstep' hevents hsends).congr ?_, rfl⟩
      simp [isConfirmed_ok]

include hs hduring in
/-- What contributors offer is collected, which sends nothing. -/
theorem Working.collects {stage : TaskStage} (h : (s k).Working m d stage) {dp : Datapath}
    (hdp : (s k).datapath? m = some dp)
    (hstep : (s k).provision? false = some (m, (s k).collectFlows dp)) :
    ∃ c' flows, (s k).provision? false = some (m, c', none) ∧ (s k).Collects m flows ∧
      (s (k + 1)).Working m d (.collected flows) ∧ (s k).SendsNothing c' ∧
      c'.events = (s k).events := by
  obtain ⟨dp', hdp', hmain, -⟩ := h.exists_datapath
  obtain rfl : dp = dp' := Option.some.inj (hdp.symm.trans hdp')
  -- the datapath is still registered, so there is something to offer the contributors
  obtain ⟨info, hinfo⟩ := h.exists_info hdp
  have heq : (s k).collectFlows dp = (s k).enterStage m
      (.collected (initialFlows (s k).contributors info (s k).settings.hybridMode)) := by
    rw [collectFlows, hinfo, hmain]
  rw [heq] at hstep
  refine ⟨_, _, hstep, ⟨info, ?_, offers_iff.2 rfl⟩, h.next hs hduring hstep rfl,
    sendsNothing_of_queues rfl rfl rfl, rfl⟩
  rw [hdp, Option.bind_some, hinfo]

include hs hduring in
/-- When the deletion is confirmed the flows are collected, and otherwise nothing more is sent. -/
private theorem Working.of_purging {ticket : Ticket} (h : (s k).Working m d (.purging ticket)) :
    ∃ last sent o, last ≤ k + 3 ∧
      Course s m k last sent ((s k).Confirms ticket ∧ ∀ x ∈ sent, x.IsConfirmed s) o ∧
      ((s k).Confirms ticket → ∃ flows, (s k).Collects m flows ∧
        sent.map (·.flows) = if flows = [] then [] else [flows]) ∧
      (¬ (s k).Confirms ticket → sent = []) := by
  obtain ⟨dp, hdp, rfl, -⟩ := h.exists_datapath
  have hstep := h.provision?_eq hdp false
  rcases confirmation?_cases (s k) ticket with ⟨heq, hconfirms⟩ | ⟨heq, hconfirms⟩
  · rw [continueTask, heq] at hstep
    -- confirmed: the flows are collected only now, after the purge
    obtain ⟨c', flows, hstep', hcollects, hnext, hsilent, hevents⟩ :=
      h.collects hs hduring hdp hstep
    obtain ⟨last, sent, o, hlast, hcourse, hsent⟩ := hnext.of_collected hs hduring
    refine ⟨last, sent, o, hlast, (hcourse.silently hstep' hevents hsilent).congr ?_,
      fun _ => ⟨flows, hcollects, hsent⟩, fun hc => absurd hconfirms hc⟩
    exact ⟨fun hall => ⟨hconfirms, hall⟩, And.right⟩
  · rw [continueTask, heq] at hstep
    -- refused or timed out: the task fails and nothing more is sent
    obtain ⟨o, hcourse⟩ := h.fails hs hduring hstep
    exact ⟨k + 1, [], o, Nat.le_add_right _ 2,
      hcourse.congr (iff_of_false id fun hc => hconfirms hc.1), fun hc => absurd hc hconfirms,
      fun _ => rfl⟩

include hs hduring in
/-- The deletion comes first, and only from a master. -/
private theorem Working.of_begun (h : (s k).Working m d .begun) :
    ∃ last sent o, last ≤ k + 4 ∧ Course s m k last sent (∀ x ∈ sent, x.IsConfirmed s) o ∧
      ((s k).roleOf d ≠ .master → sent = []) ∧
      ((s k).roleOf d = .master → ∃ purge more, sent = purge :: more ∧ purge.step = k ∧
        purge.flows = [FlowMod.deleteAll] ∧
        (purge.IsConfirmed s → ∃ flows, (s (k + 1)).Collects m flows ∧
          more.map (·.flows) = if flows = [] then [] else [flows]) ∧
        (¬ purge.IsConfirmed s → more = [])) := by
  obtain ⟨dp, hdp, rfl, rfl, -⟩ := h.exists_datapath
  have hstep := h.provision?_eq hdp false
  by_cases hrole : (s k).roleOf dp.id = .master
  · rw [continueTask, if_pos hrole] at hstep
    obtain ⟨c', r, hstep', hevents, hsends, ⟨⟨e, rfl⟩, hnext⟩ | ⟨ticket, rfl, hnext⟩⟩ :=
      h.sendsFlows hs hduring hdp rfl hstep
    · obtain ⟨o, hcourse⟩ := hnext.of_failed
      refine ⟨k + 1, _, o, Nat.le_add_right _ 3, (hcourse.sending hstep' hevents hsends).congr ?_,
        fun hnot => absurd hrole hnot, fun _ => ⟨_, _, rfl, rfl, rfl, fun hc => ?_, fun _ => rfl⟩⟩
      · simp [not_isConfirmed_error]
      · exact absurd hc (not_isConfirmed_error k _ e)
    · obtain ⟨last, more, o, hlast, hcourse, hmore, hnone⟩ := hnext.of_purging hs hduring
      refine ⟨last, _, o, hlast, (hcourse.sending hstep' hevents hsends).congr ?_,
        fun hnot => absurd hrole hnot,
        fun _ => ⟨_, more, rfl, rfl, rfl, fun hc => ?_, fun hc => ?_⟩⟩
      · simp [isConfirmed_ok]
      · exact hmore ((isConfirmed_ok k _ ticket).1 hc)
      · exact hnone fun hconfirms => hc ((isConfirmed_ok k _ ticket).2 hconfirms)
  -- not master: neither purge nor flows, the task completes at once
  · rw [continueTask, if_neg hrole] at hstep
    obtain ⟨o, hcourse⟩ := course_of_completeTask hdp rfl hstep
    exact ⟨k, [], o, Nat.le_add_right k 4,
      hcourse.congr (iff_of_true trivial (List.forall_mem_nil _)), fun _ => rfl,
      fun hmaster => absurd hmaster hrole⟩

end Courses

/-! ## The whole course -/

/-- The states before each step of the work, with other operations in between. Nobody waits for a
confirmation any longer than these take. -/
def working (c : Controller) (during : Nat → List Operation) : Nat → Controller
  | 0 => c
  | n + 1 => ((c.working during n).apply (.provision false)).run (during n)

/-- What has been done before step `n` of the work: the steps before it, and what came in
between. -/
def elapsed (during : Nat → List Operation) : Nat → List Operation
  | 0 => []
  | n + 1 => elapsed during n ++ .provision false :: during n

/-- The steps and what comes in between are one run. -/
private theorem working_eq_run (c : Controller) (during : Nat → List Operation) (n : Nat) :
    c.working during n = c.run (elapsed during n) := by
  induction n with
  | zero => rfl
  | succ n ih =>
    rw [working, ih, elapsed, run, run, run, List.foldl_append, List.foldl_cons]

/-- Whoever waits for a confirmation does in the end what one who does not wait any longer does. -/
theorem provision?_of_patient {p : LinkId × Progress} (h : c.provision? true = some p) :
    c.provision? false = some p := by
  -- patience only ever withholds an answer
  have hconfirmed {ticket : Ticket} {b : Bool} (hb : c.confirmation? ticket true = some b) :
      c.confirmation? ticket false = some b := by
    unfold confirmation? at hb ⊢
    split at hb
    · exact hb
    · cases hb
  unfold Controller.provision? at h ⊢
  split at h
  · next task _ =>
    split at h
    · exact h
    · obtain ⟨p', hp', rfl⟩ := Option.map_eq_some_iff.1 h
      refine Option.map_eq_some_iff.2 ⟨p', ?_, rfl⟩
      generalize task.stage = stage at hp' ⊢
      cases stage with
      | begun | failed => exact hp'
      | collected flows => cases flows <;> exact hp'
      | purging ticket | installing ticket =>
        obtain ⟨confirmed, hb, rfl⟩ := Option.map_eq_some_iff.1 hp'
        exact Option.map_eq_some_iff.2 ⟨confirmed, hconfirmed hb, rfl⟩
  · exact h

/-- Nobody but the work for datapaths is concerned with roles. -/
private theorem roleOf_run {ops : List Operation} (h : c.Kept)
    (hops : ∀ op ∈ ops, ∀ b, op ≠ .provision b) : (c.run ops).roleOf d = c.roleOf d := by
  induction ops generalizing c with
  | nil => rfl
  | cons op ops ih =>
    obtain ⟨hop, hops⟩ := List.forall_mem_cons.1 hops
    refine (ih (kept_apply h op) hops).trans ?_
    rw [roleOf, (idles_apply h.healthy hop).mastership]
    rfl

section Begin

variable {rest : List LinkId} (hidle : c.activeTask = none) (htasks : c.tasks = m :: rest)

include hidle htasks in
/-- Work begins with the datapath that waits for it first. -/
theorem provision?_of_idle (patient : Bool) :
    c.provision? patient = some (m, { c with tasks := rest }.beginTask m) := by
  unfold Controller.provision?
  split
  · next ht =>
    rw [hidle] at ht
    cases ht
  · split
    · next hnil =>
      rw [htasks] at hnil
      cases hnil
    · next heq =>
      rw [htasks] at heq
      obtain ⟨rfl, rfl⟩ := List.cons.inj heq
      rfl

include hidle htasks in
/-- It is not begun for a datapath that has gone away. -/
theorem provision?_of_gone (hgone : ¬ (c.Wants m ∧ c.isAbandoned = false)) (patient : Bool) :
    c.provision? patient = some (m, { c with tasks := rest }.finishTask .aborted) := by
  rw [provision?_of_idle hidle htasks, beginTask]
  split
  · rfl
  · next dp hdp =>
    rw [if_neg]
    intro hwanted
    rw [Bool.and_eq_true, Bool.not_eq_true'] at hwanted
    exact hgone ⟨⟨dp, hdp, hwanted.1⟩, hwanted.2⟩

include hidle htasks in
/-- Work that is wanted begins, and the first step sends nothing. -/
private theorem provision?_of_wants (hwants : c.Wants m) (hheld : c.isAbandoned = false)
    (patient : Bool) :
    ∃ c', c.provision? patient = some (m, c', none) ∧ c'.activeTask = some ⟨m, .begun⟩ ∧
      c'.events = c.events ∧ c.SendsNothing c' ∧ c'.mastership = c.mastership := by
  obtain ⟨dp, hdp, hwanted⟩ := hwants
  have hbegun : (c.isWanted dp && !c.isAbandoned) = true := by rw [hwanted, hheld]; rfl
  let typed := ({ c with tasks := rest } : Controller).modifyDatapath m fun dp' =>
    { dp' with deviceType := some (DeviceType.resolve dp.descriptor) }
  refine ⟨(typed.enterStage m .begun).1, ?_, rfl, rfl, sendsNothing_of_queues rfl rfl rfl, rfl⟩
  rw [provision?_of_idle hidle htasks, beginTask]
  split
  · next hnone =>
    rw [show c.datapath? m = none from hnone] at hdp
    cases hdp
  · next dp' hdp' =>
    obtain rfl : dp = dp' := Option.some.inj (hdp.symm.trans hdp')
    exact congrArg (fun p => some (m, p)) (if_pos hbegun)

end Begin

/-- The work for a datapath, with anything happening between its steps. It is called off before it
begins if the datapath or the controller has gone away. Otherwise, of a datapath that the controller
is not the master of it sends nothing, and to any other it sends the deletion of all flows and then,
if that is confirmed, what those offer who contribute at that time, if that is anything. It is
completed if all of that was confirmed and the datapath has not gone away in the end, which is told
to be ready then if it was not ready before; and that is never told otherwise. Whether a step waits
for its confirmation makes no difference to what it does. -/
theorem provisioning_run (settings : Settings) (mastership : Mastership) (before : List Operation)
    (m : LinkId) (rest : List LinkId) (during : Nat → List Operation) :
    let c := run { settings, mastership } before
    let s := c.working during
    c.activeTask = none → c.tasks = m :: rest →
    (∀ n, ∀ op ∈ during n, ∀ patient, op ≠ .provision patient) →
    (∀ n p, (s n).provision? true = some p → (s n).provision? false = some p) ∧
    (¬ (c.Wants m ∧ c.isAbandoned = false) →
      ∃ c', c.provision? false = some (m, c', some .aborted) ∧
        c'.activeTask = none ∧ c.SendsNothing c' ∧ c'.events = c.events) ∧
    (c.Wants m ∧ c.isAbandoned = false → ∃ d last sent o,
      (c.datapath? m).map (·.id) = some d ∧ last ≤ 5 ∧ o ≠ .aborted ∧
      Course s m 0 last sent (∀ x ∈ sent, x.IsConfirmed s) o ∧
      (c.roleOf d ≠ .master → sent = []) ∧
      (c.roleOf d = .master → ∃ purge more, sent = purge :: more ∧ purge.step = 1 ∧
        purge.flows = [FlowMod.deleteAll] ∧
        (purge.IsConfirmed s → Enlisted (before ++ elapsed during 2) (s 2).contributors ∧
          ∃ info flows, ((s 2).datapath? m).bind (s 2).infoOf = some info ∧
            Offers info settings.hybridMode (s 2).contributors flows ∧
            more.map (·.flows) = if flows = [] then [] else [flows]) ∧
        (¬ purge.IsConfirmed s → more = []))) := by
  intro c s hidle htasks hduring
  have hkept : c.Kept := kept_run (kept_new settings mastership) before
  refine ⟨fun _ _ => provision?_of_patient,
    fun hgone => ⟨_, provision?_of_gone hidle htasks hgone false, rfl,
      sendsNothing_of_queues rfl rfl rfl, rfl⟩, fun ⟨hwants, hheld⟩ => ?_⟩
  -- the first step begins the work, and from there on it has a course
  obtain ⟨c', hstep, hactive, hevents, hsilent, hmastership⟩ :=
    provision?_of_wants hidle htasks hwants hheld false
  obtain ⟨dp, hdp, hwanted⟩ := hwants
  have htells := tells_of_isWanted hkept.healthy.sound hdp hwanted
  have hbegun := working_of_step hkept ⟨_, htells, rfl⟩ hstep hactive
  have hs : ∀ n, s (n + 1) = ((s n).apply (.provision false)).run (during n) := fun _ => rfl
  have hfirst : s 1 = c'.run (during 0) := (hs 0).trans (congrArg (run · _) (apply_provision hstep))
  have hworking : (s 1).Working m dp.id .begun := hfirst ▸ hbegun.run (hduring 0)
  obtain ⟨last, sent, o, hlast, hcourse, hslave, hmaster⟩ := hworking.of_begun hs hduring
  have hrole : (s 1).roleOf dp.id = c.roleOf dp.id := by
    rw [hfirst, roleOf_run hbegun.kept (hduring 0), roleOf, hmastership]
    rfl
  rw [hrole] at hslave hmaster
  have hall := hcourse.silently (s := s) (k := 0) hstep hevents hsilent
  obtain ⟨_, -, hfinishes⟩ := hcourse.ends
  refine ⟨dp.id, last, sent, o, congrArg (Option.map (·.id)) hdp, hlast, hfinishes.ne_aborted, hall,
    hslave, fun hm => ?_⟩
  obtain ⟨purge, more, hsent, hat, hpurge, hmore, hnone⟩ := hmaster hm
  refine ⟨purge, more, hsent, hat, hpurge, fun hc => ?_, hnone⟩
  -- who contributes when the deletion has been confirmed is said by all that happened until then
  have htwo : s 2 = run { settings, mastership } (before ++ elapsed during 2) := by
    rw [run, List.foldl_append]
    exact working_eq_run c during 2
  obtain ⟨flows, ⟨info, hinfo, hoffers⟩, hflows⟩ := hmore hc
  have hsettings : (s 2).settings = settings := by
    rw [htwo, (kept_new settings mastership).settings_run]
  rw [hsettings] at hoffers
  exact ⟨htwo ▸ enlisted_run settings mastership _, info, flows, hinfo, hoffers, hflows⟩

/-! ## A switch that confirms

A switch has been described, and confirms that it has deleted its flows and then that it has
installed others. -/

namespace Confirmed

open SecondPort

def described : List Operation := greeting ++ .frame 0 features :: sayings ++ [refusal]

/-- Each contributor has two flows, and the second one has a flow for no table. -/
def contributed : List Operation :=
  [.addContributor fun _ _ => [{ priority := 1 }, { priority := 2 }],
    .addContributor fun _ _ => [{ priority := 3 }, { priority := 4, table := allTables }],
    .addContributor fun _ _ => [{ priority := 5 }, { priority := 6 }]]

/-- What is done between the steps of the work. -/
def answers : Nat → List Operation
  | 1 => [.frame 0 (frameOf 7 .barrierReply)]
  | 3 => [.frame 0 (frameOf 12 .barrierReply)]
  | _ => []

/-- The switch only answers. -/
private theorem answers_idle (n : Nat) : ∀ op ∈ answers n, ∀ patient, op ≠ .provision patient := by
  unfold answers
  split
  · exact List.forall_mem_singleton.2 nofun
  · exact List.forall_mem_singleton.2 nofun
  · exact List.forall_mem_nil _

/-- The deletion is confirmed, and the flows of the first and the third contributor are sent then,
in that order. -/
theorem provisioning_run_answers :
    let c := run { settings := {} } (described ++ contributed)
    let s := c.working answers
    c.activeTask = none ∧ c.tasks = [0] ∧
    (∀ n, ∀ op ∈ answers n, ∀ patient, op ≠ .provision patient) ∧
    (c.Wants 0 ∧ c.isAbandoned = false) ∧ c.roleOf ⟨5⟩ = .master ∧
    ∃ last purge install o, last ≤ 5 ∧ o ≠ .aborted ∧
      Course s 0 0 last [purge, install] (∀ x ∈ [purge, install], x.IsConfirmed s) o ∧
      purge.flows = [FlowMod.deleteAll] ∧ purge.IsConfirmed s ∧
      install.flows =
        [{ priority := 1 }, { priority := 2 }, { priority := 5 }, { priority := 6 }] := by
  intro c s
  have hidle : c.activeTask = none := by decide +kernel
  have htasks : c.tasks = [0] := by decide +kernel
  have hwanted : (c.datapath? 0).map (fun dp => (c.isWanted dp, dp.id)) = some (true, ⟨5⟩) := by
    decide +kernel
  have hheld : c.isAbandoned = false := by decide +kernel
  have hmaster : c.roleOf ⟨5⟩ = .master := by decide +kernel
  obtain ⟨dp, hdp, hboth⟩ := Option.map_eq_some_iff.1 hwanted
  have hwants : c.Wants 0 := ⟨dp, hdp, congrArg Prod.fst hboth⟩
  obtain ⟨-, -, hbegins⟩ :=
    provisioning_run {} .all (described ++ contributed) 0 [] answers hidle htasks answers_idle
  obtain ⟨d, last, sent, o, hd, hlast, ho, hcourse, -, hsent⟩ := hbegins ⟨hwants, hheld⟩
  have hid : (c.datapath? 0).map (·.id) = some ⟨5⟩ := by
    rw [hdp]
    exact congrArg some (congrArg Prod.snd hboth)
  obtain rfl : (⟨5⟩ : DatapathId) = d := Option.some.inj (hid.symm.trans hd)
  obtain ⟨⟨step, flows, result⟩, more, rfl, rfl, rfl, hmore, -⟩ := hsent hmaster
  -- the deletion was sent with ticket 0, and that request has been confirmed before step 2
  obtain ⟨-, -, dp₁, hdp₁, hsends⟩ := hcourse.sends _ List.mem_cons_self
  have hfirst : ((s 1).datapath? 0).map (fun dp =>
      ((s 1).sendBatchOn dp [.flowMod FlowMod.deleteAll]).2) = some (.ok 0) := by
    decide +kernel
  have hresult : result = .ok 0 := by
    rw [hdp₁] at hfirst
    exact (congrArg Prod.snd hsends).symm.trans (Option.some.inj hfirst)
  have hanswered : ((s 2).ledger.outcome? 0).map (·.isSuccess) = some true := by decide +kernel
  have hpurge : Sending.IsConfirmed ⟨1, [FlowMod.deleteAll], result⟩ s :=
    ⟨0, hresult, Option.map_eq_some_iff.1 hanswered⟩
  obtain ⟨-, info, flows, hinfo, hoffers, hflows⟩ := hmore hpurge
  have hcollected : (((s 2).datapath? 0).bind (s 2).infoOf).map
      (initialFlows (s 2).contributors · false) =
      some [{ priority := 1 }, { priority := 2 }, { priority := 5 }, { priority := 6 }] := by
    decide +kernel
  rw [hinfo] at hcollected
  obtain rfl := (offers_iff.1 hoffers).trans (Option.some.inj hcollected)
  obtain ⟨install, rfl, hinstall⟩ := List.map_eq_singleton_iff.1 hflows
  exact ⟨hidle, htasks, answers_idle, ⟨hwants, hheld⟩, hmaster, last, _, install, o, hlast, ho,
    hcourse, rfl, hpurge, hinstall⟩

end Confirmed

end Southbound.Controller
