import Southbound.Proofs.Controller.Proceedings

/-!
# The registry and those who left it

Steps of the work for datapaths keep account of requests as everything else does, since that work is
only begun for datapaths that are registered (`Kept.develops_apply`). So it can be said of every run
what stands in the registry, and what is left of those who left it (`registry_run`).
-/

namespace Southbound.Controller

open Relation (ReflTransGen)

variable {c c' : Controller} {l m : LinkId} {u : Ticket}

/-! ## The work for datapaths -/

/-- Listeners were told of the datapath that is worked for. -/
def Engaged (c : Controller) : Prop :=
  ∀ t, c.activeTask = some t → ∃ dp, c.outline.Tells t.datapath dp

/-- Nobody is worked for any more, or still the datapath of `m`. -/
def KeepsTo (m : LinkId) (c : Controller) : Prop :=
  ∀ t, c.activeTask = some t → t.datapath = m

/-- Work that is finished is for nobody. -/
private theorem keepsTo_finishTask (c : Controller) (m : LinkId) (o : TaskOutcome) :
    KeepsTo m (c.finishTask o).1 := nofun

/-- A stage is entered for the datapath that was worked for. -/
private theorem keepsTo_enterStage (c : Controller) (m : LinkId) (stage : TaskStage) :
    KeepsTo m (c.enterStage m stage).1 := fun _ ht => by
  obtain rfl := Option.some.inj ht
  rfl

/-- Work that is completed is for nobody. -/
private theorem keepsTo_completeTask (c : Controller) (dp : Datapath) (m : LinkId) :
    KeepsTo m (c.completeTask dp).1 := by
  unfold completeTask
  split
  · split
    · exact keepsTo_finishTask _ m _
    · exact keepsTo_finishTask _ m _
  · exact keepsTo_finishTask _ m _

/-- Flows are sent to the datapath that is worked for. -/
private theorem keepsTo_sendFlows (c : Controller) (dp : Datapath) (flows : List FlowMod)
    (awaiting : Ticket → TaskStage) : KeepsTo dp.main (c.sendFlows dp flows awaiting).1 := by
  unfold sendFlows
  split
  · exact keepsTo_enterStage _ dp.main _
  · exact keepsTo_enterStage _ dp.main _

/-- They are collected for it, too. -/
private theorem keepsTo_collectFlows (c : Controller) (dp : Datapath) :
    KeepsTo dp.main (c.collectFlows dp).1 := by
  unfold collectFlows
  split
  · exact keepsTo_enterStage _ dp.main _
  · exact keepsTo_enterStage _ dp.main _

/-- Requests are kept account of. -/
structure Advances (c c' : Controller) : Prop extends Abides c c' where
  book : ReflTransGen Book.Step c.book c'.book

/-- What leaves the work alone advances. -/
private theorem Proceeds.advances (h : c.Proceeds c') : c.Advances c' := ⟨h.toAbides, h.book⟩

/-- Nothing becomes of requests. -/
structure LeavesRequests (c c' : Controller) : Prop extends Abides c c' where
  book : c'.book = c.book

/-- So does what leaves requests alone. -/
private theorem LeavesRequests.advances (h : c.LeavesRequests c') : c.Advances c' :=
  ⟨h.toAbides, h.book ▸ .refl⟩

/-- What changes none of these fields leaves requests alone. -/
theorem leavesRequests_of_eq (hsettings : c'.settings = c.settings) (hstaff : c'.staff = c.staff)
    (hdrawn : c'.drawn = c.drawn) (hbook : c'.book = c.book) : c.LeavesRequests c' :=
  ⟨⟨hsettings, hstaff, hdrawn ▸ Nat.le_refl _⟩, hbook⟩

/-- Completing work concerns no request. -/
private theorem leavesRequests_completeTask {dp : Datapath} (hdp : c.datapath? dp.main = some dp) :
    c.LeavesRequests (c.completeTask dp).1 := by
  unfold completeTask
  split
  · split
    · exact leavesRequests_of_eq rfl rfl rfl rfl
    · have hready : c.Rests (c.modifyDatapath dp.main fun _ => { dp with isReady := true }) :=
        rests_modifyDatapath fun old hold => by
          rw [Option.some.inj (hold.symm.trans hdp)]
      exact leavesRequests_of_eq rfl rfl rfl hready.book
  · exact leavesRequests_of_eq rfl rfl rfl rfl

/-- Neither does collecting flows. -/
private theorem leavesRequests_collectFlows (c : Controller) (dp : Datapath) :
    c.LeavesRequests (c.collectFlows dp).1 := by
  unfold collectFlows
  split <;> exact leavesRequests_of_eq rfl rfl rfl rfl

/-- Nor does beginning. -/
theorem leavesRequests_beginTask (c : Controller) (m : LinkId) :
    c.LeavesRequests (c.beginTask m).1 := by
  unfold beginTask
  split
  · exact leavesRequests_of_eq rfl rfl rfl rfl
  · split
    · next dp _ _ =>
      have htyped : c.Rests (c.modifyDatapath m fun dp' =>
          { dp' with deviceType := some (DeviceType.resolve dp.descriptor) }) :=
        rests_modifyDatapath fun _ _ => rfl
      exact leavesRequests_of_eq rfl rfl rfl htyped.book
    · exact leavesRequests_of_eq rfl rfl rfl rfl

/-- Flows are sent by a request, to a datapath that is registered or closed. -/
private theorem advances_sendFlows (h : c.outline.Sound) {dp : Datapath}
    (hdp : c.datapath? dp.main = some dp)
    (hm : c.book.isRegistered dp.main ∨ c.isClosed dp.main = true) (flows : List FlowMod)
    (awaiting : Ticket → TaskStage) : c.Advances (c.sendFlows dp flows awaiting).1 := by
  have hsent := (proceeds_sendBatchOn h hdp hm (flows.map .flowMod)).advances
  unfold sendFlows
  split
  · next heq =>
    rw [heq] at hsent
    exact ⟨⟨hsent.settings, hsent.staff, hsent.drawn⟩, hsent.book⟩
  · next heq =>
    rw [heq] at hsent
    exact ⟨⟨hsent.settings, hsent.staff, hsent.drawn⟩, hsent.book⟩

/-- Work that goes on sends a batch to the datapath, or leaves requests alone. -/
theorem continueTask_cases {dp : Datapath} (hdp : c.datapath? dp.main = some dp) {patient : Bool}
    {stage : TaskStage} {p : Progress} (hp : c.continueTask dp patient stage = some p) :
    (∃ flows awaiting, p = c.sendFlows dp flows awaiting) ∨
      c.LeavesRequests p.1 ∧ KeepsTo dp.main p.1 := by
  -- the two ways a task can go without sending: it completes or it fails
  have hcompletes :=
    And.intro (leavesRequests_completeTask hdp) (keepsTo_completeTask c dp dp.main)
  have hfails : c.LeavesRequests (c.enterStage dp.main .failed).1 ∧
      KeepsTo dp.main (c.enterStage dp.main .failed).1 :=
    ⟨leavesRequests_of_eq rfl rfl rfl rfl, keepsTo_enterStage c dp.main _⟩
  cases stage with
  | begun =>
    obtain rfl := Option.some.inj hp
    split
    · exact .inl ⟨_, _, rfl⟩
    · exact .inr hcompletes
  | purging ticket =>
    obtain ⟨confirmed, -, rfl⟩ := Option.map_eq_some_iff.1 hp
    cases confirmed with
    | false => exact .inr hfails
    | true => exact .inr ⟨leavesRequests_collectFlows c dp, keepsTo_collectFlows c dp⟩
  | collected flows =>
    cases flows with
    | nil => exact .inr (Option.some.inj hp ▸ hcompletes)
    | cons f fs => exact .inl ⟨_, _, (Option.some.inj hp).symm⟩
  | installing ticket =>
    obtain ⟨confirmed, -, rfl⟩ := Option.map_eq_some_iff.1 hp
    cases confirmed with
    | false => exact .inr hfails
    | true => exact .inr hcompletes
  | failed =>
    obtain rfl := Option.some.inj hp
    exact .inr ⟨leavesRequests_of_eq rfl rfl rfl rfl, keepsTo_finishTask c dp.main _⟩

/-- Work goes on for a datapath that is registered, or whose connection is closed. -/
theorem continueTask_spec (h : c.outline.Sound) {dp : Datapath}
    (hdp : c.datapath? dp.main = some dp)
    (hm : c.book.isRegistered dp.main ∨ c.isClosed dp.main = true) {patient : Bool}
    {stage : TaskStage} {p : Progress} (hp : c.continueTask dp patient stage = some p) :
    c.Advances p.1 ∧ KeepsTo dp.main p.1 := by
  rcases continueTask_cases hdp hp with ⟨flows, awaiting, rfl⟩ | ⟨hleaves, hkeeps⟩
  · exact ⟨advances_sendFlows h hdp hm flows awaiting, keepsTo_sendFlows c dp flows awaiting⟩
  · exact ⟨hleaves.advances, hkeeps⟩

/-- A datapath that was announced is registered, or its connection is closed. -/
theorem isRegistered_or_isClosed (h : c.outline.Sound) (ho : c.outline.Orderly) {dp : Datapath}
    (hdp : c.datapath? m = some dp) (hannounced : dp.isAnnounced = true) :
    c.book.isRegistered dp.main ∨ c.isClosed dp.main = true := by
  obtain rfl : dp.main = m := h.main_eq (datapath?_outline hdp)
  rcases ho.announced (datapath?_outline hdp) hannounced with hm | hretired
  · exact .inl ⟨_, hm⟩
  · obtain ⟨k, hk, -, hclosed⟩ := hretired.main
    obtain ⟨j, hj, rfl⟩ := Option.map_eq_some_iff.1 hk
    rw [isClosed, connection?, hj]
    exact .inr hclosed

/-! ## Runs -/

/-- What is the case in every run. -/
structure Kept (c : Controller) : Prop where
  healthy : c.outline.Healthy
  orderly : c.outline.Orderly
  engaged : c.Engaged
  book : c.book.Sound

/-- Only registered datapaths are worked for. -/
theorem tells_of_isWanted (h : c.outline.Sound) {dp : Datapath} (hdp : c.datapath? m = some dp)
    (hwanted : c.isWanted dp = true) : c.outline.Tells m dp.outline := by
  have hdpo := datapath?_outline hdp
  obtain ⟨_, dp', -, hdp', hmain⟩ := h.registered (h.submitted hdpo (isWanted_eq_true hwanted).1)
  obtain rfl := Option.some.inj (hdpo.symm.trans hdp')
  exact ⟨hdpo, hmain.isAnnounced⟩

/-- Work is begun only for datapaths that listeners were told of. -/
private theorem tells_beginTask (h : c.outline.Sound) {t : ActiveTask}
    (ht : (c.beginTask m).1.activeTask = some t) : ∃ dp, c.outline.Tells t.datapath dp := by
  unfold beginTask at ht
  split at ht
  · cases ht
  · next dp hdp =>
    split at ht
    · next hwanted =>
      obtain rfl := Option.some.inj ht
      exact ⟨_, tells_of_isWanted h hdp (Bool.and_eq_true_iff.1 hwanted).1⟩
    · cases ht

/-- A step of the work keeps account of requests, and the work is for a datapath that listeners were
told of. -/
theorem Kept.provision? (h : c.Kept) {patient : Bool} {p : Progress}
    (hstep : c.provision? patient = some (m, p)) :
    c.Advances p.1 ∧ ∀ t, p.1.activeTask = some t → ∃ dp, c.outline.Tells t.datapath dp := by
  have hsound := h.healthy.sound
  unfold Controller.provision? at hstep
  split at hstep
  · next task htask =>
    -- a running task is about a datapath that has been announced
    obtain ⟨o, htells⟩ := h.engaged task htask
    split at hstep
    · next hnone =>
      obtain ⟨rfl, rfl⟩ := Prod.mk.inj (Option.some.inj hstep)
      have hended : c.LeavesRequests (c.finishTask .aborted).1 :=
        leavesRequests_of_eq rfl rfl rfl rfl
      exact ⟨hended.advances, nofun⟩
    · next dp hdp =>
      obtain ⟨p', hp', heq⟩ := Option.map_eq_some_iff.1 hstep
      obtain ⟨rfl, rfl⟩ := Prod.mk.inj heq
      obtain rfl := Option.some.inj ((datapath?_outline hdp).symm.trans htells.datapath?)
      have hmain : dp.main = task.datapath := hsound.main_eq (datapath?_outline hdp)
      obtain ⟨hadvances, hkeeps⟩ := continueTask_spec hsound (hmain ▸ hdp)
        (isRegistered_or_isClosed hsound h.orderly hdp htells.isAnnounced) hp'
      exact ⟨hadvances, fun t ht => ⟨dp.outline, (hkeeps t ht).trans hmain ▸ htells⟩⟩
  · split at hstep
    · cases hstep
    · next main rest _ =>
      obtain ⟨rfl, rfl⟩ := Prod.mk.inj (Option.some.inj hstep)
      -- no task is running: the next one begins, and beginning sends nothing
      have hbegun := (leavesRequests_beginTask { c with tasks := rest } main).advances
      exact ⟨⟨⟨hbegun.settings, hbegun.staff, hbegun.drawn⟩, hbegun.book⟩, fun t ht =>
        tells_beginTask (c := { c with tasks := rest }) hsound ht⟩

/-- Requests are kept account of, whoever contributes flows. -/
structure Develops (c c' : Controller) : Prop where
  settings : c'.settings = c.settings
  drawn : c.drawn ≤ c'.drawn
  book : ReflTransGen Book.Step c.book c'.book

/-- Requests are kept account of with the same contributors, too. -/
private theorem Advances.develops (h : c.Advances c') :
    c.Develops c' := ⟨h.settings, h.drawn, h.book⟩

/-- Requests are kept account of, and nothing is done for a datapath. -/
structure Idles (c c' : Controller) : Prop extends Develops c c' where
  mastership : c'.mastership = c.mastership
  activeTask : c'.activeTask = c.activeTask

/-- Whatever is no step of the work for datapaths leaves that work as it is. -/
theorem idles_apply (h : c.outline.Healthy) {op : Operation} (hop : ∀ b, op ≠ .provision b) :
    c.Idles (c.apply op) := by
  cases hstaff : op.isStaffing with
  | false =>
    have hproceeds := proceeds_apply h hop hstaff
    exact ⟨hproceeds.advances.develops, hproceeds.mastership, hproceeds.activeTask⟩
  | true =>
    rw [apply_of_isStaffing hstaff]
    exact ⟨⟨rfl, Nat.le_refl _, .refl⟩, rfl, rfl⟩

/-- Every operation keeps account of requests. -/
theorem Kept.develops_apply (h : c.Kept) (op : Operation) : c.Develops (c.apply op) := by
  by_cases hop : ∃ patient, op = .provision patient
  · obtain ⟨patient, rfl⟩ := hop
    rw [apply]
    cases hstep : c.provision? patient with
    | none => exact ⟨rfl, Nat.le_refl _, .refl⟩
    | some step => exact (h.provision? hstep).1.develops
  · exact (idles_apply h.healthy fun patient heq => hop ⟨patient, heq⟩).toDevelops

/-- Whoever is worked for was told of. -/
private theorem Kept.engaged_apply (h : c.Kept) (op : Operation) : (c.apply op).Engaged := by
  -- whom listeners were told of stays known to them
  have hstays {j : LinkId} (hj : ∃ dp, c.outline.Tells j dp) :
      ∃ dp, (c.apply op).outline.Tells j dp := by
    obtain ⟨dp, htells⟩ := hj
    obtain ⟨dp', htells', -⟩ := stays_apply h.healthy h.orderly htells op
    exact ⟨dp', htells'⟩
  intro t ht
  by_cases hop : ∃ patient, op = .provision patient
  · obtain ⟨patient, rfl⟩ := hop
    refine hstays ?_
    rw [apply] at ht
    cases hstep : c.provision? patient with
    | none =>
      rw [hstep] at ht
      exact h.engaged t ht
    | some step =>
      rw [hstep] at ht
      exact (h.provision? hstep).2 t ht
  · have hsame := (idles_apply h.healthy fun patient heq => hop ⟨patient, heq⟩).activeTask
    exact hstays (h.engaged t (hsame ▸ ht))

/-- Every operation keeps what is the case in every run. -/
theorem kept_apply (h : c.Kept) (op : Operation) : (c.apply op).Kept where
  healthy := healthy_apply h.healthy op
  orderly := orderly_apply h.healthy h.orderly op
  engaged := h.engaged_apply op
  book := (h.book.steps (h.develops_apply op).book).1

/-- By induction, so does every run. -/
theorem kept_run (h : c.Kept) (ops : List Operation) : (c.run ops).Kept := by
  induction ops generalizing c with
  | nil => exact h
  | cons op ops ih => exact ih (kept_apply h op)

/-- At first it is the case. -/
theorem kept_new (settings : Settings) (mastership : Mastership) :
    ({ settings, mastership } : Controller).Kept where
  healthy := healthy_new settings mastership
  orderly := orderly_new settings mastership
  engaged := nofun
  book := ⟨nofun, nofun, nofun, nofun⟩

/-- The settings are those that the controller was made with. -/
theorem Kept.settings_run (h : c.Kept) (ops : List Operation) :
    (c.run ops).settings = c.settings := by
  induction ops generalizing c with
  | nil => rfl
  | cons op ops ih => exact (ih (kept_apply h op)).trans (h.develops_apply op).settings

/-- A request that was open somewhere is open there or has an outcome, whatever happened since. -/
theorem accounts_run (h : c.Kept) (hu : c.book.Accounts m u) (ops : List Operation) :
    (c.run ops).book.Accounts m u := by
  induction ops generalizing c with
  | nil => exact hu
  | cons op ops ih => exact ih (kept_apply h op) ((h.book.steps (h.develops_apply op).book).2 hu)

/-! ## In the registry -/

/-- The datapath of connection `m` is the one registered as `d`, and each of its connections is
bound to it under an auxiliary id of its own. -/
structure Serves (c : Controller) (d : DatapathId) (m : LinkId) (dp : Datapath) : Prop where
  datapath : c.datapath? m = some dp
  id_eq : dp.id = d
  main_eq : dp.main = m
  main : ∃ k, c.connection? m = some k ∧ k.datapath = some d ∧ k.auxiliary = 0 ∧
    k.isRevoked = false
  auxiliaries : ∀ x j, (x, j) ∈ dp.auxiliaries → x ≠ 0 ∧
    ∃ k, c.connection? j = some k ∧ k.auxiliary = x ∧ k.datapath = some d

/-- Nothing is left of the datapath of connection `m`. -/
structure IsGone (c : Controller) (m : LinkId) (dp : Datapath) : Prop where
  datapath : c.datapath? m = some dp
  unregistered : ∀ d, c.registry.find? d ≠ some m
  closed : ∃ k, c.connection? m = some k ∧ k.isClosed = true
  auxiliaries : dp.auxiliaries = []
  provisioning : dp.provisioning = .cancelled
  entries : dp.requests.entries = []
  unused : ∀ x, dp.requests.isUsed x = false

/-- What is so of the outline of a connection is so of the connection. -/
theorem exists_connection {P : LinkOutline → Prop} (h : c.outline.Has P l) :
    ∃ k, c.link? l = some k ∧ c.connection? l = some k.connection ∧ P k.outline := by
  obtain ⟨k, hk, hP⟩ := h
  obtain ⟨j, hj, rfl⟩ := Option.map_eq_some_iff.1 hk
  exact ⟨j, hj, congrArg (Option.map fun j : Link => j.connection) hj, hP⟩

/-- Whoever is registered serves under that id. -/
theorem Kept.serves (h : c.Kept) {d : DatapathId} (hm : c.registry.find? d = some m) :
    ∃ dp, c.Serves d m dp := by
  obtain ⟨k₀, dp₀, hk₀, hdp₀, hmain⟩ := h.healthy.sound.registered hm
  obtain ⟨dp, hdp, rfl⟩ := Option.map_eq_some_iff.1 hdp₀
  obtain ⟨k, -, hk, rfl⟩ := exists_connection ⟨k₀, hk₀, rfl⟩
  refine ⟨dp, hdp, hmain.id_eq, h.healthy.sound.main_eq hdp₀, ⟨k.connection, hk, hmain.datapath_eq,
    hmain.auxiliary_eq, hmain.not_revoked⟩, fun x j hmem => ?_⟩
  obtain ⟨hx, hbound⟩ := h.orderly.auxiliary hdp₀ hmem
  obtain ⟨k', -, hk', -, haux, hd⟩ := exists_connection hbound
  exact ⟨hx, k'.connection, hk', haux, hmain.id_eq ▸ hd⟩

/-- A table in which no request is open uses no transaction id. -/
theorem isUsed_eq_false {t : RequestTable} (h : t.Indexed) (hentries : t.entries = []) (x : Xid) :
    t.isUsed x = false := by
  -- the ids of barriers and writes belong to entries, of which there are none
  have hnone {k : Xid} {e : OpenRequest} : t.entries.find? k ≠ some e := by
    rw [hentries]
    nofun
  rw [RequestTable.isUsed, Bool.or_eq_false_iff, Bool.or_eq_false_iff]
  refine ⟨⟨?_, ?_⟩, ?_⟩ <;> refine Bool.eq_false_iff.2 fun hhas => ?_
  · obtain ⟨e, he⟩ := Keyed.has_iff.1 hhas
    exact hnone he
  · obtain ⟨k, hk⟩ := Keyed.has_iff.1 hhas
    obtain ⟨e, he, -⟩ := h.barriers_iff.1 hk
    exact hnone he
  · obtain ⟨k, hk⟩ := Keyed.has_iff.1 hhas
    obtain ⟨e, he, -⟩ := h.writes_iff.1 hk
    exact hnone he

/-- Nothing is left of a datapath that listeners were told of and that is not registered. -/
private theorem Kept.isGone (h : c.Kept) {dp : Datapath} (hdp : c.datapath? m = some dp)
    (hannounced : dp.isAnnounced = true) (hm : c.registry.find? dp.id ≠ some m) :
    c.IsGone m dp := by
  have hretired := (h.orderly.announced (datapath?_outline hdp) hannounced).resolve_left hm
  -- a datapath is registered under its own id or not at all
  have hnone (d : DatapathId) : c.registry.find? d ≠ some m := fun hd => by
    obtain ⟨_, dp', -, hdp', hmain⟩ := h.healthy.sound.registered hd
    obtain rfl := Option.some.inj ((datapath?_outline hdp).symm.trans hdp')
    exact hm ((show dp.id = d from hmain.id_eq) ▸ hd)
  have htable := table?_book hdp
  -- tables of datapaths that are not registered list nothing
  have hentries : dp.requests.entries = [] :=
    RequestTable.eq_nil_of_lists fun u hlists =>
      have ⟨d, hd⟩ := (h.book.listed htable hlists).1
      hnone d hd
  obtain ⟨k, -, hk, -, hclosed⟩ := exists_connection hretired.main
  exact ⟨hdp, hnone, ⟨k.connection, hk, hclosed⟩, hretired.auxiliaries, hretired.provisioning,
    hentries, isUsed_eq_false (h.book.indexed htable) hentries⟩

/-- A datapath that has left the registry is gone, and so it stays, no more ready than it was. -/
theorem Kept.leaves (h : c.Kept) {d : DatapathId} (hm : c.registry.find? d = some m)
    (ops : List Operation) (hgone : (c.run ops).registry.find? d ≠ some m) :
    ∃ dp, dp.id = d ∧ (c.run ops).IsGone m dp ∧ ∀ more, ∃ dp', dp'.id = d ∧
      dp'.isReady = dp.isReady ∧ ((c.run ops).run more).IsGone m dp' := by
  obtain ⟨_, dp₀, -, hdp₀, hmain⟩ := h.healthy.sound.registered hm
  -- the datapath is announced, so it stays in the state whatever happens to its registration
  obtain ⟨dp₁, htells₁, hid₁, -⟩ := stays_run h.healthy h.orderly ⟨hdp₀, hmain.isAnnounced⟩ ops
  obtain ⟨dp, hdp, rfl⟩ := Option.map_eq_some_iff.1 htells₁.datapath?
  have hid : dp.id = d := hid₁.trans hmain.id_eq
  have hrun := kept_run h ops
  have hgone' : (c.run ops).outline.main? dp.outline.id ≠ some m := by
    rw [show dp.outline.id = d from hid]
    exact hgone
  refine ⟨dp, hid, hrun.isGone hdp htells₁.isAnnounced hgone', fun more => ?_⟩
  obtain ⟨dp₂, htells₂, hid₂, hstays⟩ := stays_run hrun.healthy hrun.orderly htells₁ more
  obtain ⟨dp', hdp', rfl⟩ := Option.map_eq_some_iff.1 htells₂.datapath?
  have hid' : dp'.id = dp.id := hid₂
  -- gone once is gone for good, and the flag for ready does not move any more
  obtain ⟨hstill, hready⟩ := hstays hgone'
  exact ⟨dp', hid'.trans hid, hready,
    (kept_run hrun more).isGone hdp' htells₂.isAnnounced (hid' ▸ hstill)⟩

/-- A request that has no outcome is open in the table of a registered datapath. -/
theorem Kept.exists_open (h : c.Kept) (hu : c.book.Accounts m u)
    (hpending : c.ledger.outcome? u = none) :
    ∃ d dp, c.registry.find? d = some m ∧ c.datapath? m = some dp ∧ dp.requests.Lists u := by
  obtain ⟨t, ht, hlists⟩ := hu.accounted.resolve_right fun ⟨o, ho⟩ => by
    rw [show c.ledger.outcome? u = some o from ho] at hpending
    cases hpending
  obtain ⟨dp, hdp, rfl⟩ := Option.map_eq_some_iff.1 ht
  obtain ⟨d, hd⟩ := (h.book.listed ht hlists).1
  exact ⟨d, dp, hd, hdp, hlists⟩

/-- In every run, a registered datapath is stored under its id, and so are its connections, which
are bound to it. A datapath that has left the registry has no connection, no open request and no
work to be done for it, and never becomes ready any more. And no request hangs: one without an
outcome is open in the table of a registered datapath, and of the requests that were ever open in
the table of a datapath that is not registered, all have one. -/
theorem registry_run (settings : Settings) (mastership : Mastership)
    (before after : List Operation) :
    let c₀ := run { settings, mastership } before
    let c := c₀.run after
    (∀ d m, c.registry.find? d = some m → ∃ dp, c.Serves d m dp) ∧
    (∀ d m, c₀.registry.find? d = some m → c.registry.find? d ≠ some m →
      ∃ dp, dp.id = d ∧ c.IsGone m dp ∧ ∀ more, ∃ dp', dp'.id = d ∧ dp'.isReady = dp.isReady ∧
        (c.run more).IsGone m dp') ∧
    (∀ m dp u, c₀.datapath? m = some dp → dp.requests.Lists u →
      (∀ d, c.registry.find? d ≠ some m) → ∃ o, c.ledger.outcome? u = some o) ∧
    ∀ u r, c.ledger.get? u = some r → c.ledger.outcome? u = none →
      ∃ d m dp, c.registry.find? d = some m ∧ c.datapath? m = some dp ∧ dp.requests.Lists u := by
  intro c₀ c
  have h₀ : c₀.Kept := kept_run (kept_new settings mastership) before
  have h : c.Kept := kept_run h₀ after
  refine ⟨fun d m hm => h.serves hm, fun d m hm hgone => h₀.leaves hm after hgone,
    fun m dp u hdp hlists hgone => ?_, fun u r hr hpending => ?_⟩
  · have hu : c₀.book.Accounts m u :=
      ⟨(h₀.book.listed (table?_book hdp) hlists).2, .inl ⟨_, table?_book hdp, hlists⟩⟩
    by_contra hnone
    -- a request without an outcome hangs on a datapath that is still registered
    have hpending : c.ledger.outcome? u = none := by
      cases ho : c.ledger.outcome? u with
      | none => rfl
      | some o => exact absurd ⟨o, ho⟩ hnone
    obtain ⟨d, -, hd, -⟩ := h.exists_open (accounts_run h₀ hu after) hpending
    exact hgone d hd
  · obtain ⟨m, hu⟩ := h.book.accounted hr
    obtain ⟨d, dp, hopen⟩ := h.exists_open hu hpending
    exact ⟨d, m, dp, hopen⟩

end Southbound.Controller
