import Southbound.Proofs.Controller.Registry
import Southbound.Proofs.Controller.Ports

/-!
# What becomes of a connection

A connection never goes back to an earlier stage (`ascends_run`). Of what its session has found out
nothing is lost by what others do, nor by anything at all once it has been put to use
(`drifts_apply`).
-/

namespace Southbound

open Relation (ReflTransGen)

/-- How far a stage is from the beginning. -/
def Stage.rank : Stage → Nat
  | connecting => 0
  | versionNegotiating => 1
  | basicHandshake => 2
  | extendedHandshake => 3
  | postHandshake => 4
  | ready => 5
  | closed | revoked => 6

namespace LinkOutline

/-- The connection is at the same stage as before, or at a later one. -/
def Ascends (k k' : LinkOutline) : Prop := k.stage.rank ≤ k'.stage.rank

/-- The session is where it was and knows what it knew, unless it has come to an end or has been put
to use. -/
structure Drifts (k k' : LinkOutline) : Prop where
  version : k'.version = k.version
  featuresXid : k'.featuresXid = k.featuresXid
  datapath : k'.datapath = k.datapath
  descriptions : k'.descriptions = k.descriptions
  stage : k'.stage = k.stage ∨ k'.IsSettled

/-- A stage that is entered is not behind the one before, unless that was a final one. -/
private theorem ascends_enter (k : LinkOutline) {s : Stage}
    (hs : k.stage.isFinal = false → k.stage.rank ≤ s.rank) : k.Ascends (k.enter s) := by
  unfold Ascends enter
  split
  · exact Nat.le_refl _
  · next h => exact hs (Bool.eq_false_iff.2 h)

/-- What closes has come to the last stage. -/
theorem ascends_enter_final (k : LinkOutline) {s : Stage} (hs : s.isFinal = true) :
    k.Ascends (k.enter s) := by
  refine k.ascends_enter fun _ => ?_
  have hlast : s.rank = 6 := by cases s <;> first | rfl | cases hs
  rw [hlast]
  cases k.stage <;> decide

/-- To become ready is no way back. -/
private theorem ascends_enter_ready (k : LinkOutline) : k.Ascends (k.enter .ready) := by
  refine k.ascends_enter fun h => ?_
  generalize k.stage = s at h ⊢
  cases s <;> first | decide | cases h

/-- A connection that is put to use, or ends, keeps what it knew. -/
private theorem drifts_enter (k : LinkOutline) {s : Stage}
    (hs : s.isServing = true ∨ s.isFinal = true) :
    k.Drifts (k.enter s) :=
  ⟨version_enter _ _, featuresXid_enter _ _, datapath_enter _ _, descriptions_enter _ _,
    .inr (isSettled_enter _ hs)⟩

end LinkOutline

namespace Outline

variable {o o' o'' : Outline} {l j m : LinkId} {R : LinkOutline → LinkOutline → Prop}

/-- What connection `l` is in the end has to do with what it was by `R`. -/
def Evolves (R : LinkOutline → LinkOutline → Prop) (l : LinkId) (o o' : Outline) : Prop :=
  ∀ k, o.link? l = some k → ∃ k', o'.link? l = some k' ∧ R k k'

/-- `R` holds over any number of steps, and when a connection comes to an end. -/
structure Endures (R : LinkOutline → LinkOutline → Prop) : Prop where
  refl : ∀ k, R k k
  trans : ∀ {k k' k''}, R k k' → R k' k'' → R k k''
  close : ∀ k, R k k.close
  cancel : ∀ k, R k k.cancel
  finish : ∀ k, R k k.finish
  revoke : ∀ k, R k k.revoke

/-- No end of a connection is a way back. -/
private theorem endures_ascends : Endures LinkOutline.Ascends where
  refl _ := Nat.le_refl _
  trans := Nat.le_trans
  close k := k.ascends_enter_final rfl
  cancel _ := Nat.le_refl _
  finish k := k.ascends_enter_final rfl
  revoke k := k.ascends_enter_final rfl

/-- What a session knows it knows after its end. -/
private theorem endures_drifts : Endures LinkOutline.Drifts where
  refl _ := ⟨rfl, rfl, rfl, rfl, .inl rfl⟩
  trans {k k' k''} h h' := by
    refine ⟨h'.version.trans h.version, h'.featuresXid.trans h.featuresXid,
      h'.datapath.trans h.datapath, h'.descriptions.trans h.descriptions, ?_⟩
    -- once settled always settled, so the later of two drifts decides only if it moved the stage
    rcases h'.stage with hs' | hs'
    · refine h.stage.imp hs'.trans fun hs => ?_
      rwa [LinkOutline.IsSettled, hs']
    · exact .inr hs'
  close k :=
    have h := k.drifts_enter (s := .closed) (.inr rfl)
    ⟨h.version, h.featuresXid, h.datapath, h.descriptions, h.stage⟩
  cancel _ := ⟨rfl, rfl, rfl, rfl, .inl rfl⟩
  finish k :=
    have h := k.drifts_enter (s := .closed) (.inr rfl)
    ⟨h.version, h.featuresXid, h.datapath, h.descriptions, h.stage⟩
  revoke k :=
    have h := k.drifts_enter (s := .revoked) (.inr rfl)
    ⟨h.version, h.featuresXid, h.datapath, h.descriptions, h.stage⟩

/-! ## Changes of connections -/

/-- A connection that is as it was has evolved. -/
theorem Endures.of_eq (hR : Endures R) (h : o'.link? l = o.link? l) : o.Evolves R l o' :=
  fun k hk => ⟨k, h.trans hk, hR.refl k⟩

/-- A connection can evolve in two steps. -/
theorem Evolves.trans (h : o.Evolves R l o') (hR : Endures R) (h' : o'.Evolves R l o'') :
    o.Evolves R l o'' := fun k hk => by
  obtain ⟨k', hk', hkk'⟩ := h k hk
  obtain ⟨k'', hk'', hkk''⟩ := h' k' hk'
  exact ⟨k'', hk'', hR.trans hkk' hkk''⟩

/-- A change of one connection has to be seen to for that one only. -/
theorem Endures.updateLink (hR : Endures R) {f : LinkOutline → LinkOutline}
    (hf : ∀ k, o.link? l = some k → j = l → R k (f k)) : o.Evolves R l (o.updateLink j f) :=
  fun k hk => by
    by_cases hj : l = j
    · exact ⟨f k, by simp [← hj, hk], hf k hk hj.symm⟩
    · exact ⟨k, by simp [hj, hk], hR.refl k⟩

/-- Connections can be closed. -/
private theorem Endures.closeLinks (hR : Endures R) (o : Outline) (ls : List LinkId) :
    o.Evolves R l (o.closeLinks ls) := by
  induction ls generalizing o with
  | nil => exact hR.of_eq rfl
  | cons j ls ih => exact (hR.updateLink fun k _ _ => hR.close k).trans hR (ih _)

/-- A datapath can be unregistered. -/
private theorem Endures.unregister (hR : Endures R) {leave : LinkOutline → LinkOutline}
    (hleave : ∀ k, R k (leave k)) (o : Outline) (d : DatapathId) (m : LinkId)
    (dp : DatapathOutline) : o.Evolves R l (o.unregister d m dp leave) := by
  have hset : o.Evolves R l (o.setMain d none) := hR.of_eq rfl
  have hleft : o.Evolves R l ((o.setMain d none).updateLink m leave) :=
    hset.trans hR (hR.updateLink fun k _ _ => hleave k)
  exact hleft.trans hR (hR.closeLinks _ dp.auxiliaries.values)

/-- A datapath can be registered if its connection may be put to use. -/
private theorem Endures.register (hR : Endures R) (d : DatapathId)
    (henter : ∀ k, o.link? l = some k → j = l → R k (k.enter .postHandshake)) :
    o.Evolves R l (o.register d j) :=
  hR.updateLink henter

/-- A connection joins the connections of a datapath, where another one may have to go. -/
theorem Endures.attach (hR : Endures R) (dp : DatapathOutline) (x : UInt8)
    (hjoin : ∀ k, j = l → R k ((k.serve m).enter .ready)) :
    o.Evolves R l (o.attach j m dp x) := by
  have hclosed : o.Evolves R l (o.closeLinks (dp.auxiliaries.find? x).toList) :=
    hR.closeLinks o _
  have hjoined : (o.closeLinks (dp.auxiliaries.find? x).toList).Evolves R l
      ((o.closeLinks (dp.auxiliaries.find? x).toList).updateDatapath m (.attach x j)) :=
    hR.of_eq rfl
  exact (hclosed.trans hR hjoined).trans hR (hR.updateLink fun k _ hj => hjoin k hj)

/-! ## No way back -/

/-- No connection goes back in a quiet step. -/
theorem ascends_calm {a : Option LinkId} (hstep : Calm a o o') :
    o.Evolves LinkOutline.Ascends l o' := by
  have hR := endures_ascends
  -- who is at an early stage can enter any that comes after
  have henter {j : LinkId} {k₀ : LinkOutline} {f : LinkOutline → LinkOutline}
      (hk₀ : o.link? j = some k₀) (hf : k₀.Ascends (f k₀)) :
      o.Evolves LinkOutline.Ascends l (o.updateLink j f) := by
    refine hR.updateLink fun k hk hj => ?_
    obtain rfl : k₀ = k := Option.some.inj (hk₀.symm.trans (hj ▸ hk))
    exact hf
  cases hstep with
  | @accept _ _ j hj =>
    intro k hk
    refine ⟨k, (if_neg ?_).trans hk, hR.refl k⟩
    rintro rfl
    rw [hj] at hk
    cases hk
  | close => exact hR.updateLink fun k _ _ => hR.close k
  | cancel => exact hR.updateLink fun k _ _ => hR.cancel k
  | finish => exact hR.updateLink fun k _ _ => hR.finish k
  | @greet _ j k hk hs v x =>
    refine henter hk ({ k with version := v }.ascends_enter fun _ => ?_)
    rcases hs with hs | hs <;> simp [hs, Stage.rank]
  | bind hk | learn hk => exact henter hk (Nat.le_refl _)
  | @collect _ j k d ports hk hs =>
    refine henter hk (k.ascends_enter fun _ => ?_)
    simp [hs, Stage.rank]
  | introduce | ports | detach => exact hR.of_eq rfl
  | attach => exact hR.attach _ _ fun k _ => (k.serve _).ascends_enter_ready

/-- Nor does it in several. -/
theorem ascends_calms {a : Option LinkId} (hsteps : ReflTransGen (Calm a) o o') :
    o.Evolves LinkOutline.Ascends l o' := by
  induction hsteps with
  | refl => exact endures_ascends.of_eq rfl
  | tail _ hstep ih => exact ih.trans endures_ascends (ascends_calm hstep)

/-- No connection goes back in a step that listeners hear of. -/
theorem ascends_eventful (h : o.Sound) (ha : o.Attached) (hstep : Eventful j o o') :
    o.Evolves LinkOutline.Ascends l o' := by
  have hR := endures_ascends
  -- who is registered was being described
  have hregister {o : Outline} {k₀ : LinkOutline} (d : DatapathId) (hk₀ : o.link? j = some k₀)
      (hs : k₀.stage = .extendedHandshake) :
      o.Evolves LinkOutline.Ascends l (o.register d j) := by
    refine hR.register d fun k hk hj => k.ascends_enter fun _ => ?_
    obtain rfl : k₀ = k := Option.some.inj (hk₀.symm.trans (hj ▸ hk))
    simp [hs, Stage.rank]
  cases hstep with
  | @connects k dp e hk hs => exact hregister dp.id hk hs
  | @replaces k dp old m gone e hk hs hdp hm hold =>
    obtain ⟨hlink, -⟩ := h.unregister_apart ha hk hs hm hold .revoke
    have hgone := hR.unregister (l := l) hR.revoke o dp.id m old
    exact hgone.trans hR (hregister dp.id (hlink.trans hk) hs)
  | serves => exact hR.of_eq rfl
  | readies =>
    have hready : o.Evolves LinkOutline.Ascends l (o.updateDatapath j .getReady) := hR.of_eq rfl
    exact hready.trans hR (hR.updateLink fun k _ _ => k.ascends_enter_ready)
  | @disconnects d dp => exact hR.unregister hR.close o d j dp

/-! ## What others do -/

/-- What connection `l` has found out is kept, and no datapath is introduced on it. -/
structure Drifts (o : Outline) (l : LinkId) (o' : Outline) : Prop where
  link : o.Evolves LinkOutline.Drifts l o'
  datapath : o.datapath? l = none → o'.datapath? l = none

theorem Drifts.refl (o : Outline) (l : LinkId) : o.Drifts l o := ⟨endures_drifts.of_eq rfl, id⟩

/-- What is kept twice is kept. -/
private theorem Drifts.trans (h : o.Drifts l o') (h' : o'.Drifts l o'') : o.Drifts l o'' :=
  ⟨h.link.trans endures_drifts h'.link, fun hnone => h'.datapath (h.datapath hnone)⟩

/-- Nothing has come of connection `l`. -/
def Unbound (o : Outline) (l : LinkId) : Prop :=
  o.datapath? l = none ∧ ∀ k, o.link? l = some k → k.datapath = none

/-- Nothing comes of a connection as long as nobody hears it. -/
theorem Unbound.drifts (h : o.Unbound l) (hlink : ∃ k, o.link? l = some k)
    (hdrifts : o.Drifts l o') : o'.Unbound l := by
  obtain ⟨k, hk⟩ := hlink
  obtain ⟨k', hk', hkk'⟩ := hdrifts.link k hk
  refine ⟨hdrifts.datapath h.1, fun k'' hk'' => ?_⟩
  rw [← Option.some.inj (hk'.symm.trans hk''), hkk'.datapath]
  exact h.2 k hk

/-- Nothing is introduced when a datapath that is there changes. -/
theorem datapath?_eq_none {f : DatapathOutline → DatapathOutline} (h : o.datapath? l = none)
    (hdatapath : o'.datapath? l = if l = m then (o.datapath? l).map f else o.datapath? l) :
    o'.datapath? l = none := by
  rw [hdatapath, h]
  split <;> rfl

/-- A step without news is one of another session, or connection `l` has been put to use. -/
theorem drifts_calm {a : Option LinkId}
    (hl : a = some l → ∀ k, o.link? l = some k → k.IsSettled) (hstep : Calm a o o') :
    o.Drifts l o' := by
  have hR := endures_drifts
  -- so it is another connection that is in the midst of its handshake
  have hother {j : LinkId} {k : LinkOutline} (ha : a = some j) (hk : o.link? j = some k)
      (hs : ¬ k.IsSettled) : j ≠ l := by
    rintro rfl
    exact hs (hl ha k hk)
  have hupdate {j : LinkId} {f : LinkOutline → LinkOutline} (hj : j ≠ l) :
      o.Drifts l (o.updateLink j f) :=
    ⟨hR.updateLink fun _ _ hjl => absurd hjl hj, id⟩
  cases hstep with
  | @accept _ _ j hj =>
    refine ⟨fun k hk => ⟨k, (if_neg ?_).trans hk, hR.refl k⟩, id⟩
    rintro rfl
    rw [hj] at hk
    cases hk
  | close => exact ⟨hR.updateLink fun k _ _ => hR.close k, id⟩
  | cancel => exact ⟨hR.updateLink fun k _ _ => hR.cancel k, id⟩
  | finish => exact ⟨hR.updateLink fun k _ _ => hR.finish k, id⟩
  | greet hk hs => exact hupdate (hother rfl hk (LinkOutline.not_isSettled (hs.imp id .inl)))
  | bind hk hs | collect hk hs =>
    exact hupdate (hother rfl hk (LinkOutline.not_isSettled (.inr (.inr (.inl hs)))))
  | learn hk hs =>
    exact hupdate (hother rfl hk (LinkOutline.not_isSettled (.inr (.inr (.inr hs)))))
  | introduce hk hs =>
    have hj := hother rfl hk (LinkOutline.not_isSettled (.inr (.inr (.inl hs))))
    exact ⟨hR.of_eq rfl, (if_neg hj.symm).trans⟩
  | ports => exact ⟨hR.of_eq rfl, fun hnone => datapath?_eq_none hnone rfl⟩
  | detach => exact ⟨hR.of_eq rfl, fun hnone => datapath?_eq_none hnone rfl⟩
  | @attach _ j m k d dp hk hs =>
    have hj := hother rfl hk (LinkOutline.not_isSettled (.inr (.inr (.inl hs))))
    refine ⟨hR.attach dp k.auxiliary fun _ hjl => absurd hjl hj, fun hnone => ?_⟩
    exact datapath?_eq_none (m := m) (f := .attach k.auxiliary j) hnone (by simp [Outline.attach])

/-- A step that listeners hear of takes nothing from what a connection has found out. -/
theorem drifts_eventful (hstep : Eventful j o o') : o.Drifts l o' := by
  have hR := endures_drifts
  -- the main connection that registers or retires moves on to a settled stage
  have hregister (o : Outline) (d : DatapathId) : o.Drifts l (o.register d j) :=
    ⟨hR.register d fun k _ _ => k.drifts_enter (.inl rfl), fun hnone =>
      datapath?_eq_none hnone rfl⟩
  have hunregister (d : DatapathId) (m : LinkId) (dp : DatapathOutline)
      {leave : LinkOutline → LinkOutline} (hleave : ∀ k : LinkOutline, k.Drifts (leave k)) :
      o.Drifts l (o.unregister d m dp leave) :=
    ⟨hR.unregister hleave o d m dp, fun hnone =>
      datapath?_eq_none hnone (datapath?_unregister o d l m dp leave)⟩
  cases hstep with
  | @connects _ dp =>
    have hdrifts := hregister o dp.id
    exact ⟨hdrifts.link, hdrifts.datapath⟩
  | @replaces _ dp old m =>
    have hdrifts := (hunregister dp.id m old hR.revoke).trans (hregister _ dp.id)
    exact ⟨hdrifts.link, hdrifts.datapath⟩
  | serves => exact ⟨hR.of_eq rfl, id⟩
  | readies =>
    have hready : o.Evolves LinkOutline.Drifts l (o.updateDatapath j .getReady) := hR.of_eq rfl
    exact ⟨hready.trans hR (hR.updateLink fun k _ _ => k.drifts_enter (.inl rfl)), fun hnone =>
      datapath?_eq_none hnone rfl⟩
  | @disconnects d dp =>
    have hdrifts := hunregister d j dp hR.close
    exact ⟨hdrifts.link, hdrifts.datapath⟩

/-- Neither do quiet steps for other connections, or once it has been put to use. -/
private theorem drifts_calms {a : Option LinkId} (hl : a ≠ some l ∨ o.IsPast l)
    (hsteps : ReflTransGen (Calm a) o o') : o.Drifts l o' := by
  induction hsteps with
  | refl => exact .refl o l
  | @tail o₁ _ hbefore hstep ih =>
    refine ih.trans (drifts_calm (fun ha k hk => ?_) hstep)
    obtain ⟨k', hk', hsettled⟩ :=
      (hl.resolve_left fun hne => hne ha).calms lasting_isSettled hbefore
    obtain rfl : k = k' := Option.some.inj (hk.symm.trans hk')
    exact hsettled

/-- A connection that was not there is still not there, or it has just been made. -/
theorem link?_calm {a : Option LinkId} (hnone : o.link? l = none) (hstep : Calm a o o') :
    o'.link? l = none ∨ o'.link? l = some .new := by
  cases hstep with
  | @accept _ _ j hj =>
    by_cases hlj : l = j
    · exact .inr (if_pos hlj)
    · exact .inl ((if_neg hlj).trans hnone)
  | close | cancel | finish | greet | bind | collect | learn => exact .inl (by simp [hnone])
  | introduce | ports | detach => exact .inl hnone
  | attach => exact .inl (by simp [Outline.attach, hnone])

/-- A step that listeners hear of accepts no connection. -/
theorem link?_eventful (hnone : o.link? l = none) (hstep : Eventful j o o') :
    o'.link? l = none := by
  cases hstep <;> simp [hnone]

/-- Whoever has a datapath is there. -/
def Housed (o : Outline) : Prop := ∀ l, o.link? l = none → o.datapath? l = none

/-- No connection comes without being accepted, and no datapath without its connection. -/
private theorem Housed.of_drifts (h : o.Housed)
    (hdrifts : ∀ l, o.link? l = none → o.Drifts l o')
    (hlinks : ∀ l, o.Evolves LinkOutline.Ascends l o') : o'.Housed := fun l hnone => by
  cases hk : o.link? l with
  | none => exact (hdrifts l hk).datapath (h l hk)
  | some k =>
    obtain ⟨k', hk', -⟩ := hlinks l k hk
    rw [hnone] at hk'
    cases hk'

/-- Quiet steps introduce datapaths only on connections that are there. -/
theorem Housed.calms (h : o.Housed) {a : Option LinkId} (hsteps : ReflTransGen (Calm a) o o') :
    o'.Housed := by
  induction hsteps with
  | refl => exact h
  | tail _ hstep ih =>
    refine ih.of_drifts (fun l hnone => drifts_calm (fun _ k hk => ?_) hstep) fun l =>
      ascends_calm hstep
    rw [hnone] at hk
    cases hk

/-- Nobody is registered by news after having been put to use. -/
theorem main?_eventful_of_isPast (h : o.IsPast l) (hstep : Eventful j o o') {d : DatapathId}
    (hm : o'.main? d = some l) : o.main? d = some l := by
  -- the connection that is registered was being described just before
  have hnew {k : LinkOutline} (hk : o.link? j = some k) (hs : k.stage = .extendedHandshake) :
      l ≠ j := by
    rintro rfl
    obtain ⟨k', hk', hsettled⟩ := h
    obtain rfl : k = k' := Option.some.inj (hk.symm.trans hk')
    exact LinkOutline.not_isSettled (.inr (.inr (.inr hs))) hsettled
  cases hstep with
  | connects hk hs hdp hfree he =>
    exact (main?_eventful (.connects hk hs hdp hfree he) hm).resolve_left (hnew hk hs)
  | replaces hk hs hdp hm' hold hgone he =>
    exact (main?_eventful (.replaces hk hs hdp hm' hold hgone he) hm).resolve_left (hnew hk hs)
  | serves | readies => exact hm
  | disconnects =>
    have hm' : (o.unregister _ j _ .close).main? d = some l := hm
    rw [main?_unregister] at hm'
    split at hm'
    · cases hm'
    · exact hm'

end Outline

namespace Controller

variable {a : Option LinkId} {c c' : Controller} {l m : LinkId}

/-- No move of a connection takes it, or another one, back. -/
private theorem Moves.ascends (hmoves : Moves a m c c') (h : c.outline.Healthy) :
    c.outline.Evolves LinkOutline.Ascends l c'.outline := by
  obtain ⟨o, hcalm, heq | hnews⟩ := hmoves
  · exact heq ▸ Outline.ascends_calms hcalm
  · exact (Outline.ascends_calms hcalm).trans Outline.endures_ascends
      (Outline.ascends_eventful (h.sound.calms hcalm) (h.attached.calms hcalm) hnews.eventful)

/-- No operation takes a connection back to an earlier stage. -/
theorem ascends_apply (h : c.outline.Healthy) (l : LinkId) (op : Operation) :
    c.outline.Evolves LinkOutline.Ascends l (c.apply op).outline := by
  rcases apply_spec h.sound h.attached op with ⟨m, -, hmoves⟩ | hcalm
  · exact hmoves.ascends h
  · exact Outline.ascends_calms hcalm

/-- By induction on the operations, no connection goes back in a run. -/
theorem ascends_run (h : c.outline.Healthy) (l : LinkId) (ops : List Operation) :
    c.outline.Evolves LinkOutline.Ascends l (c.run ops).outline := by
  induction ops generalizing c with
  | nil => exact Outline.endures_ascends.of_eq rfl
  | cons op ops ih =>
    exact (ascends_apply h l op).trans Outline.endures_ascends (ih (healthy_apply h op))

/-- The moves of a connection take nothing from what the others have found out. -/
theorem Moves.drifts (hmoves : Moves a m c c') (hl : a ≠ some l ∨ c.outline.IsPast l) :
    c.outline.Drifts l c'.outline := by
  obtain ⟨o, hcalm, heq | hnews⟩ := hmoves
  · exact heq ▸ Outline.drifts_calms hl hcalm
  · exact (Outline.drifts_calms hl hcalm).trans (Outline.drifts_eventful hnews.eventful)

/-- An operation that is no frame of connection `l`, or comes when that has been put to use, takes
nothing from what its session has found out. -/
theorem drifts_apply (h : c.outline.Healthy) {op : Operation}
    (hl : speaker? op ≠ some l ∨ c.outline.IsPast l) :
    c.outline.Drifts l (c.apply op).outline := by
  rcases apply_spec h.sound h.attached op with ⟨m, -, hmoves⟩ | hcalm
  · exact hmoves.drifts hl
  · exact Outline.drifts_calms hl hcalm

/-- Nor does any such operation register connection `l`. -/
theorem registered_before (h : c.outline.Healthy) {op : Operation}
    (hl : speaker? op ≠ some l ∨ c.outline.IsPast l) {d : DatapathId}
    (hafter : (c.apply op).registry.find? d = some l) : c.registry.find? d = some l := by
  by_contra hbefore
  obtain ⟨f, rfl⟩ := frame_of_registered h hbefore hafter
  -- only a frame registers, and not on a connection past its handshake
  have hpast := hl.resolve_left fun hne => hne rfl
  have hm : (c.handleFrame l f).1.outline.main? d = some l := hafter
  obtain ⟨o, hcalm, heq | hnews⟩ := moves_handleFrame h.sound h.attached l f
  · rw [heq, (h.calm hcalm).2.2] at hm
    exact hbefore hm
  · have hsame := Outline.main?_eventful_of_isPast
      (hpast.calms Outline.lasting_isSettled hcalm) hnews.eventful hm
    rw [(h.calm hcalm).2.2] at hsame
    exact hbefore hsame

/-! ## Connections and datapaths -/

/-- Operations keep it so that whoever has a datapath is there. -/
theorem housed_apply (h : c.outline.Healthy) (hhoused : c.outline.Housed) (op : Operation) :
    (c.apply op).outline.Housed := by
  rcases apply_spec h.sound h.attached op with ⟨m, -, o, hcalm, heq | hnews⟩ | hcalm
  · exact heq ▸ hhoused.calms hcalm
  · exact (hhoused.calms hcalm).of_drifts (fun l _ => Outline.drifts_eventful hnews.eventful)
      fun l => Outline.ascends_eventful (h.sound.calms hcalm) (h.attached.calms hcalm)
        hnews.eventful
  · exact hhoused.calms hcalm

/-- So do runs. -/
theorem housed_run (h : c.outline.Healthy) (hhoused : c.outline.Housed) (ops : List Operation) :
    (c.run ops).outline.Housed := by
  induction ops generalizing c with
  | nil => exact hhoused
  | cons op ops ih => exact ih (healthy_apply h op) (housed_apply h hhoused op)

/-- A connection is registered once at most, under one id. -/
theorem registered_once (h : c.Kept) {d d' : DatapathId} (hd : c.registry.find? d = some l)
    (ops : List Operation) (hd' : (c.run ops).registry.find? d' = some l) : d' = d := by
  obtain ⟨_, dp, -, hdp, hmain⟩ := h.healthy.sound.registered hd
  obtain ⟨dp', htells, hid, -⟩ := stays_run h.healthy h.orderly ⟨hdp, hmain.isAnnounced⟩ ops
  obtain ⟨_, dp'', -, hdp'', hmain'⟩ := (kept_run h ops).healthy.sound.registered hd'
  obtain rfl := Option.some.inj (htells.datapath?.symm.trans hdp'')
  exact hmain'.id_eq.symm.trans (hid.trans hmain.id_eq)

end Controller

end Southbound
