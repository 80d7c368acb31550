import Southbound.Proofs.Controller.Addressees
import Southbound.Proofs.Controller.Isolation

/-!
# Datapaths do not interfere

Whatever frame arrives on a connection, the datapaths with other ids than the one that the
connection belongs to afterwards are left alone (`noninterference_run`).

In every run the datapaths of any set are apart from the others (`Regular.apart`). This takes that
open requests are in the tables of the datapaths they were made to, and that a connection has no
datapath before the features of its switch are known (`Outline.FreshAt`): so the frame that brings
them binds the connection for the first time, and finds nothing filed under it.
-/

namespace Southbound

open Relation (ReflTransGen)

/-! ## Before the features -/

/-- The features of the switch are not known yet. -/
def LinkOutline.IsEarly (k : LinkOutline) : Prop := k.stage.rank < Stage.extendedHandshake.rank

/-- A connection that was put to use knows the features of its switch. -/
private theorem LinkOutline.IsSettled.not_isEarly {k : LinkOutline} (h : k.IsSettled) :
    ¬ k.IsEarly := by
  unfold IsSettled at h
  unfold IsEarly
  generalize k.stage = s at h ⊢
  cases s <;> simp [Stage.isServing, Stage.isFinal, Stage.rank] at h ⊢

namespace Outline

variable {o o' : Outline} {a : Option LinkId} {l j : LinkId}

/-- Nothing has come of connection `l` as long as the features of its switch are not known. -/
def FreshAt (o : Outline) (l : LinkId) : Prop :=
  ∀ k, o.link? l = some k → k.IsEarly → o.Unbound l

/-- Nothing has come of a connection that is not there. -/
private theorem freshAt_of_none (h : o.link? l = none) : o.FreshAt l := fun k hk => by
  rw [h] at hk
  cases hk

/-- Nothing comes of a connection by what is done for others. -/
private theorem FreshAt.drifts (h : o.FreshAt l) {k : LinkOutline} (hk : o.link? l = some k)
    (hdrifts : o.Drifts l o') (hascends : o.Evolves LinkOutline.Ascends l o') : o'.FreshAt l := by
  intro k' hk' hearly
  obtain ⟨k'', hk'', hle⟩ := hascends k hk
  obtain rfl := Option.some.inj (hk'.symm.trans hk'')
  exact (h k hk (Nat.lt_of_le_of_lt hle hearly)).drifts ⟨k, hk⟩ hdrifts

/-- A step of another session. -/
theorem FreshAt.calm (h : o.FreshAt l) (hhoused : o.Housed) (ha : a ≠ some l)
    (hstep : Calm a o o') : o'.FreshAt l := by
  cases hk : o.link? l with
  | some k => exact h.drifts hk (drifts_calm (fun hal => absurd hal ha) hstep) (ascends_calm hstep)
  | none =>
    rcases link?_calm hk hstep with hnone | hnew
    · exact freshAt_of_none hnone
    · -- a connection that has just been made has nothing yet
      have hdrifts : o.Drifts l o' := drifts_calm (fun hal => absurd hal ha) hstep
      refine fun _ _ _ => ⟨hdrifts.datapath (hhoused l hk), fun k hk' => ?_⟩
      rw [← Option.some.inj (hnew.symm.trans hk')]
      rfl

/-- Quiet steps for others are such. -/
private theorem FreshAt.calms (h : o.FreshAt l) (hhoused : o.Housed) (ha : a ≠ some l)
    (hsteps : ReflTransGen (Calm a) o o') : o'.FreshAt l := by
  induction hsteps with
  | refl => exact h
  | tail hbefore hstep ih => exact ih.calm (hhoused.calms hbefore) ha hstep

/-- So is every step that listeners hear of. -/
private theorem FreshAt.eventful (h : o.FreshAt l) (hsound : o.Sound) (hattached : o.Attached)
    (hstep : Eventful j o o') : o'.FreshAt l := by
  cases hk : o.link? l with
  | some k => exact h.drifts hk (drifts_eventful hstep) (ascends_eventful hsound hattached hstep)
  | none => exact freshAt_of_none (link?_eventful hk hstep)

end Outline

namespace Controller

variable {P : DatapathId → Prop} {c c₀ c' : Controller} {l m : LinkId} {f : SwitchFeatures}

/-- The outline tells where a connection belongs. -/
private theorem binding?_outline (c : Controller) (l : LinkId) :
    c.binding? l = (c.outline.link? l).bind (·.datapath) := by
  show ((c.link? l).map _).bind _ = ((c.link? l).map _).bind _
  cases c.link? l <;> rfl

/-- A connection that nothing has come of belongs nowhere. -/
private theorem binding?_of_unbound (h : c.outline.Unbound l) : c.binding? l = none := by
  rw [binding?_outline]
  cases hk : c.outline.link? l with
  | none => rfl
  | some k => exact h.2 k hk

/-- An operation that is no frame of connection `l`. -/
theorem freshAt_apply (h : c.outline.Healthy) (hhoused : c.outline.Housed)
    (hfresh : c.outline.FreshAt l) {op : Operation} (hop : speaker? op ≠ some l) :
    (c.apply op).outline.FreshAt l := by
  rcases apply_spec h.sound h.attached op with ⟨m, -, o, hcalm, heq | hnews⟩ | hcalm
  · exact heq ▸ hfresh.calms hhoused hop hcalm
  · exact (hfresh.calms hhoused hop hcalm).eventful (h.sound.calms hcalm) (h.attached.calms hcalm)
      hnews.eventful
  · exact hfresh.calms hhoused hop hcalm

/-! ## The features -/

/-- A connection that is bound is there, and belongs to the datapath of its features. -/
private theorem link?_bound {k : Link} (hk : c.link? l = some k) (f : SwitchFeatures) :
    ∃ k', (c.bound l f).link? l = some k' ∧ k'.connection.datapath = some ⟨f.datapathId⟩ :=
  ⟨_, link?_bind (link?_received hk) ⟨f.datapathId⟩ f.auxiliaryId, rfl⟩

/-- It belongs there and nowhere else. -/
private theorem binding?_bound {k : Link} (hk : c.link? l = some k) (f : SwitchFeatures) :
    (c.bound l f).binding? l = some ⟨f.datapathId⟩ := by
  obtain ⟨k', hk', hd⟩ := link?_bound hk f
  exact (binding?_of_link? hk').trans hd

/-- The other connections are as they were. -/
private theorem link?_bound_of_ne (c : Controller) (f : SwitchFeatures) {j : LinkId} (hj : j ≠ l) :
    (c.bound l f).link? j = c.link? j := by
  show ((c.received l).modifyLink l _).link? j = _
  rw [link?_modifyLink, if_neg hj]
  exact (solo_received c l).others j hj

/-- A connection without a datapath gets one that is not in `P`. -/
theorem leavesAlone_bound {k : Link} (hk : c.link? l = some k) (hnone : c.binding? l = none)
    (hd : ¬ P ⟨f.datapathId⟩) : c.LeavesAlone P (c.bound l f) where
  datapath? _ := Iff.rfl
  registry _ := rfl
  request _ := Iff.rfl
  link? {j i d} hbound hP := by
    -- the connection was bound to nothing and is now bound to an id outside `P`
    by_cases hj : j = l
    · subst hj
      refine ⟨fun hi => ?_, fun hi => ?_⟩
      · have hsame := (binding?_bound hk f).symm.trans ((binding?_of_link? hi).trans hbound)
        exact absurd (Option.some.inj hsame ▸ hP) hd
      · have hsome := (binding?_of_link? hi).trans hbound
        rw [hnone] at hsome
        cases hsome
    · rw [link?_bound_of_ne c f hj]

/-- Binding a connection that belongs elsewhere keeps the datapaths apart. -/
private theorem Apart.bound (h : c.Apart P) {k : Link} (hk : c.link? l = some k)
    (hd : ¬ P ⟨f.datapathId⟩) : (c.bound l f).Apart P := by
  have hforeign (j : LinkId) (hj : c.Foreign P j) : (c.bound l f).Foreign P j := by
    intro d hbound
    by_cases hjl : j = l
    · rw [hjl, binding?_bound hk f] at hbound
      exact Option.some.inj hbound ▸ hd
    · exact hj d ((binding?_congr (link?_bound_of_ne c f hjl)).symm.trans hbound)
  exact ⟨fun hdp => (h.datapath hdp).mono hforeign fun _ => rfl, fun hm hP =>
    (h.registered hm hP).imp_left (hforeign _)⟩

/-- The end of a session after a frame is as confined as the frame. -/
private theorem Confined.handleFrame {frame : Frame} (h : Confined P l c₀ (c.onFrame l frame).1) :
    Confined P l c₀ (c.handleFrame l frame).1 := by
  unfold Controller.handleFrame
  split
  · next heq =>
    rw [heq] at h
    exact h
  · next heq =>
    rw [heq] at h
    exact h.trans (confined_endSession _ l)

/-- When the features are known the switch is being described, or the connection has been put to
use or has ended. -/
theorem not_isEarly_handleFrame (h : c.outline.Sound) {k : Link} (hk : c.link? l = some k)
    (hs : k.connection.stage = .basicHandshake) {frame : Frame}
    (hframe : c.onFrame l frame = (c.received l).onFeatures l f) {k' : LinkOutline}
    (hk' : (c.handleFrame l frame).1.outline.link? l = some k') : ¬ k'.IsEarly := by
  have hout := outline_received c l
  obtain ⟨k₁, hk₁, hsame⟩ :=
    Option.map_eq_some_iff.1 ((congrArg (·.link? l) hout).trans (link?_outline hk))
  obtain ⟨hcalm, hgoes⟩ := calm_onFeatures (hout.symm ▸ h) hk₁
    ((congrArg LinkOutline.stage hsame).trans hs) f
  rw [← hframe] at hcalm hgoes
  unfold handleFrame at hk'
  split at hk'
  · next heq =>
    rw [heq] at hgoes
    rcases (hgoes rfl).2 k' hk' with ⟨-, hstage⟩ | hsettled
    · rw [LinkOutline.IsEarly, hstage]
      exact Nat.lt_irrefl _
    · exact hsettled.not_isEarly
  · next c₁ heq =>
    rw [heq] at hcalm
    -- the connection is still there when the session ends
    obtain ⟨k₂, hk₂, -⟩ := Outline.ascends_calms hcalm k₁.outline (link?_outline hk₁)
    obtain ⟨k₃, hk₃, -⟩ := Option.map_eq_some_iff.1 hk₂
    obtain ⟨k₄, hk₄, hsettled⟩ := isPast_endSession ((hout.symm ▸ h).calms hcalm) hk₃
    rw [Option.some.inj (hk'.symm.trans hk₄)]
    exact hsettled.not_isEarly

/-! ## What is the case in every run -/

/-- What datapaths that do not interfere with each other rest on. -/
structure Regular (c : Controller) : Prop where
  kept : c.Kept
  housed : c.outline.Housed
  fresh : ∀ l, c.outline.FreshAt l
  addressed : c.Addressed

/-- The datapaths of any set are apart from the others. -/
theorem Regular.apart (h : c.Regular) (P : DatapathId → Prop) : c.Apart P where
  datapath {m dp} hdp := by
    have ht := table?_book hdp
    refine ⟨h.kept.healthy.sound.main_eq (datapath?_outline hdp), h.kept.book.indexed ht,
      h.kept.book.scheduled ht, fun hd j hj d hbound => ?_, fun hd u d hu hud => ?_⟩
    -- an auxiliary connection is bound to the id of the datapath that holds it
    · obtain ⟨⟨x, i⟩, he, rfl⟩ := List.mem_map.1 hj
      obtain ⟨-, k, hk, -, -, hid⟩ := h.kept.orderly.auxiliary (datapath?_outline hdp) he
      rw [binding?_outline, hk] at hbound
      exact Option.some.inj (hid.symm.trans hbound) ▸ hd
    · exact Option.some.inj ((h.addressed m dp u hdp hu).symm.trans hud) ▸ hd
  registered {d m} hm hd := by
    obtain ⟨k, dp₀, hk, hdp₀, hmain⟩ := h.kept.healthy.sound.registered hm
    refine ⟨fun d' hbound => ?_, fun dp hdp => ?_⟩
    · rw [binding?_outline, hk] at hbound
      exact Option.some.inj (hmain.datapath_eq.symm.trans hbound) ▸ hd
    · obtain rfl := Option.some.inj ((datapath?_outline hdp).symm.trans hdp₀)
      exact fun hP => hd (hmain.id_eq ▸ hP)

/-- A step of connection `l`, which may be bound first, leaves alone all datapaths that it does not
belong to then. -/
structure Separates (l : LinkId) (c c₀ c' : Controller) : Prop where
  datapaths : c₀.datapaths = c.datapaths
  ledger : c₀.ledger = c.ledger
  before : ∀ P, c₀.Foreign P l → c.LeavesAlone P c₀
  after : ∀ P, c₀.Foreign P l → c₀.Contained P c' ∧ c'.Apart P

/-- A step that is confined whatever is spared needs no binding first. -/
theorem Regular.separates_of_confined (h : c.Regular) (hconfined : ∀ P, Confined P l c c') :
    Separates l c c c' :=
  ⟨rfl, rfl, fun P _ => .refl P c, fun P hl => hconfined P (h.apart P) hl⟩

/-- A frame binds its connection first, or leaves it where it belongs. -/
theorem Regular.separates_handleFrame (h : c.Regular) (l : LinkId) (frame : Frame) :
    ∃ c₀, Separates l c c₀ (c.handleFrame l frame).1 ∧ (c₀ = c ∨
      ∀ k, (c.handleFrame l frame).1.outline.link? l = some k → ¬ k.IsEarly) := by
  have hsound := h.kept.healthy.sound
  rcases onFrame_cases hsound l frame with hconfined | ⟨k, f, hk, hs, heq⟩
  · exact ⟨c, h.separates_of_confined fun P => (hconfined P).handleFrame, .inl rfl⟩
  -- the one frame that is not confined binds its connection to an id, so the state in between is
  -- the one right after the binding
  · have hearly : k.outline.IsEarly := by
      rw [LinkOutline.IsEarly, show k.outline.stage = _ from hs]
      decide
    have hunbound := h.fresh l k.outline (link?_outline hk) hearly
    have hnone : c.datapath? l = none := Option.map_eq_none_iff.1 hunbound.1
    refine ⟨c.bound l f, ⟨rfl, rfl, fun P hl => ?_, fun P hl => ?_⟩, .inr fun k' hk' =>
      not_isEarly_handleFrame hsound hk hs heq hk'⟩
    · exact leavesAlone_bound hk (binding?_of_unbound hunbound) (hl _ (binding?_bound hk f))
    · have hd := hl _ (binding?_bound hk f)
      have hconfined : Confined P l (c.bound l f) (c.onFrame l frame).1 :=
        heq ▸ confined_onFeatures hnone hd
      exact hconfined.handleFrame ((h.apart P).bound hk hd) hl

/-- The table of a datapath is left alone, or nothing that was made to another one is listed in
it. -/
theorem Separates.addressed (h : Separates l c c₀ c') (haddressed : c.Addressed)
    (hbook : c'.book.Sound) : c'.Addressed := by
  intro m dp u hdp hu
  have hbefore : c₀.Addressed := haddressed.of_eq h.datapaths fun _ => by rw [h.ledger]
  -- choose `P` to be every other id, or this id alone, as the connection is bound to it or not
  by_cases hbound : c₀.binding? l = some dp.id
  · obtain ⟨-, hapart⟩ := h.after (· ≠ dp.id) fun d hd hne =>
      hne (Option.some.inj (hd.symm.trans hbound))
    obtain ⟨-, r, hr⟩ := hbook.listed (table?_book hdp) hu
    have haddressee : c'.ledger.addressee? u = some r.datapath := congrArg (Option.map _) hr
    have hsame := (hapart.datapath hdp).requests (fun hne => hne rfl) u r.datapath hu haddressee
    exact haddressee.trans (congrArg some (not_not.1 hsame))
  · obtain ⟨hcontained, -⟩ := h.after (· = dp.id) fun d hd heq => hbound (heq ▸ hd)
    have hdp₀ := (hcontained.datapath? rfl).1 hdp
    exact (hcontained.addressee u).trans (hbefore m dp u hdp₀ hu)

/-- A connection stays without a datapath until the features of its switch are known. -/
theorem Regular.freshAt_handleFrame (h : c.Regular) (l : LinkId) (frame : Frame) :
    (c.handleFrame l frame).1.outline.FreshAt l := by
  obtain ⟨c₀, hseparates, rfl | hlate⟩ := h.separates_handleFrame l frame
  · intro k' hk' hearly
    have hunbound : c₀.outline.Unbound l := by
      cases hk : c₀.outline.link? l with
      | none => exact ⟨h.housed l hk, fun k hk' => by rw [hk] at hk'; cases hk'⟩
      | some k =>
        obtain ⟨k'', hk'', hle⟩ := ascends_apply h.kept.healthy l (.frame l frame) k hk
        obtain rfl := Option.some.inj (hk'.symm.trans hk'')
        exact h.fresh l k hk (Nat.lt_of_le_of_lt hle hearly)
    have hnone := binding?_of_unbound hunbound
    -- it belongs to nobody, so everybody is left alone
    obtain ⟨hcontained, -⟩ := hseparates.after (fun _ => True) fun d hd => by
      rw [hnone] at hd
      cases hd
    refine ⟨Option.map_eq_none_iff.2 (Option.eq_none_iff_forall_ne_some.2 fun dp hdp => ?_),
      fun k hk => ?_⟩
    · have hdp₀ := datapath?_outline ((hcontained.datapath? trivial).1 hdp)
      rw [hunbound.1] at hdp₀
      cases hdp₀
    · have hbound := (hcontained.binding l).trans hnone
      rw [binding?_outline, hk] at hbound
      exact hbound
  · exact fun k hk hearly => absurd hearly (hlate k hk)

/-- Every operation keeps to what noninterference rests on. -/
theorem regular_apply (h : c.Regular) (op : Operation) : (c.apply op).Regular where
  kept := kept_apply h.kept op
  housed := housed_apply h.kept.healthy h.housed op
  fresh l := by
    by_cases hop : speaker? op = some l
    -- only a frame of this very connection can end its being fresh
    · cases op with
      | frame l' frame =>
        obtain rfl : l' = l := Option.some.inj hop
        exact h.freshAt_handleFrame l' frame
      | _ => cases hop
    · exact freshAt_apply h.kept.healthy h.housed (h.fresh l) hop
  addressed := by
    have hbook := (kept_apply h.kept op).book
    cases op with
    | frame l frame =>
      obtain ⟨c₀, hseparates, -⟩ := h.separates_handleFrame l frame
      exact hseparates.addressed h.addressed hbook
    | close l =>
      exact (h.separates_of_confined fun P => confined_endSession c l).addressed h.addressed hbook
    | _ => exact addressed_apply h.addressed h.kept rfl nofun

/-- By induction, so does every run. -/
theorem regular_run (h : c.Regular) (ops : List Operation) : (c.run ops).Regular := by
  induction ops generalizing c with
  | nil => exact h
  | cons op ops ih => exact ih (regular_apply h op)

/-- At first there is nothing that could interfere. -/
theorem regular_new (settings : Settings) (mastership : Mastership) :
    ({ settings, mastership } : Controller).Regular where
  kept := kept_new settings mastership
  housed _ _ := rfl
  fresh _ := Outline.freshAt_of_none rfl
  addressed _ _ _ hdp := by cases hdp

/-- In every run, a frame changes no datapath with another id than the one that its connection is
bound to afterwards, and none at all if the connection is bound to none: the other datapaths are as
they were with their ports, descriptions, flags, auxiliary connections and open requests, so is who
is registered under their ids, so are the outcomes of all requests that were made to them, and so
are the connections that are bound to their ids, with their stages and queues. Those are the
connections that registered datapaths have. -/
theorem noninterference_run (settings : Settings) (mastership : Mastership) (ops : List Operation)
    (l : LinkId) (frame : Frame) :
    let c := run { settings, mastership } ops
    let c' := (c.handleFrame l frame).1
    c.LeavesAlone (fun d => c'.binding? l ≠ some d) c' ∧
    (c'.binding? l = none → c.LeavesAlone (fun _ => True) c') ∧
    ∀ d dp, c.registered? d = some dp → dp.id = d ∧ c.binding? dp.main = some d ∧
      ∀ j ∈ dp.auxiliaries.values, c.binding? j = some d := by
  intro c c'
  have h : c.Regular := regular_run (regular_new settings mastership) ops
  obtain ⟨c₀, hseparates, -⟩ := h.separates_handleFrame l frame
  -- where the connection belongs when it has been bound is where it belongs in the end
  have hbinding : c'.binding? l = c₀.binding? l :=
    (hseparates.after (fun _ => False) fun _ _ => id).1.binding l
  have hothers (P : DatapathId → Prop) (hP : ∀ d, P d → c'.binding? l ≠ some d) :
      c.LeavesAlone P c' := by
    have hl : c₀.Foreign P l := fun d hd hPd => hP d hPd (hbinding.trans hd)
    exact (hseparates.before P hl).trans (hseparates.after P hl).1.toLeavesAlone
  refine ⟨hothers _ fun _ => id, fun hnone => hothers _ fun d _ hd => ?_, fun d dp hdp => ?_⟩
  · rw [hnone] at hd
    cases hd
  · obtain ⟨m, hm, hdp⟩ := registered?_eq_some hdp
    obtain ⟨dp', hserves⟩ := h.kept.serves hm
    obtain rfl := Option.some.inj (hdp.symm.trans hserves.datapath)
    obtain ⟨k, hk, hd, -⟩ := hserves.main
    refine ⟨hserves.id_eq, hserves.main_eq ▸ (binding?_of_connection? hk).trans hd, fun j hj => ?_⟩
    obtain ⟨⟨x, i⟩, he, rfl⟩ := List.mem_map.1 hj
    obtain ⟨-, k', hk', -, hd'⟩ := hserves.auxiliaries x i he
    exact (binding?_of_connection? hk').trans hd'

end Controller

end Southbound
