import Southbound.Proofs.Controller.Versions

/-!
# Who is attached

A connection is attached to a datapath by the frame that brings its features (`attachment?`), and by
nothing else: no other operation adds to the auxiliary connections of any datapath
(`sheds_apply`). So what is found under an auxiliary id is the connection that was attached there
last, if anything is found (`traced_run`). It is found as long as it is open
(`Traced.attached?_of_open`), and all that were attached before it are closed
(`Traced.isClosed_of_replaced`).
-/

namespace Southbound

open Relation (ReflTransGen)

namespace Outline

variable {o o' o'' : Outline} {a : Option LinkId} {l m j : LinkId} {x y : UInt8}

/-- The connection that is attached under an auxiliary id to the datapath of `m`. -/
def attached? (o : Outline) (m : LinkId) (x : UInt8) : Option LinkId :=
  (o.datapath? m).bind (·.auxiliaries.find? x)

/-- Between two states, no connection was attached. -/
def Sheds (o o' : Outline) : Prop :=
  ∀ m x j, o'.attached? m x = some j → o.attached? m x = some j

private theorem Sheds.refl (o : Outline) : o.Sheds o := fun _ _ _ h => h

private theorem Sheds.trans (h : o.Sheds o') (h' : o'.Sheds o'') : o.Sheds o'' :=
  fun m x j hj => h m x j (h' m x j hj)

/-- Nobody is attached while the datapaths stay as they are. -/
private theorem sheds_of_datapath? (h : o'.datapath? = o.datapath?) :
    o.Sheds o' := fun m x j hj => by
  rw [attached?, h] at hj
  exact hj

private theorem sheds_of_eq (h : o' = o) : o.Sheds o' := h ▸ .refl o

/-- Nobody is attached by a change of a datapath that adds no auxiliary connection. -/
private theorem sheds_updateDatapath (o : Outline) (m : LinkId)
    {f : DatapathOutline → DatapathOutline}
    (hf : ∀ dp x j, (f dp).auxiliaries.find? x = some j → dp.auxiliaries.find? x = some j) :
    o.Sheds (o.updateDatapath m f) := by
  intro i x j hj
  obtain ⟨dp, hdp, hfind⟩ := Option.bind_eq_some_iff.1 hj
  rw [datapath?_updateDatapath] at hdp
  split at hdp
  · obtain ⟨dp₀, hdp₀, rfl⟩ := Option.map_eq_some_iff.1 hdp
    exact Option.bind_eq_some_iff.2 ⟨dp₀, hdp₀, hf dp₀ x j hfind⟩
  · exact Option.bind_eq_some_iff.2 ⟨dp, hdp, hfind⟩

/-- A datapath of which nobody was told has no connections yet. -/
theorem sheds_putDatapath (o : Outline) (l : LinkId) (d : DatapathId) (ports : PortTable) :
    o.Sheds (o.putDatapath l (.new d l ports)) := by
  intro i x j hj
  obtain ⟨dp, hdp, hfind⟩ := Option.bind_eq_some_iff.1 hj
  by_cases hi : i = l
  · obtain rfl := Option.some.inj ((if_pos hi).symm.trans hdp)
    cases hfind
  · exact Option.bind_eq_some_iff.2 ⟨dp, (if_neg hi).symm.trans hdp, hfind⟩

/-- Registering a datapath attaches nobody. -/
private theorem sheds_register (o : Outline) (d : DatapathId) (l : LinkId) :
    o.Sheds (o.register d l) :=
  (sheds_updateDatapath o l (f := .announce) fun _ _ _ h => h).trans (sheds_of_datapath? rfl)

/-- Unregistering a datapath attaches nobody, and takes its auxiliary connections away. -/
private theorem sheds_unregister (o : Outline) (d : DatapathId) (m : LinkId) (dp : DatapathOutline)
    (leave : LinkOutline → LinkOutline) : o.Sheds (o.unregister d m dp leave) := by
  refine (sheds_updateDatapath o m (f := .withdraw) nofun).trans (sheds_of_datapath? ?_)
  funext i
  rw [datapath?_unregister, datapath?_updateDatapath]

/-! ## Nobody is attached -/

/-- The features of the switch of connection `l` are known. -/
def IsLate (o : Outline) (l : LinkId) : Prop := o.Has (fun k => ¬ k.IsEarly) l

/-- A quiet step attaches nobody if the features of the switch that is heard are known. -/
private theorem sheds_calm (hstep : Calm a o o') (ha : ∀ l, a = some l → o.IsLate l) :
    o.Sheds o' := by
  cases hstep with
  | accept | close | cancel | finish | greet | bind | collect | learn => exact .refl o
  | introduce _ _ d ports => exact sheds_putDatapath o _ d ports
  | ports => exact sheds_updateDatapath o _ fun _ _ _ h => h
  | detach =>
    refine sheds_updateDatapath o _ fun dp x j hj => ?_
    rw [DatapathOutline.detach, Keyed.find?_erase] at hj
    split at hj
    · cases hj
    · exact hj
  | @attach _ l _ k _ _ hk hs =>
    -- only a connection in its basic handshake attaches, and the one that acts is past it
    obtain ⟨k', hk', hlate⟩ := ha l rfl
    obtain rfl := Option.some.inj (hk.symm.trans hk')
    rw [LinkOutline.IsEarly, hs] at hlate
    exact absurd (by decide) hlate

/-- Neither do several quiet steps. -/
private theorem sheds_calms (hsteps : ReflTransGen (Calm a) o o')
    (ha : ∀ l, a = some l → o.IsLate l) :
    o.Sheds o' := by
  induction hsteps with
  | refl => exact .refl o
  | tail hbefore hstep ih =>
    refine ih.trans (sheds_calm hstep fun l hl => ?_)
    obtain ⟨k, hk, hlate⟩ := ha l hl
    obtain ⟨k', hk', hle⟩ := ascends_calms hbefore k hk
    exact ⟨k', hk', fun hearly => hlate (Nat.lt_of_le_of_lt hle hearly)⟩

/-- A step that listeners hear of attaches nobody. -/
private theorem sheds_eventful (hstep : Eventful l o o') : o.Sheds o' := by
  cases hstep with
  | @connects _ dp => exact sheds_register o dp.id l
  | @replaces _ dp old m =>
    exact (sheds_unregister o dp.id m old .revoke).trans (sheds_register _ dp.id l)
  | serves => exact .refl o
  | readies => exact sheds_updateDatapath o l fun _ _ _ h => h
  | @disconnects d dp => exact sheds_unregister o d l dp .close

/-! ## Somebody is attached -/

/-- The connection was put to use under an auxiliary id of the datapath of `m`. -/
def IsJoined (x : UInt8) (m : LinkId) (k : LinkOutline) : Prop :=
  k.IsSettled ∧ k.auxiliary = x ∧ k.serves = some m

/-- A connection keeps the datapath and the id that it was put to use under. -/
private theorem lasting_isJoined (x : UInt8) (m : LinkId) : Lasting (IsJoined x m) where
  -- auxiliary id and served datapath never change once the handshake is over
  isSettled h := h.1
  enter hs h := ⟨lasting_isSettled.enter hs h.1, (LinkOutline.auxiliary_enter _ _).trans h.2.1,
    (LinkOutline.serves_enter _ _).trans h.2.2⟩
  close h := ⟨lasting_isSettled.close h.1, (LinkOutline.auxiliary_enter _ _).trans h.2.1,
    (LinkOutline.serves_enter _ _).trans h.2.2⟩
  cancel h := h
  finish h := ⟨lasting_isSettled.finish h.1, (LinkOutline.auxiliary_enter _ _).trans h.2.1,
    (LinkOutline.serves_enter _ _).trans h.2.2⟩
  revoke h := ⟨lasting_isSettled.revoke h.1, (LinkOutline.auxiliary_enter _ _).trans h.2.1,
    (LinkOutline.serves_enter _ _).trans h.2.2⟩

/-- An attachment is found under its id, and the others are found as before. -/
private theorem attached?_attach {dp : DatapathOutline} (hdp : o.datapath? m = some dp) (l : LinkId)
    (x : UInt8) (i : LinkId) (y : UInt8) : (o.attach l m dp x).attached? i y =
      if i = m ∧ y = x then some l else o.attached? i y := by
  have hdatapath : (o.attach l m dp x).datapath? i =
      if i = m then (o.datapath? i).map (.attach x l) else o.datapath? i := by
    simp [Outline.attach]
  rw [attached?, hdatapath]
  -- only the list of this datapath changes, and in it only this id
  by_cases hi : i = m
  · subst hi
    rw [if_pos rfl, attached?, hdp]
    show Keyed.find? y (dp.auxiliaries.put x l) = _
    rw [Keyed.find?_put]
    by_cases hy : y = x <;> simp [hy]
  · rw [if_neg hi, if_neg fun h => hi h.1]
    rfl

/-- Whoever is attached is put to use. -/
private theorem has_attach {k : LinkOutline} (hk : o.link? l = some k) (dp : DatapathOutline) :
    (o.attach l m dp k.auxiliary).Has (IsJoined k.auxiliary m) l := by
  simp only [Has, Outline.attach, link?_updateLink, ↓reduceIte, link?_updateDatapath,
    link?_closeLinks, hk]
  split
  · exact ⟨_, rfl, LinkOutline.isSettled_enter _ (.inl rfl), by simp [LinkOutline.serve],
      by simp [LinkOutline.serve]⟩
  · exact ⟨_, rfl, LinkOutline.isSettled_enter _ (.inl rfl), by simp [LinkOutline.serve],
      by simp [LinkOutline.serve]⟩

end Outline

namespace Controller

variable {c c' : Controller} {a : Option LinkId} {l m j : LinkId} {x : UInt8} {op : Operation}

/-! ## Frames that attach nobody -/

/-- The moves of a connection whose switch is known attach nobody. -/
private theorem Moves.sheds (h : Moves a l c c') (ha : ∀ l, a = some l → c.outline.IsLate l) :
    c.outline.Sheds c'.outline := by
  obtain ⟨o, hcalm, heq | hnews⟩ := h
  · exact heq ▸ Outline.sheds_calms hcalm ha
  · exact (Outline.sheds_calms hcalm ha).trans (Outline.sheds_eventful hnews.eventful)

/-- The end of a session attaches nobody. -/
private theorem sheds_endSession (h : c.outline.Sound) (l : LinkId) :
    c.outline.Sheds (c.endSession l).outline := (moves_endSession h none l).sheds nofun

/-- A frame attaches nobody if the features of the switch are known already. -/
private theorem Takes.sheds {r : Controller × SessionFate} (h : Takes l c r)
    (hlate : c.outline.IsLate l) : c.outline.Sheds r.1.outline := by
  have ha : ∀ j, some l = some j → c.outline.IsLate j := fun j hj => Option.some.inj hj ▸ hlate
  rcases h with hcalm | ⟨-, hmoves⟩
  · exact Outline.sheds_calms hcalm ha
  · exact hmoves.sheds ha

/-! ## Attachments -/

/-- A connection becomes the auxiliary connection `auxiliary` of the datapath of `main`. -/
structure Attachment where
  main : LinkId
  auxiliary : UInt8
  link : LinkId
deriving DecidableEq

/-- The attachment that an operation makes: it is a frame with the features that the connection was
asked for, which name an auxiliary id, and the datapath is registered. -/
def attachment? (c : Controller) : Operation → Option Attachment
  | .frame l f =>
    match c.link? l, Codec.decode f.header f.body with
    | some k, .ok (.featuresReply r) =>
      if k.connection.stage = .basicHandshake ∧ k.session.featuresXid = some f.header.xid ∧
          r.auxiliaryId ≠ 0 then
        (c.registry.find? ⟨r.datapathId⟩).map fun m => ⟨m, r.auxiliaryId, l⟩
      else none
    | _, _ => none
  | _ => none

/-- The attachments that operations make, one after the other. -/
def attachments (c : Controller) : List Operation → List Attachment
  | [] => []
  | op :: ops => (c.attachment? op).toList ++ (c.apply op).attachments ops

/-- The connection that was attached last under an auxiliary id of the datapath of `m`. -/
def latest (bs : List Attachment) (m : LinkId) (x : UInt8) : Option LinkId :=
  (bs.filter fun b => b.main = m ∧ b.auxiliary = x).getLast?.map (·.link)

/-- The last attachment counts under its own id and under no other. -/
private theorem latest_concat (bs : List Attachment) (b : Attachment) (m : LinkId) (x : UInt8) :
    latest (bs ++ [b]) m x =
      if m = b.main ∧ x = b.auxiliary then some b.link else latest bs m x := by
  unfold latest
  rw [List.filter_append]
  by_cases hb : b.main = m ∧ b.auxiliary = x
  · rw [List.filter_cons_of_pos (by simpa using hb), List.filter_nil, List.getLast?_concat,
      if_pos ⟨hb.1.symm, hb.2.symm⟩]
    rfl
  · rw [List.filter_cons_of_neg (by simpa using hb), List.filter_nil, List.append_nil,
      if_neg fun h => hb ⟨h.1.symm, h.2.symm⟩]

/-- Whoever was attached last was attached. -/
theorem exists_of_latest {bs : List Attachment} (h : latest bs m x = some l) :
    ⟨m, x, l⟩ ∈ bs := by
  obtain ⟨b, hb, rfl⟩ := Option.map_eq_some_iff.1 h
  obtain ⟨hmem, hat⟩ := List.mem_filter.1 (List.mem_of_getLast? hb)
  obtain ⟨rfl, rfl⟩ := of_decide_eq_true hat
  exact hmem

/-- Features that name an auxiliary id attach their connection, if the datapath is registered. -/
private theorem attachment?_frame {k : Link} (hk : c.link? l = some k)
    (hs : k.connection.stage = .basicHandshake) {f : Frame} {r : SwitchFeatures}
    (hf : Codec.decode f.header f.body = .ok (.featuresReply r))
    (hx : k.session.featuresXid = some f.header.xid) (haux : r.auxiliaryId ≠ 0) :
    c.attachment? (.frame l f) =
      (c.registry.find? ⟨r.datapathId⟩).map fun m => ⟨m, r.auxiliaryId, l⟩ := by
  simp only [attachment?, hk, hf, hs, hx, haux, ne_eq, not_false_eq_true, and_self, ↓reduceIte]

/-- Features that name no auxiliary id attach nobody. -/
private theorem sheds_onMainFeatures {k : Link} (hk : c.link? l = some k) (f : SwitchFeatures) :
    c.outline.Sheds (c.onMainFeatures l f).1.outline := by
  have hput := c.outline.sheds_putDatapath l ⟨f.datapathId⟩ (.ofList f.ports)
  rcases outline_onMainFeatures hk f with ⟨hout, -⟩ | ⟨g, hout, -⟩
  · exact hout ▸ hput
  · exact hout ▸ hput.trans (Outline.sheds_of_datapath? rfl)

/-- An outline stays sound when a connection in the handshake learns what its switch is. -/
private theorem sound_bind (h : c.outline.Sound) {k : Link} (hk : c.link? l = some k)
    (hs : k.connection.stage = .basicHandshake) (d : DatapathId) (x : UInt8) :
    (c.modifyConnection l fun k => k.bind d x).outline.Sound :=
  outline_bind c l d x ▸ h.calm (.bind (link?_outline hk) hs d x)

/-- The features of a switch, unless they are those of an auxiliary connection whose datapath is
registered. -/
theorem sheds_onBasic (h : c.outline.Sound) {k : Link} (hk : c.link? l = some k)
    (hs : k.connection.stage = .basicHandshake) {y : Xid} {message : Message}
    (hnone : ∀ r, message = .featuresReply r → k.session.featuresXid = some y →
      r.auxiliaryId ≠ 0 → c.registry.find? ⟨r.datapathId⟩ = none) :
    c.outline.Sheds (c.onBasic l k.session y message).1.outline := by
  unfold onBasic
  split
  · exact Outline.sheds_of_eq (outline_answerEcho c l _ _)
  · next r =>
    split
    · next hy =>
      have hbind := outline_bind c l ⟨r.datapathId⟩ r.auxiliaryId
      have hlink := link?_bind hk ⟨r.datapathId⟩ r.auxiliaryId
      -- the connection is bound first, which changes no datapath
      have hbound : c.outline.Sheds
          (c.modifyConnection l fun k => k.bind ⟨r.datapathId⟩ r.auxiliaryId).outline :=
        Outline.sheds_of_datapath? (by rw [hbind]; rfl)
      unfold onFeatures
      dsimp only
      split
      · exact hbound.trans (sheds_onMainFeatures hlink r)
      · next haux =>
        -- nothing is attached if no main connection is registered under the id
        rcases onAuxiliaryFeatures_cases (sound_bind h hk hs _ _) hlink with
          ⟨heq, -⟩ | ⟨d, m, -, hd, hm, -⟩
        · exact heq ▸ hbound
        · obtain rfl := Option.some.inj hd
          cases (hnone r rfl hy haux).symm.trans hm
    · exact .refl _
  · exact .refl _
  · exact .refl _

/-- A frame that makes no attachment. -/
theorem sheds_onFrame (h : c.outline.Healthy) {f : Frame}
    (hnone : c.attachment? (.frame l f) = none) : c.outline.Sheds (c.onFrame l f).1.outline := by
  have hout := outline_received c l
  cases hk : c.link? l with
  | none =>
    rw [onFrame_eq, link?_received_of_none hk]
    exact Outline.sheds_of_eq hout
  | some k =>
    -- the stage decides which handler runs; only the features reply of the basic handshake attaches
    cases hs : k.connection.stage with
    | connecting | versionNegotiating =>
      rcases outline_onFrame_of_unheard hk (by simp [hs]) f with heq | ⟨v, y, heq, -⟩
      · exact Outline.sheds_of_eq heq
      · exact Outline.sheds_of_datapath? (by rw [heq]; rfl)
    | basicHandshake =>
      have hk₁ := link?_received hk
      rw [onFrame_eq, hk₁]
      dsimp only
      split
      · exact Outline.sheds_of_eq ((outline_onUnreadable _ l _ _).trans hout)
      · next message hf =>
        -- the arrival is counted before the frame is handled, and leaves the stage alone
        have hbasic : (c.received l).onMessage l (c.touched k) f.header message =
            (c.received l).onBasic l (c.touched k).session f.header.xid message := by
          unfold onMessage
          rw [show (c.touched k).connection.stage = _ from hs]
        rw [hbasic, ← hout]
        refine sheds_onBasic (hout.symm ▸ h.sound) hk₁ hs fun r hr hy haux => ?_
        subst hr
        rw [attachment?_frame hk hs hf hy haux] at hnone
        exact Option.map_eq_none_iff.1 hnone
    | extendedHandshake | postHandshake | ready | closed | revoked =>
      refine (takes_onFrame h.sound h.attached l f).sheds ⟨_, link?_outline hk, fun hearly => ?_⟩
      rw [LinkOutline.IsEarly, show k.outline.stage = _ from hs] at hearly
      exact absurd hearly (by decide)

/-- An operation that makes no attachment. -/
theorem sheds_apply (h : c.outline.Healthy) (hnone : c.attachment? op = none) :
    c.outline.Sheds (c.apply op).outline := by
  -- without a frame there is no attachment
  by_cases hop : speaker? op = none
  · have hspec := apply_spec h.sound h.attached op
    rw [hop] at hspec
    rcases hspec with ⟨l, -, hmoves⟩ | hsteps
    · exact hmoves.sheds nofun
    · exact Outline.sheds_calms hsteps nofun
  · cases op with
    | frame l f =>
      have hframe := sheds_onFrame h hnone
      have htakes := takes_onFrame h.sound h.attached l f
      rw [apply]
      unfold handleFrame
      split
      · next heq => exact heq ▸ hframe
      · next c₁ heq =>
        rw [heq] at hframe htakes
        exact hframe.trans (sheds_endSession (h.sound.calms htakes.calm_of_ends) l)
    | _ => exact absurd rfl hop

/-! ## Frames that attach a connection -/

/-- An attachment is made by a frame with the features that the connection was asked for. -/
theorem attachment?_eq_some {b : Attachment} (hb : c.attachment? op = some b) :
    ∃ f k r, op = .frame b.link f ∧ c.link? b.link = some k ∧
      Codec.decode f.header f.body = .ok (.featuresReply r) ∧
      k.connection.stage = .basicHandshake ∧ k.session.featuresXid = some f.header.xid ∧
      r.auxiliaryId = b.auxiliary ∧ b.auxiliary ≠ 0 ∧
      c.registry.find? ⟨r.datapathId⟩ = some b.main := by
  unfold attachment? at hb
  split at hb
  · next l f =>
    split at hb
    · next k r hk hf =>
      split at hb
      · next hfirst =>
        obtain ⟨hs, hx, haux⟩ := hfirst
        obtain ⟨m, hm, rfl⟩ := Option.map_eq_some_iff.1 hb
        exact ⟨f, k, r, rfl, hk, hf, hs, hx, rfl, haux, hm⟩
      · cases hb
    · cases hb
  · cases hb

/-- The features of an auxiliary connection. -/
theorem onFrame_of_features {k : Link} (hk : c.link? l = some k)
    (hs : k.connection.stage = .basicHandshake) {f : Frame} {r : SwitchFeatures}
    (hf : Codec.decode f.header f.body = .ok (.featuresReply r))
    (hx : k.session.featuresXid = some f.header.xid) (haux : r.auxiliaryId ≠ 0) :
    c.onFrame l f = ((c.received l).modifyConnection l fun k =>
      k.bind ⟨r.datapathId⟩ r.auxiliaryId).onAuxiliaryFeatures l := by
  have hfeatures : c.onFrame l f = (c.received l).onFeatures l r := by
    rw [onFrame_eq, link?_received hk, hf]
    dsimp only
    unfold onMessage
    rw [show (c.touched k).connection.stage = _ from hs]
    exact if_pos hx
  exact hfeatures.trans (if_neg haux)

/-- What an attachment does: a connection whose features were not known is bound to a registered
datapath, and becomes one of its connections. -/
theorem outline_apply_of_attachment (h : c.outline.Sound) {b : Attachment}
    (hb : c.attachment? op = some b) : ∃ k d dp, c.outline.link? b.link = some k ∧
      k.stage = .basicHandshake ∧ b.auxiliary ≠ 0 ∧ c.outline.main? d = some b.main ∧
      c.outline.datapath? b.main = some dp ∧ (c.apply op).outline =
        (c.outline.updateLink b.link (.bind d b.auxiliary)).attach b.link b.main dp
          b.auxiliary := by
  obtain ⟨f, k, r, rfl, hk, hf, hs, hx, hat, haux, hm⟩ := attachment?_eq_some hb
  have hframe := onFrame_of_features hk hs hf hx (hat.symm ▸ haux)
  rw [hat] at hframe
  -- that a frame has arrived does not show, and then the connection is bound
  have hout := outline_received c b.link
  have hk₁ := link?_received hk
  have hbind := outline_bind (c.received b.link) b.link ⟨r.datapathId⟩ r.auxiliaryId
  have hbound := sound_bind (hout.symm ▸ h) hk₁ hs ⟨r.datapathId⟩ r.auxiliaryId
  rcases onAuxiliaryFeatures_cases hbound (link?_bind hk₁ ⟨r.datapathId⟩ r.auxiliaryId) with
    ⟨-, hunknown⟩ | ⟨d, m, dp, hd, hm', hdp, hgoes, hattached⟩
  · cases (hunknown _ rfl).symm.trans hm
  · obtain rfl := Option.some.inj hd
    obtain rfl := Option.some.inj (hm.symm.trans hm')
    rw [hat] at hgoes
    rw [hbind, hout, hat] at hdp hattached
    refine ⟨k.outline, _, dp, link?_outline hk, hs, haux, hm, hdp, ?_⟩
    rw [apply, handleFrame, hframe]
    generalize (Controller.onAuxiliaryFeatures _ b.link) = p at hgoes hattached ⊢
    obtain ⟨c₁, fate⟩ := p
    obtain rfl : fate = .continues := hgoes
    exact hattached

/-! ## Runs -/

/-- What is found under an auxiliary id was attached there last, and whoever was attached has that
id for good. -/
structure Traced (c : Controller) (bs : List Attachment) : Prop where
  attached : ∀ m x j, c.outline.attached? m x = some j → latest bs m x = some j
  joined : ∀ b ∈ bs, b.auxiliary ≠ 0 ∧ c.outline.Has (Outline.IsJoined b.auxiliary b.main) b.link

variable {bs : List Attachment} {b : Attachment}

/-- An operation attaches those whom `attachment?` names, and nobody else. -/
private theorem Traced.apply (h : c.Traced bs) (hhealthy : c.outline.Healthy) (op : Operation) :
    (c.apply op).Traced (bs ++ (c.attachment? op).toList) := by
  have hjoined : ∀ b ∈ bs, b.auxiliary ≠ 0 ∧
      (c.apply op).outline.Has (Outline.IsJoined b.auxiliary b.main) b.link := fun b hb =>
    (h.joined b hb).imp_right fun hhas => has_apply hhealthy (Outline.lasting_isJoined _ _) hhas op
  -- what was found before and is not the new one is still what was attached last
  cases hop : c.attachment? op with
  | none =>
    rw [Option.toList_none, List.append_nil]
    exact ⟨fun m x j hj => h.attached m x j (sheds_apply hhealthy hop m x j hj), hjoined⟩
  | some b =>
    obtain ⟨k, d, dp, hk, -, haux, -, hdp, hout⟩ := outline_apply_of_attachment hhealthy.sound hop
    have hlink : (c.outline.updateLink b.link (.bind d b.auxiliary)).link? b.link =
        some (k.bind d b.auxiliary) := by
      simp [hk]
    have hdp : (c.outline.updateLink b.link (.bind d b.auxiliary)).datapath? b.main = some dp := hdp
    refine ⟨fun m x j hj => ?_, fun b' hb' => ?_⟩
    · rw [hout, Outline.attached?_attach hdp] at hj
      rw [Option.toList_some, latest_concat]
      split at hj
      · next hat => rw [if_pos hat, hj]
      · next hat =>
        rw [if_neg hat]
        exact h.attached m x j hj
    · rcases List.mem_append.1 hb' with hb' | hb'
      · exact hjoined b' hb'
      · obtain rfl := List.mem_singleton.1 hb'
        exact ⟨haux, hout ▸ Outline.has_attach hlink dp⟩

/-- By induction on the operations, so does a run. -/
theorem traced_run (h : c.Traced bs) (hhealthy : c.outline.Healthy) (ops : List Operation) :
    (c.run ops).Traced (bs ++ c.attachments ops) := by
  induction ops generalizing c bs with
  | nil => exact (List.append_nil bs).symm ▸ h
  | cons op ops ih =>
    rw [attachments, ← List.append_assoc]
    exact ih (h.apply hhealthy op) (healthy_apply hhealthy op)

/-- At first nobody is attached. -/
theorem traced_new (settings : Settings) (mastership : Mastership) :
    ({ settings, mastership } : Controller).Traced [] := ⟨nofun, nofun⟩

/-- Who was attached is found as long as it is open, so only closed connections are detached. -/
theorem Traced.attached?_of_open (h : c.Traced bs) (hsound : c.outline.Sound) (hb : b ∈ bs)
    (hopen : c.isClosed b.link = false) :
    c.outline.attached? b.main b.auxiliary = some b.link := by
  obtain ⟨haux, k₀, hk₀, hsettled, hx, hserves⟩ := h.joined b hb
  obtain ⟨k, hk, rfl⟩ := Option.map_eq_some_iff.1 hk₀
  have hlink := hsound.link hk₀
  -- it is open, so its session goes on, and what goes on is in its place
  have hserving : k.outline.stage.isServing = true := hsettled.resolve_right fun hfinal => by
    rw [isClosed, connection?, hk] at hopen
    have hclosed : k.connection.isClosed = true := hlink.closed_of_final hfinal
    rw [show k.connection.isClosed = false from hopen] at hclosed
    cases hclosed
  obtain ⟨-, m, dp, -, -, hdp, hfind, hm⟩ := hlink.serving_auxiliary hserving (hx ▸ haux)
  obtain rfl := Option.some.inj (hserves.symm.trans hm)
  exact Option.bind_eq_some_iff.2 ⟨dp, hdp, hx ▸ hfind⟩

/-- Whoever was replaced is closed. -/
theorem Traced.isClosed_of_replaced (h : c.Traced bs) (hsound : c.outline.Sound) (hb : b ∈ bs)
    (hlater : latest bs b.main b.auxiliary ≠ some b.link) : c.isClosed b.link = true := by
  by_contra hclosed
  have hattached := h.attached?_of_open hsound hb (Bool.eq_false_iff.2 hclosed)
  exact hlater (h.attached _ _ _ hattached)

end Controller

end Southbound
