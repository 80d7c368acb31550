import Southbound.Proofs.Controller.Noninterference
import Southbound.Proofs.Wire.Relay

/-!
# The version of a connection

A connection has its version from the hello on, and nothing that happens changes it any more
(`agrees_apply`). A version without a codec can be agreed on as well, but then the switch cannot be
asked for its features and the session ends. So a connection in service speaks a version that has a
codec (`version_of_isServing`), and there is a frame that answers an echo request on it
(`exists_echoReply`).
-/

namespace Southbound

open Relation (ReflTransGen)

namespace LinkOutline

/-- The connection is one of the same version. -/
def Agrees (k k' : LinkOutline) : Prop := k'.version = k.version

/-- The switch was asked for its features, and the session has not ended over that. -/
def IsAsked (k : LinkOutline) : Prop := k.stage = .basicHandshake ∨ k.datapath ≠ none

/-- A session that others leave where it is has not been asked in the meantime. -/
theorem IsAsked.of_drifts {k k' : LinkOutline} (h : k'.IsAsked) (hdrifts : k.Drifts k') :
    k.IsAsked := by
  rcases h with hs | hd
  · refine .inl ((hdrifts.stage.resolve_right fun hsettled => ?_).symm.trans hs)
    exact not_isSettled (.inr (.inr (.inl hs))) hsettled
  · exact .inr (hdrifts.datapath ▸ hd)

end LinkOutline

namespace Outline

variable {o o' : Outline} {a : Option LinkId} {l j : LinkId}

/-! ## No other version -/

/-- A connection has the same version at its end. -/
private theorem endures_agrees : Endures LinkOutline.Agrees where
  refl _ := rfl
  trans h h' := h'.trans h
  close k := k.version_enter _
  cancel _ := rfl
  finish k := k.version_enter _
  revoke k := k.version_enter _

/-- Only a hello settles a version. -/
theorem agrees_calm (hlate : ∀ k, o.link? l = some k → 2 ≤ k.stage.rank) (hstep : Calm a o o') :
    o.Evolves LinkOutline.Agrees l o' := by
  have hR := endures_agrees
  cases hstep with
  | @accept _ _ j hj =>
    intro k hk
    refine ⟨k, (if_neg ?_).trans hk, hR.refl k⟩
    rintro rfl
    rw [hj] at hk
    cases hk
  | close => exact hR.updateLink fun k _ _ => hR.close k
  | cancel => exact hR.updateLink fun k _ _ => hR.cancel k
  | finish => exact hR.updateLink fun k _ _ => hR.finish k
  -- the version is set in the first two stages only
  | greet hk hs =>
    refine hR.updateLink fun k hk' hj => ?_
    have hrank := hlate k hk'
    subst hj
    obtain rfl := Option.some.inj (hk.symm.trans hk')
    rcases hs with hs | hs <;> simp [hs, Stage.rank] at hrank
  | bind | learn => exact hR.updateLink fun _ _ _ => rfl
  | collect => exact hR.updateLink fun k _ _ => k.version_enter _
  | introduce | ports | detach => exact hR.of_eq rfl
  | attach => exact hR.attach _ _ fun k _ => (k.serve _).version_enter _

/-- Quiet steps change no version once the hello is over. -/
private theorem agrees_calms (hlate : ∀ k, o.link? l = some k → 2 ≤ k.stage.rank)
    (hsteps : ReflTransGen (Calm a) o o') : o.Evolves LinkOutline.Agrees l o' := by
  induction hsteps with
  | refl => exact endures_agrees.of_eq rfl
  | @tail o₁ _ hbefore hstep ih =>
    intro k hk
    obtain ⟨k₁, hk₁, hle⟩ := ascends_calms (l := l) hbefore k hk
    refine (ih.trans endures_agrees (agrees_calm (fun k' hk' => ?_) hstep)) k hk
    obtain rfl := Option.some.inj (hk₁.symm.trans hk')
    exact (hlate k hk).trans hle

/-- Nor does a step that listeners hear of. -/
private theorem agrees_eventful (hstep : Eventful j o o') : o.Evolves LinkOutline.Agrees l o' :=
  fun k hk => by
    obtain ⟨k', hk', hdrifts⟩ := (drifts_eventful (l := l) hstep).link k hk
    exact ⟨k', hk', hdrifts.version⟩

/-! ## No version without a codec -/

/-- If the switch of connection `l` was asked for its features, that was in a version that has a
codec. -/
def FluentAt (o : Outline) (l : LinkId) : Prop :=
  ∀ k, o.link? l = some k → k.IsAsked → k.version = Version.v10 ∨ k.version = Version.v13

/-- No switch was asked on a connection that is not there. -/
private theorem fluentAt_of_none (h : o.link? l = none) : o.FluentAt l := fun k hk => by
  rw [h] at hk
  cases hk

/-- Others change neither the version nor what was asked. -/
private theorem FluentAt.drifts (h : o.FluentAt l) {k : LinkOutline} (hk : o.link? l = some k)
    (hdrifts : o.Evolves LinkOutline.Drifts l o') : o'.FluentAt l := by
  intro k' hk' hasked
  obtain ⟨k'', hk'', hkk'⟩ := hdrifts k hk
  obtain rfl := Option.some.inj (hk'.symm.trans hk'')
  rw [hkk'.version]
  exact h k hk (hasked.of_drifts hkk')

/-- A step of another session. -/
theorem FluentAt.calm (h : o.FluentAt l) (ha : a ≠ some l) (hstep : Calm a o o') :
    o'.FluentAt l := by
  cases hk : o.link? l with
  | some k => exact h.drifts hk (drifts_calm (fun hal => absurd hal ha) hstep).link
  | none =>
    rcases link?_calm hk hstep with hnone | hnew
    · exact fluentAt_of_none hnone
    · -- a switch that has just come was not asked for anything
      intro k hk' hasked
      obtain rfl := Option.some.inj (hnew.symm.trans hk')
      rcases hasked with hs | hd
      · cases hs
      · exact absurd rfl hd

/-- Quiet steps for others are such. -/
private theorem FluentAt.calms (h : o.FluentAt l) (ha : a ≠ some l)
    (hsteps : ReflTransGen (Calm a) o o') :
    o'.FluentAt l := by
  induction hsteps with
  | refl => exact h
  | tail _ hstep ih => exact ih.calm ha hstep

/-- So is every step that listeners hear of. -/
private theorem FluentAt.eventful (h : o.FluentAt l) (hstep : Eventful j o o') : o'.FluentAt l := by
  cases hk : o.link? l with
  | some k => exact h.drifts hk (drifts_eventful hstep).link
  | none => exact fluentAt_of_none (link?_eventful hk hstep)

end Outline

namespace Controller

variable {c c' : Controller} {l : LinkId}

/-- No operation changes the version of a connection that has one. -/
theorem agrees_apply (h : c.outline.Healthy)
    (hlate : ∀ k, c.outline.link? l = some k → 2 ≤ k.stage.rank) (op : Operation) :
    c.outline.Evolves LinkOutline.Agrees l (c.apply op).outline := by
  rcases apply_spec h.sound h.attached op with ⟨m, -, o, hcalm, heq | hnews⟩ | hcalm
  · exact heq ▸ Outline.agrees_calms hlate hcalm
  · exact (Outline.agrees_calms hlate hcalm).trans Outline.endures_agrees
      (Outline.agrees_eventful hnews.eventful)
  · exact Outline.agrees_calms hlate hcalm

/-- An operation that is no frame of connection `l`. -/
theorem fluentAt_apply (h : c.outline.Healthy) (hfluent : c.outline.FluentAt l) {op : Operation}
    (hop : speaker? op ≠ some l) : (c.apply op).outline.FluentAt l := by
  rcases apply_spec h.sound h.attached op with ⟨m, -, o, hcalm, heq | hnews⟩ | hcalm
  · exact heq ▸ hfluent.calms hop hcalm
  · exact (hfluent.calms hop hcalm).eventful hnews.eventful
  · exact hfluent.calms hop hcalm

/-! ## The hello -/

/-- A version in which a features request is written has a codec. -/
theorem eq_of_encode_featuresRequest {v : Version} {x : Xid} {frame : Bytes}
    (h : Codec.encode v x .featuresRequest = .ok frame) : v = Version.v10 ∨ v = Version.v13 := by
  unfold Codec.encode at h
  split at h
  · cases h
  · obtain ⟨body, hbody, -⟩ := V10.ok_of_bind h
    -- only two versions have a body for it
    unfold Codec.writeBody at hbody
    split at hbody
    · next hv => exact .inl hv
    · split at hbody
      · next hv => exact .inr hv
      · cases hbody

/-- A session that goes on after the hello has asked for the features. -/
theorem eq_of_acceptVersion {h : Header} {v : Version}
    (hgoes : (c.acceptVersion l h v).2 = .continues) : v = Version.v10 ∨ v = Version.v13 := by
  obtain ⟨ss, ⟨frames, hframes, -⟩, -, -, hall⟩ := utters_acceptVersion c l h v
  rw [hall hgoes] at hframes
  cases hframes with
  | cons _ hrest =>
    cases hrest with
    | cons hasked _ => exact eq_of_encode_featuresRequest hasked

/-- The first frame of a peer, if it is a hello, settles the version. -/
theorem outline_onFrame_of_unheard {k : Link} (hk : c.link? l = some k)
    (hs : k.connection.stage = .connecting ∨ k.connection.stage = .versionNegotiating)
    (f : Frame) : (c.onFrame l f).1.outline = c.outline ∨
      ∃ v x, (c.onFrame l f).1.outline = c.outline.updateLink l (.greet v x) ∧
        ((c.onFrame l f).2 = .continues → v = Version.v10 ∨ v = Version.v13) := by
  have hout := outline_received c l
  obtain ⟨k₁, hk₁, hsame⟩ :=
    Option.map_eq_some_iff.1 ((congrArg (·.link? l) hout).trans (link?_outline hk))
  have hs₁ : k₁.connection.stage = .connecting ∨ k₁.connection.stage = .versionNegotiating := by
    rw [show k₁.connection.stage = k.connection.stage from congrArg LinkOutline.stage hsame]
    exact hs
  rw [onFrame_eq, show (c.received l).link? l = some k₁ from hk₁, ← hout]
  dsimp only
  split
  · exact .inl (outline_onUnreadable _ l k₁ _)
  · next m _ =>
    -- before the hello every message goes to the same handler
    have hhello : (c.received l).onMessage l k₁ f.header m =
        (c.received l).onHello l f.header m := by
      unfold onMessage
      rcases hs₁ with hs | hs <;> rw [hs]
    rw [hhello]
    unfold onHello
    split
    · split
      · next v _ =>
        rcases outline_acceptVersion (c.received l) l f.header v with ⟨hout, -⟩ | hout
        · exact .inl hout
        · exact .inr ⟨v, _, hout, eq_of_acceptVersion⟩
      · exact .inl (outline_refuse _ l _)
    · exact .inl (outline_refuse _ l _)

/-- A session goes on after its first frame if its switch could be asked, and else is over. -/
theorem fluentAt_handleFrame_of_unheard (h : c.outline.Healthy) {k : Link}
    (hk : c.link? l = some k)
    (hs : k.connection.stage = .connecting ∨ k.connection.stage = .versionNegotiating)
    (hnone : k.connection.datapath = none) (hfluent : c.outline.FluentAt l) (f : Frame) :
    (c.handleFrame l f).1.outline.FluentAt l := by
  have hfirst := outline_onFrame_of_unheard hk hs f
  have htakes := takes_onFrame h.sound h.attached l f
  -- who has been greeted
  have hgreeted {o : Outline} {v : Version} {x : Xid}
      (hout : o = c.outline.updateLink l (.greet v x)) :
      o.link? l = some (k.outline.greet v x) := by
    rw [hout, Outline.link?_updateLink, if_pos rfl, link?_outline hk]
    rfl
  unfold handleFrame
  split
  · next c₁ heq =>
    rw [heq] at hfirst
    rcases hfirst with hout | ⟨v, x, hout, hcodec⟩
    · exact hout.symm ▸ hfluent
    · intro k' hk' _
      obtain rfl := Option.some.inj ((hgreeted hout).symm.trans hk')
      have hv : (k.outline.greet v x).version = v :=
        LinkOutline.version_enter { k.outline with version := v } _
      rw [hv]
      exact hcodec rfl
  · next c₁ heq =>
    rw [heq] at hfirst htakes
    have hsound := h.sound.calms htakes.calm_of_ends
    have hdrifts := ((moves_endSession hsound none l).drifts (l := l) (.inl nofun)).link
    rcases hfirst with hout | ⟨v, x, hout, -⟩
    · exact (hout.symm ▸ hfluent : c₁.outline.FluentAt l).drifts (hout ▸ link?_outline hk) hdrifts
    · -- the connection of a session that could not ask is closed and has no datapath
      obtain ⟨j, hj, -⟩ := Option.map_eq_some_iff.1 (hgreeted hout)
      obtain ⟨k₂, hk₂, hsettled⟩ := isPast_endSession hsound hj
      obtain ⟨k₃, hk₃, hkk'⟩ := hdrifts _ (hgreeted hout)
      obtain rfl := Option.some.inj (hk₂.symm.trans hk₃)
      intro k' hk' hasked
      obtain rfl := Option.some.inj (hk₂.symm.trans hk')
      rcases hasked with hs' | hd
      · exact absurd hsettled (LinkOutline.not_isSettled (.inr (.inr (.inl hs'))))
      · refine absurd (hkk'.datapath.trans ?_) hd
        exact (LinkOutline.datapath_enter { k.outline with version := v } _).trans hnone

/-- No connection comes of a frame. -/
private theorem link?_handleFrame_of_none (hk : c.link? l = none) (f : Frame) :
    (c.handleFrame l f).1.outline.link? l = none := by
  have hnone := link?_received_of_none hk
  have hends : c.onFrame l f = (c.received l, .ends) := by rw [onFrame_eq, hnone]
  rw [handleFrame, hends]
  dsimp only
  rw [endSession, hnone]
  exact congrArg (Option.map Link.outline) hnone

/-- A switch is asked for its features only in a version that has a codec. -/
private theorem fluentAt_handleFrame (h : c.Regular) (hfluent : c.outline.FluentAt l) (f : Frame) :
    (c.handleFrame l f).1.outline.FluentAt l := by
  have hhealthy := h.kept.healthy
  cases hk : c.link? l with
  | none => exact Outline.fluentAt_of_none (link?_handleFrame_of_none hk f)
  | some k =>
    have hlink := link?_outline hk
    -- three stretches: past the handshake nothing moves, before the hello the version is found
    by_cases hsettled : k.outline.IsSettled
    · have hdrifts : c.outline.Drifts l (c.apply (.frame l f)).outline :=
        drifts_apply hhealthy (.inr ⟨k.outline, hlink, hsettled⟩)
      exact hfluent.drifts hlink hdrifts.link
    by_cases hearly : k.outline.stage.rank < 2
    · have hs : k.connection.stage = .connecting ∨ k.connection.stage = .versionNegotiating := by
        have hrank : k.connection.stage.rank < 2 := hearly
        generalize k.connection.stage = s at hrank ⊢
        cases s <;> simp [Stage.rank] at hrank ⊢
      have hunbound := h.fresh l k.outline hlink (Nat.lt_succ_of_lt hearly)
      exact fluentAt_handleFrame_of_unheard hhealthy hk hs (hunbound.2 _ hlink) hfluent f
    · -- the version is the one in which the switch was asked
      have hlate : ∀ k, c.outline.link? l = some k → 2 ≤ k.stage.rank := fun k' hk' => by
        obtain rfl := Option.some.inj (hlink.symm.trans hk')
        exact Nat.not_lt.1 hearly
      have hasked : k.outline.IsAsked := by
        cases hs : k.outline.stage with
        | connecting | versionNegotiating => simp [hs, Stage.rank] at hearly
        | basicHandshake => exact .inl hs
        | extendedHandshake =>
          obtain ⟨-, -, d, -, hd, -⟩ := (hhealthy.sound.link hlink).collecting hs
          exact .inr (hd ▸ Option.some_ne_none d)
        | postHandshake | ready => exact absurd (.inl (by rw [hs]; rfl)) hsettled
        | closed | revoked => exact absurd (.inr (by rw [hs]; rfl)) hsettled
      intro k' hk' _
      obtain ⟨k'', hk'', hsame⟩ := agrees_apply hhealthy hlate (.frame l f) _ hlink
      obtain rfl := Option.some.inj (hk'.symm.trans hk'')
      rw [show k'.version = k.outline.version from hsame]
      exact hfluent _ hlink hasked

/-! ## Runs -/

/-- By induction on the operations, so it is in every run. -/
private theorem fluentAt_run (h : c.Regular) (hfluent : c.outline.FluentAt l)
    (ops : List Operation) :
    (c.run ops).outline.FluentAt l := by
  induction ops generalizing c with
  | nil => exact hfluent
  | cons op ops ih =>
    refine ih (regular_apply h op) ?_
    -- only a frame of its own can set the version of a connection
    by_cases hop : speaker? op = some l
    · cases op with
      | frame l' f =>
        obtain rfl : l' = l := Option.some.inj hop
        exact fluentAt_handleFrame h hfluent f
      | _ => cases hop
    · exact fluentAt_apply h.kept.healthy hfluent hop

/-- In service the version of a connection has a codec. -/
theorem version_of_isServing (settings : Settings) (mastership : Mastership)
    (ops : List Operation) {k : Link} (hk : (run { settings, mastership } ops).link? l = some k)
    (hs : k.connection.stage.isServing = true) :
    k.connection.version = Version.v10 ∨ k.connection.version = Version.v13 := by
  have hnew := regular_new settings mastership
  have hfluent := fluentAt_run (l := l) hnew (Outline.fluentAt_of_none rfl) ops
  have hsound := (regular_run hnew ops).kept.healthy.sound
  have hlink := hsound.link (link?_outline hk)
  -- in service the connection is bound to a datapath, which it was only after the hello
  have hd : k.outline.datapath ≠ none := by
    by_cases haux : k.outline.auxiliary = 0
    · obtain ⟨-, d, hd, -⟩ := hlink.serving_main hs haux
      exact hd ▸ Option.some_ne_none d
    · obtain ⟨d, -, -, hd, -⟩ := hlink.serving_auxiliary hs haux
      exact hd ▸ Option.some_ne_none d
  exact hfluent _ (link?_outline hk) (.inr hd)

/-! ## Echoes -/

/-- What comes with an echo request leaves room for a header. -/
theorem length_of_decode {h : Header} {body data : Bytes}
    (hm : Codec.decode h body = .ok (.echoRequest data)) :
    Header.size + data.length ≤ Codec.maxLength := by
  have hsize : Header.size = 8 := rfl
  have hmax : Codec.maxLength = 65535 := rfl
  obtain ⟨t, announced, hlength, hread⟩ := Codec.exists_readBody hm
  unfold Codec.readBody at hread
  split at hread
  · have hle : data.length ≤ announced.length := (V10.isRead_read hread).length_le
    omega
  -- the bound of the calculus is that of the hello, which is no larger than a frame either
  · have hle : data.length ≤ max announced.length 44 := by
      split at hread <;> exact (V13.isRead_read hread).length_le
    omega

/-- An echo request can be answered in every version that has a codec. -/
theorem exists_echoReply {v : Version} (hv : v = Version.v10 ∨ v = Version.v13) {h : Header}
    {body data : Bytes} (hm : Codec.decode h body = .ok (.echoRequest data)) (x : Xid) :
    ∃ frame, Codec.encode v x (.echoReply data) = .ok frame := by
  have hshort := length_of_decode hm
  rcases hv with rfl | rfl
  · exact ⟨_, Codec.encode_v10_eq_ok_iff.2 ⟨_, data, rfl, rfl, hshort, rfl⟩⟩
  · have hwrite : V13.write (.echoReply data) = data := rfl
    rw [Codec.encode_v13 rfl, hwrite, if_neg (Nat.not_lt.2 hshort)]
    exact ⟨_, rfl⟩

end Controller

end Southbound
