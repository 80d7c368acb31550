import Southbound.Proofs.Controller.Registration

/-!
# Sessions as steps

What a frame does to the outline of a controller, stage by stage. A frame that ends its session
makes no news before that, so that the whole operation is one of those `Controller.Moves` allows.
While a switch is being described, `Outline.hear` says exactly what a message does.
-/

namespace Southbound

/-- What a switch is configured with, if it is. -/
def Settings.configuration (s : Settings) : List Message :=
  if s.suppressSetConfig then [] else [.setConfig { missSendLength := s.missSendLength }]

/-- What listeners are told of the ports of a datapath when a message comes. -/
def DatapathOutline.news (dp : DatapathOutline) : Message → List Event
  | .portStatus s =>
    if dp.isAnnounced then
      [.datapath {
        kind := Controller.portEventKind s.reason (dp.ports.get? s.port.number)
        datapath := dp.id
        port := some s.port }]
    else []
  | _ => []

/-- What listeners are told of ports is passed on. -/
theorem DatapathOutline.passes_news (dp : DatapathOutline) (m : Message) :
    ∀ e ∈ dp.news m, e.Passes dp.id := by
  intro e he
  -- only a port status has news, and only of ports
  unfold news at he
  split at he
  · split at he
    · rw [List.mem_singleton.1 he]
      refine .port rfl ?_
      unfold Controller.portEventKind
      split <;> simp
    · cases he
  · cases he

namespace Controller

open Relation (ReflTransGen)

variable {a : Option LinkId} {c c' : Controller} {l : LinkId}

/-- What a connection makes of a frame: it takes steps without news, after which its session may
end, or it goes on. -/
def Takes (l : LinkId) (c : Controller) (r : Controller × SessionFate) : Prop :=
  ReflTransGen (Outline.Calm (some l)) c.outline r.1.outline ∨
    (r.2 = .continues ∧ Moves (some l) l c r.1)

/-- A frame that leaves the outline alone takes no steps. -/
private theorem takes_of_eq {r : Controller × SessionFate} (h : r.1.outline = c.outline) :
    Takes l c r :=
  .inl (h ▸ .refl)

/-- What is taken behind a change that does not show. -/
theorem Takes.of_eq {c₁ : Controller} {r : Controller × SessionFate} (h : Takes l c₁ r)
    (heq : c₁.outline = c.outline) : Takes l c r := by
  rw [Takes, Moves, heq] at h
  exact h

/-- A session that ends has not come to news. -/
theorem Takes.calm_of_ends {c₁ : Controller} (h : Takes l c (c₁, .ends)) :
    ReflTransGen (Outline.Calm (some l)) c.outline c₁.outline :=
  h.resolve_right fun hnews => by cases hnews.1

/-! ## Answers -/

/-- What follows a write leads to the same outline, whether it succeeds or not. -/
private theorem outline_orEnd {written : Except Failure Controller}
    {next : Controller → Controller × SessionFate} {o : Outline} (herror : c.outline = o)
    (hok : ∀ c', written = .ok c' → (next c').1.outline = o) :
    (c.orEnd written next).1.outline = o := by
  cases written with
  | error e => exact herror
  | ok c' => exact hok c' rfl

/-- Answering an echo leaves the outline alone. -/
theorem outline_answerEcho (c : Controller) (l : LinkId) (x : Xid) (data : Bytes) :
    (c.answerEcho l x data).1.outline = c.outline :=
  outline_orEnd rfl fun _ h => outline_write h

/-- So does refusing a hello. -/
theorem outline_refuse (c : Controller) (l : LinkId) (reason : String) :
    (c.refuse l reason).1.outline = c.outline := by
  unfold refuse
  split
  · rfl
  · split
    · rfl
    · next h => exact outline_writeFrame h

/-! ## Version negotiation -/

/-- Connection `l` is one of version `v`, and the next transaction id is that under which the switch
is asked for its features. -/
def greet (c : Controller) (l : LinkId) (v : Version) : Controller :=
  let c := c.modifyConnection l fun k => { k with version := v }.enter .basicHandshake
  c.drawXid.1.modifySession l fun s => { s with featuresXid := some c.drawXid.2 }

/-- A switch is asked for its features under the next transaction id. -/
theorem outline_greet (c : Controller) (l : LinkId) (v : Version) :
    (c.greet l v).outline = c.outline.updateLink l (.greet v (xidAt c.drawn)) := by
  -- the version is set, the stage entered, the question noted: one change of the outline
  have hentered : (c.modifyConnection l fun k =>
      { k with version := v }.enter .basicHandshake).outline = c.outline.updateLink l fun k =>
        { k with version := v }.enter .basicHandshake :=
    outline_modifyLink fun j _ =>
      outline_enter { j with connection := { j.connection with version := v } } .basicHandshake
  have hasks : (c.greet l v).outline = (c.modifyConnection l fun k =>
      { k with version := v }.enter .basicHandshake).outline.updateLink l fun k =>
        { k with featuresXid := some (xidAt c.drawn) } := outline_modifyLink fun _ _ => rfl
  rw [hasks, hentered, Outline.updateLink_updateLink]
  rfl

/-- A version is accepted by our hello and the features request, unless one cannot be written. -/
theorem acceptVersion_eq (c : Controller) (l : LinkId) (h : Header) (v : Version) :
    c.acceptVersion l h v =
      match Codec.encode c.settings.highestVersion h.xid (.hello c.settings.versions) with
      | .error _ => (c, .ends)
      | .ok frame => c.orEnd (c.writeFrame l frame) fun c =>
        (c.greet l v).orEnd ((c.greet l v).write l (xidAt c.drawn) .featuresRequest) fun c =>
          (c, .continues) := rfl

/-- Writing a frame draws no id. -/
theorem drawn_writeFrame {frame : Bytes} (h : c.writeFrame l frame = .ok c') :
    c'.drawn = c.drawn := by
  obtain ⟨_, -, -, rfl⟩ := writeFrame_eq_ok h
  rfl

/-- The version is settled when the answer to a hello is out, and the switch is asked for its
features. -/
theorem outline_acceptVersion (c : Controller) (l : LinkId) (h : Header) (v : Version) :
    (c.acceptVersion l h v).1.outline = c.outline ∧ (c.acceptVersion l h v).2 = .ends ∨
      (c.acceptVersion l h v).1.outline = c.outline.updateLink l (.greet v (xidAt c.drawn)) := by
  rw [acceptVersion_eq]
  split
  · exact .inl ⟨rfl, rfl⟩
  · next frame _ =>
    cases hwritten : c.writeFrame l frame with
    | error e => exact .inl ⟨rfl, rfl⟩
    | ok c₁ =>
      have hgreeted : (c₁.greet l v).outline =
          c.outline.updateLink l (.greet v (xidAt c.drawn)) := by
        rw [outline_greet, outline_writeFrame hwritten, drawn_writeFrame hwritten]
      -- asking shows in nothing but the transaction id
      refine .inr ?_
      show ((c₁.greet l v).orEnd _ _).1.outline = _
      exact outline_orEnd hgreeted fun c' hc' => (outline_write hc').trans hgreeted

/-- A version is accepted by quiet steps. -/
private theorem calm_acceptVersion {k : Link} (hk : c.link? l = some k)
    (hs : k.connection.stage = .connecting ∨ k.connection.stage = .versionNegotiating)
    (h : Header) (v : Version) :
    ReflTransGen (Outline.Calm (some l)) c.outline (c.acceptVersion l h v).1.outline := by
  rcases outline_acceptVersion c l h v with ⟨hout, -⟩ | hout
  · exact hout ▸ .refl
  · exact hout ▸ .single (.greet (link?_outline hk) hs v _)

/-- So is a hello, or the session ends. -/
private theorem takes_onHello {k : Link} (hk : c.link? l = some k)
    (hs : k.connection.stage = .connecting ∨ k.connection.stage = .versionNegotiating)
    (h : Header) (m : Message) : Takes l c (c.onHello l h m) := by
  unfold onHello
  split
  · split
    · exact .inl (calm_acceptVersion hk hs h _)
    · exact takes_of_eq (outline_refuse c l _)
  · exact takes_of_eq (outline_refuse c l _)

/-! ## Features -/

/-- Writing a message draws no id. -/
theorem drawn_write {x : Xid} {m : Message} (h : c.write l x m = .ok c') :
    c'.drawn = c.drawn := by
  obtain ⟨k, frame, -, -, -, rfl⟩ := write_eq_ok h
  cases m <;> rfl

/-- Asking for descriptions shows in what is expected, and a session that goes on has asked for all
of them. -/
theorem outline_requestDescriptions (c : Controller) (l : LinkId) (kinds : List DescriptionKind) :
    ∃ f, (c.requestDescriptions l kinds).1.outline = c.outline.updateLink l (.learn f) ∧
      ((c.requestDescriptions l kinds).2 = .continues →
        f = fun d => d.expectAll c.drawn kinds) := by
  -- one request for each kind, each with the next transaction id
  induction kinds generalizing c with
  | nil => exact ⟨id, (c.outline.updateLink_same l fun _ => rfl).symm, fun _ => rfl⟩
  | cons kind kinds ih =>
    have hexpect := outline_modifySession_learn c.drawXid.1 l (·.expect c.drawXid.2 kind)
    unfold requestDescriptions
    dsimp only
    split
    · exact ⟨_, hexpect, nofun⟩
    · next c₁ hwritten =>
      obtain ⟨f, hout, hall⟩ := ih c₁
      refine ⟨fun d => f (d.expect c.drawXid.2 kind), ?_, fun hgoes => ?_⟩
      · rw [hout, outline_write hwritten, hexpect, Outline.updateLink_updateLink]
        rfl
      · rw [hall hgoes, drawn_write hwritten]
        rfl

/-- Each message of the configuration draws one. -/
theorem drawn_configureSwitch (c : Controller) (l : LinkId) :
    (c.configureSwitch l).1.drawn = c.drawn + c.settings.configuration.length := by
  unfold configureSwitch Settings.configuration
  split
  · rfl
  · dsimp only
    unfold writeAll
    split
    · rfl
    · next hwritten => exact drawn_write hwritten

/-- The configuration leaves the outline alone. -/
theorem outline_configureSwitch (c : Controller) (l : LinkId) :
    (c.configureSwitch l).1.outline = c.outline := by
  unfold configureSwitch
  split
  · rfl
  · exact outline_writeAll _ _ _

/-- A datapath is introduced with the ports of its features. -/
theorem outline_introduce (c : Controller) (l : LinkId) (f : SwitchFeatures) (ageOut : Nat) :
    ({ c with datapaths := c.datapaths.put l (.new f l ageOut) } : Controller).outline =
      c.outline.putDatapath l (.new ⟨f.datapathId⟩ l (.ofList f.ports)) := by
  refine Outline.ext rfl (funext fun j => ?_) rfl rfl
  show (Keyed.find? j (c.datapaths.put l (.new f l ageOut))).map Datapath.outline = _
  rw [Keyed.find?_put, Outline.putDatapath]
  dsimp only
  split
  · rfl
  · rfl

/-- From then on its switch is being described. -/
theorem outline_collect (c : Controller) (l : LinkId) :
    ((c.modifyConnection l fun k => k.enter .extendedHandshake).modifySession l fun s =>
      { s with datapath := some l }).outline =
      c.outline.updateLink l fun k => (k.enter .extendedHandshake).serve l := by
  rw [outline_modifySession_serve, outline_modifyConnection_enter, Outline.updateLink_updateLink]

/-- A main connection introduces its datapath and has its switch described, unless it cannot be
configured. -/
theorem outline_onMainFeatures {k : Link} (hk : c.link? l = some k) (f : SwitchFeatures) :
    let o := c.outline.putDatapath l (.new ⟨f.datapathId⟩ l (.ofList f.ports))
    (c.onMainFeatures l f).1.outline = o ∧ (c.onMainFeatures l f).2 = .ends ∨
      ∃ g, (c.onMainFeatures l f).1.outline = (o.updateLink l fun k =>
          (k.enter .extendedHandshake).serve l).updateLink l (.learn g) ∧
        ((c.onMainFeatures l f).2 = .continues →
          g = (·.expectAll (c.drawn + c.settings.configuration.length)
            (DescriptionKind.requiredFor k.connection.version))) := by
  let c₁ : Controller := { c with datapaths := c.datapaths.put l (.new f l c.settings.ageOut) }
  -- first its datapath is there
  have hput : c₁.outline = _ := outline_introduce c l f c.settings.ageOut
  have hconfigured := outline_configureSwitch c₁ l
  have hdrawn := drawn_configureSwitch c₁ l
  rw [hput] at hconfigured
  unfold onMainFeatures
  dsimp only
  split
  · next h =>
    rw [h] at hconfigured
    exact .inl ⟨hconfigured, rfl⟩
  · next c₂ h =>
    rw [h] at hconfigured hdrawn
    -- then the connection enters the handshake in which the switch is described
    let c₃ := (c₂.modifyConnection l fun k => k.enter .extendedHandshake).modifySession l fun s =>
      { s with datapath := some l }
    have hmoved : c₃.outline = (c.outline.putDatapath l (.new ⟨f.datapathId⟩ l
        (.ofList f.ports))).updateLink l fun k => (k.enter .extendedHandshake).serve l :=
      (outline_collect c₂ l).trans (congrArg (Outline.updateLink · l _) hconfigured)
    right
    split
    · exact ⟨id, hmoved.trans (Outline.updateLink_same _ l fun _ => rfl).symm, nofun⟩
    · next k' hk' =>
      obtain ⟨g, hasked, hall⟩ :=
        outline_requestDescriptions c₃ l (DescriptionKind.requiredFor k'.version)
      refine ⟨g, hasked.trans (congrArg (Outline.updateLink · l _) hmoved), fun hgoes => ?_⟩
      -- the version is still the one that was negotiated
      have hlink : c₃.outline.link? l = some ((k.outline.enter .extendedHandshake).serve l) := by
        rw [hmoved, Outline.link?_updateLink, if_pos rfl]
        exact congrArg (Option.map _) (link?_outline hk)
      obtain ⟨j, hj, rfl⟩ := connection?_eq_some hk'
      have hsame := Option.some.inj ((link?_outline hj).symm.trans hlink)
      have hversion : j.connection.version = k.connection.version :=
        (congrArg LinkOutline.version hsame).trans (k.outline.version_enter _)
      have hdrawn₃ : c₃.drawn = c.drawn + c.settings.configuration.length := hdrawn
      rw [hall hgoes, hversion, hdrawn₃]

/-- The features of a main connection introduce its datapath. -/
private theorem calm_onMainFeatures {k : Link} {f : SwitchFeatures} (hk : c.link? l = some k)
    (hs : k.connection.stage = .basicHandshake)
    (hd : k.connection.datapath = some ⟨f.datapathId⟩) (haux : k.connection.auxiliary = 0) :
    ReflTransGen (Outline.Calm (some l)) c.outline (c.onMainFeatures l f).1.outline := by
  have hlink := link?_outline hk
  have hintroduce := Outline.Calm.introduce hlink hs ⟨f.datapathId⟩ (.ofList f.ports)
  rcases outline_onMainFeatures hk f with ⟨hout, -⟩ | ⟨g, hout, -⟩
  · exact hout ▸ .single hintroduce
  · have hcollect := Outline.Calm.collect
      (o := c.outline.putDatapath l (.new ⟨f.datapathId⟩ l (.ofList f.ports))) hlink hs hd haux
      (if_pos rfl)
    -- the connection is still open, so it enters the next stage and can learn there
    have hopen : k.outline.stage.isFinal = false := by
      rw [show k.outline.stage = _ from hs]
      rfl
    have hlearn := Outline.Calm.learn
      (o := (c.outline.putDatapath l (.new ⟨f.datapathId⟩ l (.ofList f.ports))).updateLink l
        fun k => (k.enter .extendedHandshake).serve l)
      (l := l) (k := (k.outline.enter .extendedHandshake).serve l)
      (by simp [Outline.putDatapath, hlink])
      (congrArg LinkOutline.stage (LinkOutline.enter_of_open hopen .extendedHandshake)) g
    exact hout ▸ ((ReflTransGen.single hintroduce).tail hcollect).tail hlearn

/-- An auxiliary connection is put to use if its datapath is registered. -/
theorem onAuxiliaryFeatures_cases (h : c.outline.Sound) {k : Link} (hk : c.link? l = some k) :
    (c.onAuxiliaryFeatures l = (c, .ends) ∧
      ∀ d, k.connection.datapath = some d → c.registry.find? d = none) ∨
    ∃ d m dp, k.connection.datapath = some d ∧ c.registry.find? d = some m ∧
      c.outline.datapath? m = some dp ∧ (c.onAuxiliaryFeatures l).2 = .continues ∧
      (c.onAuxiliaryFeatures l).1.outline = c.outline.attach l m dp k.connection.auxiliary := by
  unfold onAuxiliaryFeatures
  cases hattach : c.attach l with
  | none =>
    refine .inl ⟨rfl, fun d hd => ?_⟩
    cases hm : c.registry.find? d with
    | none => rfl
    | some m =>
      -- a registered datapath is there to be found
      obtain ⟨_, dp₀, -, hdp₀, -⟩ := h.registered hm
      obtain ⟨dp, hdp, -⟩ := Option.map_eq_some_iff.1 hdp₀
      have hconnection : c.connection? l = some k.connection :=
        congrArg (Option.map fun j : Link => j.connection) hk
      have hregistered : c.registered? d = some dp := Option.bind_eq_some_iff.2 ⟨m, hm, hdp⟩
      rw [attach, hconnection] at hattach
      simp [hd, hregistered] at hattach
  | some found =>
    obtain ⟨c₁, m⟩ := found
    obtain ⟨k', d, dp, hk', hd, hm, hdp, hout⟩ := attach_eq_some h hattach
    obtain rfl : k = k' := Option.some.inj (hk.symm.trans hk')
    refine .inr ⟨d, m, dp.outline, hd, hm, datapath?_outline hdp, rfl, ?_⟩
    dsimp only
    rw [outline_modifyConnection_enter, outline_modifySession_serve,
      Outline.updateLink_updateLink, hout]
    rfl

/-- Those of an auxiliary connection attach it, or the session ends. -/
private theorem calm_onAuxiliaryFeatures (h : c.outline.Sound) {k : Link} (hk : c.link? l = some k)
    (hs : k.connection.stage = .basicHandshake) (haux : k.connection.auxiliary ≠ 0) :
    ReflTransGen (Outline.Calm (some l)) c.outline (c.onAuxiliaryFeatures l).1.outline ∧
      ((c.onAuxiliaryFeatures l).2 = .continues →
        ∀ k, (c.onAuxiliaryFeatures l).1.outline.link? l = some k → k.IsSettled) := by
  rcases onAuxiliaryFeatures_cases h hk with ⟨heq, -⟩ | ⟨d, m, dp, hd, hm, hdp, -, hout⟩
  · rw [heq]
    exact ⟨.refl, nofun⟩
  · have hattached := Outline.Calm.attach (link?_outline hk) hs hd haux hm hdp
    rw [hout]
    refine ⟨.single hattached, fun _ k' hk' => ?_⟩
    rw [Outline.attach, Outline.link?_updateLink, if_pos rfl] at hk'
    obtain ⟨k₀, -, rfl⟩ := Option.map_eq_some_iff.1 hk'
    exact LinkOutline.isSettled_enter _ (.inl rfl)

/-- If a switch is being described on connection `l`, it was asked for what one of version `v` is
asked for, from transaction id number `n` on, and has not answered yet. -/
def Begins (n : Nat) (v : Version) (l : LinkId) (o : Outline) : Prop :=
  ∀ k, o.link? l = some k → k.stage = .extendedHandshake →
    k.descriptions = ({} : Descriptions).expectAll n (DescriptionKind.requiredFor v)

/-- No description begins before the features. -/
theorem begins_of_basic {n : Nat} {v : Version} {k : Link} (hk : c.link? l = some k)
    (hs : k.connection.stage = .basicHandshake) (hout : c'.outline = c.outline) :
    Begins n v l c'.outline := by
  intro k' hk' hs'
  rw [hout, link?_outline hk] at hk'
  obtain rfl := Option.some.inj hk'
  rw [show k.outline.stage = _ from hs] at hs'
  cases hs'

/-- The outline is bound with the connection. -/
theorem outline_bind (c : Controller) (l : LinkId) (d : DatapathId) (auxiliary : UInt8) :
    (c.modifyConnection l fun k => k.bind d auxiliary).outline =
      c.outline.updateLink l (.bind d auxiliary) := outline_modifyLink fun _ _ => rfl

/-- A connection that is bound is found as it is then. -/
theorem link?_bind {k : Link} (hk : c.link? l = some k) (d : DatapathId) (auxiliary : UInt8) :
    (c.modifyConnection l fun k => k.bind d auxiliary).link? l =
      some { k with connection := k.connection.bind d auxiliary } := by
  simp only [modifyConnection, link?_modifyLink, ↓reduceIte, hk]
  rfl

/-- A session that goes on when it knows the features of its switch has asked for all descriptions,
or serves a datapath that there is. -/
theorem calm_onFeatures (h : c.outline.Sound) {k : Link} (hk : c.link? l = some k)
    (hs : k.connection.stage = .basicHandshake) (f : SwitchFeatures) :
    ReflTransGen (Outline.Calm (some l)) c.outline (c.onFeatures l f).1.outline ∧
    ((c.onFeatures l f).2 = .continues →
      Begins (c.drawn + c.settings.configuration.length) k.connection.version l
        (c.onFeatures l f).1.outline ∧
      ∀ k', (c.onFeatures l f).1.outline.link? l = some k' →
        f.auxiliaryId = 0 ∧ k'.stage = .extendedHandshake ∨ k'.IsSettled) := by
  let c₁ := c.modifyConnection l fun k => k.bind ⟨f.datapathId⟩ f.auxiliaryId
  have hbind : Outline.Calm (some l) c.outline c₁.outline :=
    outline_bind c l _ _ ▸ .bind (link?_outline hk) hs _ _
  have hlink := link?_bind hk ⟨f.datapathId⟩ f.auxiliaryId
  unfold onFeatures
  split
  · next haux =>
    refine ⟨.head hbind (calm_onMainFeatures hlink hs rfl haux), fun hgoes => ?_⟩
    obtain ⟨-, hends⟩ | ⟨g, hfinal, hall⟩ := outline_onMainFeatures hlink f
    · -- a session that goes on has configured its switch
      cases hends.symm.trans hgoes
    obtain rfl := hall hgoes
    -- nothing was asked before, so what is expected is what is asked for now
    have hunasked : k.session.descriptions = {} :=
      (h.link (link?_outline hk)).unasked (.inr (.inr hs))
    have hself : (c₁.onMainFeatures l f).1.outline.link? l =
        some ((((k.outline.bind ⟨f.datapathId⟩ f.auxiliaryId).enter .extendedHandshake).serve
          l).learn (·.expectAll (c.drawn + c.settings.configuration.length)
            (DescriptionKind.requiredFor k.connection.version))) := by
      rw [hfinal]
      simp only [Outline.link?_updateLink, ↓reduceIte, Outline.putDatapath, link?_outline hlink]
      rfl
    have hopen : (k.outline.bind ⟨f.datapathId⟩ f.auxiliaryId).stage.isFinal = false :=
      congrArg Stage.isFinal hs
    refine ⟨fun k' hk' _ => ?_, fun k' hk' => .inl ⟨haux, ?_⟩⟩ <;>
      obtain rfl := Option.some.inj (hself.symm.trans hk')
    · rw [← hunasked]
      exact congrArg (Descriptions.expectAll · _ _) (LinkOutline.descriptions_enter _ _)
    · exact congrArg LinkOutline.stage (LinkOutline.enter_of_open hopen .extendedHandshake)
  · next haux =>
    obtain ⟨hcalm, hsettled⟩ := calm_onAuxiliaryFeatures (h.calm hbind) hlink hs haux
    refine ⟨.head hbind hcalm, fun hgoes =>
      ⟨fun k' hk' hs' => ?_, fun k' hk' => .inr (hsettled hgoes k' hk')⟩⟩
    exact absurd (hsettled hgoes k' hk') (LinkOutline.not_isSettled (.inr (.inr (.inr hs'))))

/-- Before the descriptions a message tells listeners nothing. -/
theorem takes_onBasic (h : c.outline.Sound) {k : Link} (hk : c.link? l = some k)
    (hs : k.connection.stage = .basicHandshake) (s : Session) (x : Xid) (m : Message) :
    Takes l c (c.onBasic l s x m) ∧ ((c.onBasic l s x m).2 = .continues →
      Begins (c.drawn + c.settings.configuration.length) k.connection.version l
        (c.onBasic l s x m).1.outline) := by
  unfold onBasic
  split
  · have hout := outline_answerEcho c l x ‹_›
    exact ⟨takes_of_eq hout, fun _ => begins_of_basic hk hs hout⟩
  · split
    · next hx =>
      obtain ⟨hcalm, hbegins⟩ := calm_onFeatures h hk hs _
      exact ⟨.inl hcalm, fun hgoes => (hbegins hgoes).1⟩
    · exact ⟨takes_of_eq rfl, fun _ => begins_of_basic hk hs rfl⟩
  · exact ⟨takes_of_eq rfl, nofun⟩
  · exact ⟨takes_of_eq rfl, fun _ => begins_of_basic hk hs rfl⟩

/-! ## Descriptions -/

/-- What is learnt of a switch is what is heard of it. -/
theorem outline_learn {s : Session} (hs : s.datapath = some l) (x : Xid) (m : Message) :
    (c.learn l s x m).outline = c.outline.hear l x m := by
  cases m with
  | multipartReply r =>
    refine (outline_modifySession_learn c l fun d => (d.onReply x r).1).trans ?_
    exact (Outline.updateDatapath_same _ l fun _ => rfl).symm
  | error e =>
    refine (outline_modifySession_learn c l fun d => (d.onError x).1).trans ?_
    exact (Outline.updateDatapath_same _ l fun _ => rfl).symm
  | portStatus status =>
    simp only [learn, hs]
    refine (outline_modifyDatapath_ports c l (·.apply status)).trans ?_
    exact congrArg (Outline.updateDatapath · l _) (Outline.updateLink_same _ l fun _ => rfl).symm
  | _ => exact (Outline.hear_same _ l (fun _ => rfl) fun _ => rfl).symm

/-- It is heard quietly. -/
theorem calm_hear {o : Outline} {k : LinkOutline} (hk : o.link? l = some k)
    (hs : k.stage = .extendedHandshake) (hserves : k.serves = some l) (x : Xid) (m : Message) :
    ReflTransGen (Outline.Calm (some l)) o (o.hear l x m) := by
  have hlearn := Outline.Calm.learn hk hs (·.hear x m)
  have hk' : (o.updateLink l (.learn (·.hear x m))).link? l = some (k.learn (·.hear x m)) := by
    simp [hk]
  exact (ReflTransGen.single hlearn).tail (.ports hk' (.inl hs) hserves _)

/-- Hearing a message moves no connection on. -/
theorem stage_learn (h : c.outline.Sound) {k k' : Link} (hk : c.link? l = some k)
    (hs : k.connection.stage = .extendedHandshake) {x : Xid} {m : Message}
    (hk' : (c.learn l k.session x m).link? l = some k') :
    k'.connection.stage = .extendedHandshake := by
  obtain ⟨-, hserves, -⟩ := (h.link (link?_outline hk)).collecting hs
  have hlink : (c.outline.hear l x m).link? l = some (k.outline.learn (·.hear x m)) := by
    simp [Outline.hear, link?_outline hk]
  have hsame := link?_outline hk'
  rw [outline_learn hserves x m, hlink] at hsame
  exact (congrArg LinkOutline.stage (Option.some.inj hsame)).symm.trans hs

/-- A message during the description of a switch is heard, and if it is the last that was missing
the datapath is registered. -/
theorem onDescription_spec (h : c.outline.Sound) (ha : c.outline.Attached) {k : Link}
    (hk : c.link? l = some k) (hs : k.connection.stage = .extendedHandshake) (x : Xid)
    (m : Message) : ReflTransGen (Outline.Calm (some l)) c.outline (c.outline.hear l x m) ∧
      ((c.onDescription l k.session x m).1.outline = c.outline.hear l x m ∨
        (c.onDescription l k.session x m).2 = .continues ∧
        ∃ k', (c.outline.hear l x m).link? l = some k' ∧ k'.descriptions.isComplete = true ∧
          ReflTransGen (Outline.Calm (some l)) (c.outline.hear l x m)
            ((c.outline.hear l x m).describe l k'.descriptions) ∧
          News l ((c.outline.hear l x m).describe l k'.descriptions)
            (c.onDescription l k.session x m).1) := by
  -- while it collects, the connection serves its own datapath, which is what `hear` assumes
  obtain ⟨-, hserves, -⟩ := (h.link (link?_outline hk)).collecting hs
  have hheard := calm_hear (link?_outline hk) hs hserves x m
  refine ⟨hheard, ?_⟩
  unfold onDescription
  split
  · exact .inl ((outline_answerEcho c l x _).trans
      (Outline.hear_same _ l (fun _ => rfl) fun _ => rfl).symm)
  · have hout := outline_learn (c := c) hserves x m
    dsimp only
    split
    · exact .inl hout
    · next k' hk' =>
      split
      · next hcomplete =>
        refine .inr ⟨rfl, k'.outline, hout ▸ link?_outline hk', hcomplete, ?_⟩
        rw [← hout]
        rw [← hout] at hheard
        exact news_finishDescriptions (h.calms hheard) (ha.calms hheard) hk'
          (stage_learn h hk hs hk')
      · exact .inl hout

/-- The last description registers the datapath, and those before it are only heard. -/
private theorem takes_onDescription (h : c.outline.Sound) (ha : c.outline.Attached) {k : Link}
    (hk : c.link? l = some k) (hs : k.connection.stage = .extendedHandshake) (x : Xid)
    (m : Message) : Takes l c (c.onDescription l k.session x m) := by
  obtain ⟨hheard, hout | ⟨hgoes, k', -, -, hdescribed, hnews⟩⟩ := onDescription_spec h ha hk hs x m
  · exact .inl (hout ▸ hheard)
  · exact .inr ⟨hgoes, _, hheard.trans hdescribed, .inr hnews⟩

/-! ## Service -/

/-- Messages and news of ports introduce nobody. -/
theorem introduces_of_passes {es fs : List Event} {d : DatapathId} (hevents : c.events = es ++ fs)
    (hne : fs ≠ []) (hfs : ∀ e ∈ fs, e.Passes d) : c.Introduces := by
  intro t ht hconnected
  have hmem : .datapath t ∈ fs := by
    rw [hevents, List.getLast?_append, List.getLast?_eq_some_getLast hne, Option.some_or] at ht
    rw [← Option.some.inj ht]
    exact List.getLast_mem hne
  cases hfs _ hmem with
  | port _ hk =>
    rw [hconnected] at hk
    simp at hk

/-- A notification changes the ports of a datapath, of which listeners are told. -/
theorem outline_onNotification (c : Controller) (dp : Datapath) (m : Message) :
    (c.onNotification dp m).outline =
      (c.outline.updateDatapath dp.main (.updatePorts (·.hear m))).tell (dp.outline.news m) := by
  -- a message that is no notification changes nothing
  have hnone (ht : ∀ t : PortTable, t.hear m = t) : c.outline =
      (c.outline.updateDatapath dp.main (.updatePorts (·.hear m))).tell [] := by
    rw [Outline.tell_nil]
    exact (c.outline.updateDatapath_same dp.main fun dp => by
      rw [DatapathOutline.updatePorts, ht]).symm
  cases m with
  | portStatus s =>
    have hports := outline_modifyDatapath_ports c dp.main (·.apply s)
    simp only [onNotification, onPortStatus, DatapathOutline.news]
    rw [show dp.outline.isAnnounced = dp.isAnnounced from rfl]
    split
    · exact congrArg (Outline.tell · _) hports
    · exact hports.trans (Outline.tell_nil _).symm
  | _ => exact hnone fun _ => rfl

/-- A message that is published is told as such, if at all. -/
private theorem outline_publish (c : Controller) (k : Connection) (dp : Datapath) (x : Xid)
    (m : Message) :
    ∃ es, (c.publish k dp x m).outline = c.outline.tell es ∧ ∀ e ∈ es, ∃ t, e = .message t := by
  unfold publish
  split
  · exact ⟨[], (Outline.tell_nil _).symm, List.forall_mem_nil _⟩
  · exact ⟨_, rfl, fun e he => ⟨_, List.mem_singleton.1 he⟩⟩

/-- What a connection in service makes of a message: the ports of its datapath are as it says, of
which listeners are told, and it may be handed on. -/
theorem outline_onService (h : c.outline.Sound) {k : Link} (hk : c.link? l = some k)
    (hs : k.connection.stage.isServing = true) (x : Xid) (message : Message) :
    ∃ m dp es, k.session.datapath = some m ∧ c.datapath? m = some dp ∧
      c.registry.find? dp.id = some m ∧ k.connection.datapath = some dp.id ∧
      (c.onService l k x message).1.outline =
        (c.outline.updateDatapath m (.updatePorts (·.hear message))).tell
          (dp.outline.news message ++ es) ∧
      (∀ e ∈ es, ∃ t, e = .message t) ∧
      ((c.onService l k x message).2 = .ends →
        (c.onService l k x message).1.outline = c.outline) := by
  obtain ⟨d, m, hm, hserves, hwhich⟩ := h.exists_main (link?_outline hk) hs
  have hserves : k.session.datapath = some m := hserves
  obtain ⟨k₀, dp₀, hk₀, hdp₀, hregistered⟩ := h.registered hm
  obtain ⟨dp, hdp, rfl⟩ := Option.map_eq_some_iff.1 hdp₀
  have hid : dp.id = d := hregistered.id_eq
  have hbound : k.connection.datapath = some dp.id := by
    rw [hid]
    rcases hwhich with rfl | ⟨-, hd⟩
    · obtain rfl := Option.some.inj ((link?_outline hk).symm.trans hk₀)
      exact hregistered.datapath_eq
    · exact hd
  -- the message is handed on, or has been taken
  suffices hout : ∃ es, (c.onService l k x message).1.outline =
      (c.outline.updateDatapath m (.updatePorts (·.hear message))).tell
        (dp.outline.news message ++ es) ∧
      (∀ e ∈ es, ∃ t, e = .message t) ∧
      ((c.onService l k x message).2 = .ends →
        (c.onService l k x message).1.outline = c.outline) by
    obtain ⟨es, hout⟩ := hout
    exact ⟨m, dp, es, hserves, hdp, hid ▸ hm, hbound, hout⟩
  unfold onService
  split
  · next data =>
    have hout := outline_answerEcho c l x data
    refine ⟨[], ?_, List.forall_mem_nil _, fun _ => hout⟩
    rw [hout]
    exact (Outline.updateDatapath_same _ m fun _ => rfl).symm.trans (Outline.tell_nil _).symm
  · -- whoever takes it, the ports are kept first
    have hnoted := outline_onNotification c dp message
    rw [show dp.main = m from h.main_eq hdp₀] at hnoted
    have hstill : (c.onNotification dp message).outline.datapath? m =
        some (dp.outline.updatePorts (·.hear message)) := by
      rw [hnoted]
      simp [hdp₀]
    obtain ⟨dp', hdp', -⟩ := Option.map_eq_some_iff.1 hstill
    have htracked := outline_track (c.onNotification dp message) dp' fun t => t.resolve x message
    simp only [hserves, hdp, hdp']
    split
    · next heq =>
      rw [heq] at htracked
      refine ⟨[], ?_, List.forall_mem_nil _, nofun⟩
      rw [List.append_nil, htracked, hnoted]
    · next c₁ heq =>
      rw [heq] at htracked
      obtain ⟨es, hpublished, hes⟩ := outline_publish c₁ k.connection dp' x message
      refine ⟨es, ?_, hes, nofun⟩
      rw [hpublished, htracked, hnoted, Outline.tell_tell]

/-- What a connection in service hands on is no more than messages and news of ports. -/
theorem takes_of_passes {k : Link} {m : LinkId} {dp : Datapath} (hk : c.link? l = some k)
    (hs : k.connection.stage.isServing = true) (hm : k.session.datapath = some m)
    (hdp : c.datapath? m = some dp) {f : PortTable → PortTable} {es : List Event}
    (hout : c'.outline = (c.outline.updateDatapath m (.updatePorts f)).tell es)
    (hes : ∀ e ∈ es, e.Passes dp.id) : Takes l c (c', .continues) := by
  have hports := Outline.Calm.ports (link?_outline hk) (.inr hs) hm f
  refine .inr ⟨rfl, _, .single hports, ?_⟩
  -- without events it is a quiet step, with events one of those that serve
  by_cases hne : es = []
  · subst hne
    exact .inl (hout.trans (Outline.tell_nil _))
  · refine .inr ⟨?_, introduces_of_passes (congrArg (·.events) hout) hne hes⟩
    have hdp' : (c.outline.updateDatapath m (.updatePorts f)).datapath? m =
        some (dp.outline.updatePorts f) := by
      simp [datapath?_outline hdp]
    rw [hout]
    exact .serves (link?_outline hk) hs hm hdp' hes

/-- A message in service is passed on, with the news of ports in it. -/
private theorem takes_onService (h : c.outline.Sound) {k : Link} (hk : c.link? l = some k)
    (hs : k.connection.stage.isServing = true) (x : Xid) (message : Message) :
    Takes l c (c.onService l k x message) := by
  obtain ⟨m, dp, es, hm, hdp, -, -, hout, hes, hends⟩ := outline_onService h hk hs x message
  generalize c.onService l k x message = r at hout hends
  obtain ⟨c', fate⟩ := r
  -- only an echo that cannot be answered ends the session
  cases fate with
  | ends => exact takes_of_eq (hends rfl)
  | continues =>
    refine takes_of_passes hk hs hm hdp hout fun e he => ?_
    rcases List.mem_append.1 he with he | he
    · exact dp.outline.passes_news message e he
    · obtain ⟨t, rfl⟩ := hes e he
      exact .message t

/-! ## Frames -/

/-- So every message takes steps that the stage allows. -/
private theorem takes_onMessage (h : c.outline.Sound) (ha : c.outline.Attached) {k : Link}
    (hk : c.link? l = some k) (header : Header) (m : Message) :
    Takes l c (c.onMessage l k header m) := by
  unfold onMessage
  split
  · next hs => exact takes_onHello hk (.inl hs) header m
  · next hs => exact takes_onHello hk (.inr hs) header m
  · next hs => exact (takes_onBasic h hk hs k.session header.xid m).1
  · next hs => exact takes_onDescription h ha hk hs header.xid m
  · next hs => exact takes_onService h hk (by rw [hs]; rfl) header.xid m
  · next hs => exact takes_onService h hk (by rw [hs]; rfl) header.xid m
  · exact takes_of_eq rfl
  · exact takes_of_eq rfl

/-- A frame has arrived on connection `l`, whatever it says. -/
def received (c : Controller) (l : LinkId) : Controller :=
  let c' := c.modifyConnection l fun k => k.touch c.clock
  { c' with counters := c'.counters.countReceived }

/-- What comes in does not show in the outline. -/
theorem outline_received (c : Controller) (l : LinkId) : (c.received l).outline = c.outline :=
  outline_modifyLink_same fun _ _ => rfl

/-- The connection as it is when a frame has arrived. -/
def touched (c : Controller) (k : Link) : Link :=
  { k with connection := k.connection.touch c.clock }

/-- The connection has been heard of. -/
theorem link?_received {k : Link} (hk : c.link? l = some k) :
    (c.received l).link? l = some (c.touched k) := by
  show (c.modifyLink l _).link? l = _
  rw [link?_modifyLink, if_pos rfl, hk]
  rfl

/-- No connection comes of a frame. -/
theorem link?_received_of_none (hk : c.link? l = none) : (c.received l).link? l = none := by
  show (c.modifyLink l _).link? l = _
  rw [link?_modifyLink, if_pos rfl, hk]
  rfl

/-- A frame is handled once it is counted, if it can be read. -/
theorem onFrame_eq (c : Controller) (l : LinkId) (f : Frame) : c.onFrame l f =
    match (c.received l).link? l with
    | none => (c.received l, .ends)
    | some k =>
      match Codec.decode f.header f.body with
      | .error e => (c.received l).onUnreadable l k e
      | .ok m => (c.received l).onMessage l k f.header m := rfl

/-- A frame that cannot be read leaves the outline alone. -/
theorem outline_onUnreadable (c : Controller) (l : LinkId) (k : Link) (e : WireError) :
    (c.onUnreadable l k e).1.outline = c.outline := by
  unfold onUnreadable
  split
  · exact outline_refuse c l _
  · rfl

/-- Every frame takes the steps of its message. -/
theorem takes_onFrame (h : c.outline.Sound) (ha : c.outline.Attached) (l : LinkId) (f : Frame) :
    Takes l c (c.onFrame l f) := by
  have hout := outline_received c l
  rw [onFrame_eq]
  refine Takes.of_eq ?_ hout
  split
  · exact takes_of_eq rfl
  · next k hk =>
    split
    · exact takes_of_eq (outline_onUnreadable _ l k _)
    · exact takes_onMessage (hout ▸ h) (hout ▸ ha) hk f.header _

/-- A frame, and the end of the session if it is the last, is an operation of its connection. -/
theorem moves_handleFrame (h : c.outline.Sound) (ha : c.outline.Attached) (l : LinkId)
    (f : Frame) : Moves (some l) l c (c.handleFrame l f).1 := by
  have htakes := takes_onFrame h ha l f
  unfold handleFrame
  split
  · next heq =>
    rw [heq] at htakes
    exact htakes.elim moves_of_calm And.right
  · next c₁ heq =>
    rw [heq] at htakes
    -- a frame that ends the session told nothing before
    have hcalm := htakes.calm_of_ends
    exact (moves_endSession (h.calms hcalm) (some l) l).after_calm hcalm

end Controller

end Southbound
