import Southbound.Proofs.Controller.Script

/-!
# The contract of a handshake

Frame by frame, a session goes by its script as long as its handshake is under way, and has nothing
more to say after that. Nothing else that happens makes a difference, so that it can be said of
every run what a connection has said, and what came of it (`handshake_run`).
-/

namespace Southbound.Controller

variable {c c' : Controller} {l : LinkId} {settings : Settings} {c₀ : Controller}
  {ops : List Operation} {sayings ss : List Saying} {r : Recital} {op : Operation} {f : Frame}

/-! ## Frames in the handshake -/

/-- What a session makes of a frame while it is in the midst of its handshake: it says something,
goes by the script, and knows where it is if it goes on. -/
def Answers (settings : Settings) (l : LinkId) (c₀ : Controller) (ops : List Operation)
    (sayings : List Saying) (c : Controller) (result : Controller × SessionFate) : Prop :=
  ∃ ss r, Utters l c result.1 ss ∧ Account settings l c₀ ops (sayings ++ ss) r result.1 ∧
    (result.2 = .continues → ∃ k, result.1.outline.link? l = some k ∧
      Position settings l c₀ ops (sayings ++ ss) r k)

/-- Nothing of the script is said, and nothing changes. -/
theorem answers_of_same (h : Account settings l c₀ ops sayings r c)
    {result : Controller × SessionFate} (hutters : Utters l c result.1 ss) (hss : scripted ss = [])
    (hrefused : Refused settings (sayings ++ ss)) (hout : result.1.outline = c.outline)
    (hdrawn : c.drawn ≤ result.1.drawn) (op : Operation)
    (hposition : result.2 = .continues → ∃ k, c.outline.link? l = some k ∧
      k.stage ≠ .versionNegotiating ∧ Position settings l c₀ ops sayings r k) :
    Answers settings l c₀ (ops ++ [op]) sayings c result := by
  have hregistry (d : DatapathId) : result.1.registry.find? d = c.registry.find? d :=
    congrFun (congrArg (·.main?) hout) d
  refine ⟨ss, r, hutters, h.next op hss hrefused hdrawn (fun d hd => ?_) fun hlt => ?_,
    fun hgoes => ?_⟩
  · exact .inl (hregistry d ▸ hd)
  · rw [hout]
    exact h.unbound hlt
  · obtain ⟨k, hk, hs, hposition⟩ := hposition hgoes
    exact ⟨k, hout ▸ hk, hposition.next hss (.inl hs)⟩

/-- A connection speaks the version that it has. -/
private theorem speaks_of_link {k : Link} (hk : c.link? l = some k) :
    c.outline.Speaks l k.connection.version := fun k' hk' => by
  rw [← Option.some.inj ((link?_outline hk).symm.trans hk')]
  rfl

/-- An echo is answered under its own transaction id. -/
private theorem drawn_answerEcho (c : Controller) (l : LinkId) (x : Xid) (data : Bytes) :
    (c.answerEcho l x data).1.drawn = c.drawn := by
  unfold answerEcho orEnd
  split
  · rfl
  · next hwritten => exact drawn_write hwritten

/-- So is a hello that is refused. -/
private theorem drawn_refuse (c : Controller) (l : LinkId) (reason : String) :
    (c.refuse l reason).1.drawn = c.drawn := by
  unfold refuse
  split
  · rfl
  · split
    · rfl
    · next hwritten => exact drawn_writeFrame hwritten

/-- A refusal ends the session. -/
private theorem fate_refuse (c : Controller) (l : LinkId) (reason : String) :
    (c.refuse l reason).2 = .ends := by
  unfold refuse
  split
  · rfl
  · split <;> rfl

/-- An echo request is answered at any time. -/
theorem answers_answerEcho (h : Account settings l c₀ ops sayings r c) {k : Link}
    (hk : c.link? l = some k) (hs : k.connection.stage ≠ .versionNegotiating)
    (hposition : Position settings l c₀ ops sayings r k.outline) (x : Xid) (data : Bytes)
    (op : Operation) :
    Answers settings l c₀ (ops ++ [op]) sayings c (c.answerEcho l x data) := by
  obtain ⟨ss, hutters, hss⟩ := utters_answerEcho (speaks_of_link hk) x data
  exact answers_of_same h hutters (scripted_of_isEchoReply hss) (h.refused_append hss)
    (outline_answerEcho c l x data) (Nat.le_of_eq (drawn_answerEcho c l x data).symm) op
    fun _ => ⟨k.outline, link?_outline hk, hs, hposition⟩

/-- A frame that means nothing to the session. -/
theorem answers_nothing (h : Account settings l c₀ ops sayings r c) {k : Link}
    (hk : c.link? l = some k) (hs : k.connection.stage ≠ .versionNegotiating)
    (hposition : Position settings l c₀ ops sayings r k.outline) (op : Operation)
    (fate : SessionFate) : Answers settings l c₀ (ops ++ [op]) sayings c (c, fate) :=
  answers_of_same h (Quiet.refl c).utters rfl (h.refused_append (List.forall_mem_nil _)) rfl
    (Nat.le_refl _) op fun _ => ⟨k.outline, link?_outline hk, hs, hposition⟩

/-- A session that refuses its peer has said nothing else. -/
theorem answers_refuse (hsettings : c.settings = settings)
    (h : Account settings l c₀ ops [] r c) (reason : String) (op : Operation) :
    Answers settings l c₀ (ops ++ [op]) [] c (c.refuse l reason) := by
  obtain ⟨ss, hutters, hss⟩ := utters_refuse c l reason
  -- a refusal is an error message, which is no part of the script
  have hrefused : scripted ss = [] ∧ Refused settings ss := by
    rcases hss with rfl | rfl
    · exact ⟨rfl, .inl rfl⟩
    · rw [hsettings]
      exact ⟨rfl, .inr ⟨rfl, reason, rfl⟩⟩
  exact answers_of_same h hutters hrefused.1 hrefused.2 (outline_refuse c l reason)
    (Nat.le_of_eq (drawn_refuse c l reason).symm) op fun hgoes => by
      rw [fate_refuse] at hgoes
      cases hgoes

/-- A version is agreed upon. -/
theorem answers_acceptVersion (hsettings : c.settings = settings) (h : c.outline.Sound)
    (haccount : Account settings l c₀ ops [] r c) {k : Link} (hk : c.link? l = some k)
    (hs : k.connection.stage = .versionNegotiating) {v : Version}
    (hv : negotiated? settings.versions l (ops ++ [.frame l f]) = some v) :
    Answers settings l c₀ (ops ++ [.frame l f]) [] c (c.acceptVersion l f.header v) := by
  obtain ⟨ss, hutters, hss, hdrawn, hall⟩ := utters_acceptVersion c l f.header v
  have hout := outline_acceptVersion c l f.header v
  rw [hsettings] at hss hall
  generalize c.acceptVersion l f.header v = result at hutters hdrawn hall hout
  -- the script that goes by this version is chosen now
  let r' : Recital := ⟨f.header.xid, v, c.drawn, c.drawn + 1⟩
  have hko := link?_outline hk
  have hnew (d : DatapathId) : c.outline.main? d ≠ some l :=
    h.not_main hko (LinkOutline.not_isSettled (.inr (.inl hs)))
  have hunbound := haccount.unbound Nat.zero_lt_two
  have hlater : ss ≠ [] → r'.requests ≤ result.1.drawn := fun hne => Nat.le_of_eq (hdrawn hne).symm
  have hopens (hregistered : ∀ d, result.1.registry.find? d ≠ some l)
      (hunbound : result.1.outline.Unbound l) :
      Account settings l c₀ (ops ++ [.frame l f]) ss r' result.1 :=
    .opens hss (Nat.lt_succ_self _) hlater hv hregistered hunbound
  -- the session may end while it writes, and otherwise it waits for the features
  rcases hout with ⟨hout, hends⟩ | hout
  · have hregistered (d : DatapathId) : result.1.outline.main? d ≠ some l := hout ▸ hnew d
    refine ⟨ss, r', hutters, hopens hregistered (hout ▸ hunbound), fun hgoes => ?_⟩
    rw [hends] at hgoes
    cases hgoes
  · have hregistered (d : DatapathId) : result.1.outline.main? d ≠ some l := hout ▸ hnew d
    have hlink : result.1.outline.link? l = some (k.outline.greet v (xidAt c.drawn)) := by
      rw [hout, Outline.link?_updateLink, if_pos rfl, hko]
      rfl
    -- no datapath comes of a version
    have hdatapath : result.1.outline.Unbound l := by
      refine ⟨hout ▸ hunbound.1, fun k' hk' => ?_⟩
      have hnone : k.outline.datapath = none := hunbound.2 _ hko
      rw [← Option.some.inj (hlink.symm.trans hk')]
      exact (LinkOutline.datapath_enter { k.outline with version := v } _).trans hnone
    refine ⟨ss, r', hutters, hopens hregistered hdatapath, fun hgoes => ⟨_, hlink, ?_⟩⟩
    -- whoever goes on has said all of the opening
    obtain rfl := hall hgoes
    have hopen : { k.outline with version := v }.stage.isFinal = false := congrArg Stage.isFinal hs
    refine .greeted ?_ rfl ?_ rfl
    · exact congrArg LinkOutline.stage (LinkOutline.enter_of_open hopen .basicHandshake)
    · exact LinkOutline.version_enter { k.outline with version := v } _

/-- The version is negotiated with the first frame, if that is a hello. -/
private theorem negotiated?_frame (ours : List Version) (hnone : firstFrame? l ops = none)
    {listed : List Version} (hm : Codec.decode f.header f.body = .ok (.hello listed)) :
    negotiated? ours l (ops ++ [.frame l f]) = negotiate ours f.header.version listed := by
  have hfirst : firstFrame? l (ops ++ [.frame l f]) = some f := by
    rw [firstFrame?_append, hnone]
    simp [firstFrame?]
  rw [negotiated?, hfirst]
  dsimp only
  rw [hm]

/-- The first frame, if it can be read. -/
theorem answers_onHello (hsettings : c.settings = settings) (h : c.outline.Sound)
    (haccount : Account settings l c₀ ops [] r c) {k : Link} (hk : c.link? l = some k)
    (hs : k.connection.stage = .versionNegotiating) (hnone : firstFrame? l ops = none)
    {m : Message} (hm : Codec.decode f.header f.body = .ok m) :
    Answers settings l c₀ (ops ++ [.frame l f]) [] c (c.onHello l f.header m) := by
  unfold onHello
  split
  · next listed =>
    -- this is the first frame, so what is negotiated is settled by it
    have hnegotiated := negotiated?_frame settings.versions hnone hm
    split
    · next v hv =>
      rw [hsettings] at hv
      exact answers_acceptVersion hsettings h haccount hk hs (hnegotiated.trans hv)
    · exact answers_refuse hsettings haccount _ _
  · exact answers_refuse hsettings haccount _ _

/-- A switch tells its features when it was asked for them. -/
theorem answers_onFeatures (hsettings : c.settings = settings) (h : c.outline.Healthy)
    (haccount : Account settings l c₀ ops sayings r c)
    (hframes : List.Forall₂ Saying.IsFrame sayings (spoken l c₀ ops)) {k : Link}
    (hk : c.link? l = some k) (hs : k.connection.stage = .basicHandshake)
    (hopening : scripted sayings = settings.opening r.hello r.version r.features)
    (hv : k.connection.version = r.version) {g : SwitchFeatures}
    (hg : Codec.decode f.header f.body = .ok (.featuresReply g))
    (hx : f.header.xid = xidAt r.features) :
    Answers settings l c₀ (ops ++ [.frame l f]) sayings c (c.onFeatures l g) := by
  have hko := link?_outline hk
  obtain ⟨ss, hutters, hss⟩ := utters_onFeatures (speaks_of_link hk) g
  obtain ⟨hcalm, hgoes⟩ := calm_onFeatures h.sound hk hs g
  have hdrawn := (proceeds_onFeatures h.sound hk hs g).drawn
  rw [hsettings, hv] at hss
  obtain ⟨k', hk', -⟩ := Outline.ascends_calms (l := l) hcalm k.outline hko
  generalize c.onFeatures l g = result at hutters hss hcalm hgoes hdrawn hk'
  -- nobody is registered without having been described
  have hregistered (d : DatapathId) : result.1.registry.find? d ≠ some l := by
    have hmain : result.1.outline.main? d = c.outline.main? d := congrFun (h.calm hcalm).2.2 d
    show result.1.outline.main? d ≠ some l
    rw [hmain]
    exact h.sound.not_main hko (LinkOutline.not_isSettled (.inr (.inr (.inl hs))))
  rcases hss with ⟨rfl, haux⟩ | ⟨haux, hss, hmore, hall⟩
  · -- nothing is asked on a further connection of a switch
    have htwo : ¬ (scripted sayings).length < 2 := by
      rw [hopening]
      exact Nat.lt_irrefl 2
    have hrefused := haccount.refused_append (List.forall_mem_nil _)
    refine ⟨[], r, hutters, haccount.next _ rfl hrefused hdrawn
      (fun d hd => absurd hd (hregistered d)) (absurd · htwo), fun hcontinues => ?_⟩
    obtain ⟨hzero, -⟩ | hsettled := (hgoes hcontinues).2 k' hk'
    · exact absurd hzero haux
    · exact ⟨k', hk', .past hsettled⟩
  · let r' : Recital := { r with requests := c.drawn }
    have hasked : r.question ∈ scripted sayings :=
      hopening ▸ List.mem_cons_of_mem _ List.mem_cons_self
    have hmain : Message.tellsMain (.featuresReply g) = true := beq_iff_eq.2 haux
    have hanswered := isAnswered_frame hframes hasked hg hx hmain
    refine ⟨ss, r', hutters, haccount.asks hopening (Nat.le_refl _) hss hmore hanswered
      hregistered, fun hcontinues => ⟨k', hk', ?_⟩⟩
    obtain ⟨hbegins, hstage⟩ := hgoes hcontinues
    obtain ⟨-, hstage⟩ | hsettled := hstage k' hk'
    · have hwhole : scripted (sayings ++ ss) = r'.sayings settings := by
        rw [scripted_append, hopening, hall hcontinues]
        exact congrArg _ (List.filter_eq_self.2 fun t ht => isScripted_of_mem_requests ht)
      refine .asked hstage hwhole fun t ht hrequest => .inl ?_
      rw [hbegins k' hk' hstage, hv, hsettings]
      exact Descriptions.isExpecting_of_mem (r'.mem_descriptions ht hrequest) {}
    · exact .past hsettled

/-- While the features are awaited, every message has its answer. -/
private theorem answers_onBasic (hsettings : c.settings = settings) (h : c.outline.Healthy)
    (haccount : Account settings l c₀ ops sayings r c)
    (hframes : List.Forall₂ Saying.IsFrame sayings (spoken l c₀ ops)) {k : Link}
    (hk : c.link? l = some k) (hs : k.connection.stage = .basicHandshake)
    (hopening : scripted sayings = settings.opening r.hello r.version r.features)
    (hv : k.connection.version = r.version) (hx : k.session.featuresXid = some (xidAt r.features))
    {m : Message} (hm : Codec.decode f.header f.body = .ok m) :
    Answers settings l c₀ (ops ++ [.frame l f]) sayings c
      (c.onBasic l k.session f.header.xid m) := by
  have hwaits : k.connection.stage ≠ .versionNegotiating := by
    rw [hs]
    nofun
  have hposition : Position settings l c₀ ops sayings r k.outline := .greeted hs hopening hv hx
  have hnothing (fate : SessionFate) :
      Answers settings l c₀ (ops ++ [.frame l f]) sayings c (c, fate) :=
    answers_nothing haccount hk hwaits hposition _ fate
  unfold onBasic
  split
  · exact answers_answerEcho haccount hk hwaits hposition _ _ _
  · split
    -- features that answer our request, and not another one
    · next hasked =>
      have hxid : f.header.xid = xidAt r.features := Option.some.inj (hasked.symm.trans hx)
      exact answers_onFeatures hsettings h haccount hframes hk hs hopening hv hm hxid
    · exact hnothing _
  · exact hnothing _
  · exact hnothing _

/-- The switch is described, and registered when nothing is missing any more. -/
theorem answers_onDescription (h : c.outline.Healthy)
    (haccount : Account settings l c₀ ops sayings r c)
    (hframes : List.Forall₂ Saying.IsFrame sayings (spoken l c₀ ops)) {k : Link}
    (hk : c.link? l = some k) (hs : k.connection.stage = .extendedHandshake)
    (hall : scripted sayings = r.sayings settings)
    (hopen : ∀ s ∈ r.sayings settings, s.isDescription = true →
      k.session.descriptions.isExpecting s.xid = true ∨ IsEnded l c₀ ops s)
    {m : Message} (hm : Codec.decode f.header f.body = .ok m) :
    Answers settings l c₀ (ops ++ [.frame l f]) sayings c
      (c.onDescription l k.session f.header.xid m) := by
  have hko := link?_outline hk
  obtain ⟨ss, hutters, hss⟩ := utters_onDescription (speaks_of_link hk) k.session f.header.xid m
  have hdrawn := (proceeds_onDescription h.sound h.attached hk hs f.header.xid m).drawn
  obtain ⟨hsteps, hout⟩ := onDescription_spec h.sound h.attached hk hs f.header.xid m
  obtain ⟨-, -, d, ports, -, hdp⟩ := (h.sound.link hko).collecting hs
  have hcollects : c.outline.Collects l k.session.descriptions ports :=
    ⟨k.outline, hko, hs, rfl, congrArg (Option.map (·.ports)) hdp⟩
  have hheard := hcollects.hear f.header.xid m
  generalize c.onDescription l k.session f.header.xid m = result at hutters hdrawn hout
  have hscripted := scripted_of_isEchoReply hss
  have hrefused := haccount.refused_append hss
  have hlong : ¬ (scripted sayings).length < 2 := by
    rw [hall]
    exact Nat.not_lt.2 (Nat.le_add_left 2 _)
  -- what was asked is still expected, unless this is the answer
  have hstill : ∀ s ∈ r.sayings settings, s.isDescription = true →
      (k.session.descriptions.hear f.header.xid m).isExpecting s.xid = true ∨
        IsEnded l c₀ (ops ++ [.frame l f]) s := fun s hmem hrequest => by
    rcases hopen s hmem hrequest with hexpects | hended
    · refine (Descriptions.isExpecting_hear hexpects f.header.xid m).imp_right fun ⟨hx, hends⟩ => ?_
      exact isAnswered_frame hframes (hall ▸ hmem) hm hx hends
    · exact .inr (hended.append _)
  rcases hout with hout | ⟨-, k', hk', hcomplete, hdescribed, hnews⟩
  · obtain ⟨k', hk', hs', hd', -⟩ := hheard
    rw [← hout] at hk' hsteps
    have hnew (d : DatapathId) : result.1.registry.find? d ≠ some l :=
      (h.sound.calms hsteps).not_main hk' (LinkOutline.not_isSettled (.inr (.inr (.inr hs'))))
    refine ⟨ss, r, hutters, haccount.next _ hscripted hrefused hdrawn
      (fun d hd => absurd hd (hnew d)) (absurd · hlong), fun _ => ⟨k', hk', ?_⟩⟩
    exact .asked hs' ((scripted_append_of_nil hscripted).trans hall) (hd' ▸ hstill)
  · -- nothing is expected any more
    obtain ⟨k₁, hk₁, -, hd₁, -⟩ := hcollects.hear f.header.xid m
    have hd : k'.descriptions = k.session.descriptions.hear f.header.xid m := by
      rw [Option.some.inj (hk'.symm.trans hk₁), hd₁]
    rw [hd] at hcomplete hdescribed hnews
    have hended : ∀ s ∈ r.sayings settings, s.isDescription = true →
        IsEnded l c₀ (ops ++ [.frame l f]) s := fun s hmem hrequest => by
      refine (hstill s hmem hrequest).resolve_left fun hexpects => ?_
      rw [Descriptions.not_isExpecting hcomplete] at hexpects
      cases hexpects
    obtain ⟨k₂, hk₂, hsettled⟩ := hheard.describe.isPast
      ((h.sound.calms hsteps).calms hdescribed) hnews.eventful
    exact ⟨ss, r, hutters, haccount.next _ hscripted hrefused hdrawn
      (fun _ _ => .inr ⟨hall, hended⟩) (absurd · hlong), fun _ => ⟨k₂, hk₂, .past hsettled⟩⟩

/-- What is made of a frame whose arrival has been noted. -/
theorem Answers.of_received {result : Controller × SessionFate}
    (h : Answers settings l c₀ ops sayings (c.received l) result) :
    Answers settings l c₀ ops sayings c result := by
  obtain ⟨ss, r, hutters, hrest⟩ := h
  exact ⟨ss, r, (quiet_received c l).before hutters, hrest⟩

/-- A frame that cannot be read is skipped when the peer has said hello. -/
theorem answers_onUnreadable (h : Account settings l c₀ ops sayings r c) {k : Link}
    (hk : c.link? l = some k) (hs : k.connection.stage ≠ .versionNegotiating)
    (hposition : Position settings l c₀ ops sayings r k.outline) (e : WireError)
    (op : Operation) : Answers settings l c₀ (ops ++ [op]) sayings c (c.onUnreadable l k e) := by
  have hsame : c.onUnreadable l k e =
      ({ c with counters := c.counters.countParseError }, .continues) := if_neg hs
  have hquiet : c.Quiet { c with counters := c.counters.countParseError } := quiet_of_links rfl
  rw [hsame]
  exact answers_of_same h hquiet.utters rfl (h.refused_append (List.forall_mem_nil _)) rfl
    (Nat.le_refl _) op fun _ => ⟨k.outline, link?_outline hk, hs, hposition⟩

/-- Every frame has its answer as long as the connection has not been put to use. -/
private theorem answers_onFrame (hsettings : c.settings = settings) (h : c.outline.Healthy)
    (haccount : Account settings l c₀ ops sayings r c)
    (hframes : List.Forall₂ Saying.IsFrame sayings (spoken l c₀ ops)) {k : LinkOutline}
    (hk : c.outline.link? l = some k) (hposition : Position settings l c₀ ops sayings r k)
    (hearly : ¬ k.IsSettled) (f : Frame) :
    Answers settings l c₀ (ops ++ [.frame l f]) sayings c (c.onFrame l f) := by
  have hout := outline_received c l
  have haccount : Account settings l c₀ ops sayings r (c.received l) :=
    haccount.congr (Nat.le_refl _) (fun _ hd => hd) (hout ▸ .refl _ l) ⟨k, hk⟩
  have hsettings : (c.received l).settings = settings := hsettings
  -- counting the frame changes nothing of the account, so it is left out of sight
  rw [onFrame_eq]
  refine Answers.of_received ?_
  rw [← hout] at hk h
  generalize c.received l = c at hsettings haccount h hk ⊢
  obtain ⟨k, hj, rfl⟩ := Option.map_eq_some_iff.1 hk
  rw [hj]
  dsimp only
  have hpast := hposition
  -- the position says which stage the connection is at
  cases hposition with
  | unheard hs hnone hss =>
    subst hss
    have hs : k.connection.stage = .versionNegotiating := hs
    split
    · rw [onUnreadable, if_pos hs]
      exact answers_refuse hsettings haccount _ _
    · next hm =>
      rw [onMessage, hs]
      exact answers_onHello hsettings h.sound haccount hj hs hnone hm
  | greeted hs hopening hv hx =>
    have hs : k.connection.stage = .basicHandshake := hs
    split
    · exact answers_onUnreadable haccount hj (by simp [hs]) hpast _ _
    · next hm =>
      rw [onMessage, hs]
      exact answers_onBasic hsettings h haccount hframes hj hs hopening hv hx hm
  | asked hs hall hopen =>
    have hs : k.connection.stage = .extendedHandshake := hs
    split
    · exact answers_onUnreadable haccount hj (by simp [hs]) hpast _ _
    · next hm =>
      rw [onMessage, hs]
      exact answers_onDescription h haccount hframes hj hs hall hopen hm
  | past hs => exact absurd hs hearly

/-! ## Runs -/

/-- How a connection stands after some operations since it was accepted. -/
structure Stands (settings : Settings) (l : LinkId) (c₀ : Controller) (ops : List Operation)
    (sayings : List Saying) (r : Recital) (c : Controller) : Prop where
  frames : List.Forall₂ Saying.IsFrame sayings (spoken l c₀ ops)
  account : Account settings l c₀ ops sayings r c
  position : ∃ k, c.outline.link? l = some k ∧ Position settings l c₀ ops sayings r k

/-- An operation that is no frame of the connection, or comes when that has been put to use. -/
theorem Stands.idle (h : Stands settings l c₀ ops sayings r (c₀.run ops))
    (hkept : (c₀.run ops).Kept) (hl : speaker? op ≠ some l ∨ (c₀.run ops).outline.IsPast l) :
    ∃ sayings', Stands settings l c₀ (ops ++ [op]) sayings' r ((c₀.run ops).apply op) := by
  have hdrifts := drifts_apply hkept.healthy hl
  obtain ⟨k, hk, hposition⟩ := h.position
  obtain ⟨k', hk', hkk'⟩ := hdrifts.link k hk
  -- at most an echo request is answered
  have hsaid : ∃ ss, List.Forall₂ Saying.IsFrame ss (spoken l (c₀.run ops) [op]) ∧
      (∀ s ∈ ss, s.isEchoReply = true) ∧
      (k.stage ≠ .versionNegotiating ∨ firstFrame? l [op] = none ∧ ss = []) := by
    by_cases hop : speaker? op = some l
    · obtain ⟨k₁, hk₁, hsettled⟩ := hl.resolve_left fun hne => hne hop
      obtain rfl := Option.some.inj (hk.symm.trans hk₁)
      cases op with
      | frame j f =>
        obtain rfl : j = l := Option.some.inj hop
        obtain ⟨ss, hutters, hss⟩ := utters_of_isPast ⟨k, hk, hsettled⟩ f
        exact ⟨ss, spoken_of_utters hutters, hss, .inl fun hs =>
          LinkOutline.not_isSettled (.inr (.inl hs)) hsettled⟩
      | _ => cases hop
    · rw [spoken_of_ne hop]
      exact ⟨[], .nil, List.forall_mem_nil _, .inr ⟨firstFrame?_of_ne hop, rfl⟩⟩
  obtain ⟨ss, hframes, hss, hheard⟩ := hsaid
  have hscripted := scripted_of_isEchoReply hss
  refine ⟨sayings ++ ss, ?_, ?_, k', hk', (hposition.next hscripted hheard).drifts hkk'⟩
  · rw [spoken_append]
    exact List.rel_append h.frames hframes
  · exact h.account.next op hscripted (h.account.refused_append hss)
      (hkept.develops_apply op).drawn (fun d hd => .inl (registered_before hkept.healthy hl hd))
      fun hlt => (h.account.unbound hlt).drifts ⟨k, hk⟩ hdrifts

/-- A session says something in a frame, or nothing, but takes nothing back. -/
theorem Stands.utters (h : Stands settings l c₀ ops sayings r c) (hsettings : c.settings = settings)
    (hhealthy : c.outline.Healthy) (f : Frame) : ∃ ss, Utters l c (c.handleFrame l f).1 ss := by
  obtain ⟨k, hk, hposition⟩ := h.position
  by_cases hsettled : k.IsSettled
  · obtain ⟨ss, hutters, -⟩ := utters_of_isPast ⟨k, hk, hsettled⟩ f
    exact ⟨ss, hutters⟩
  · obtain ⟨ss, -, hutters, -⟩ :=
      answers_onFrame hsettings hhealthy h.account h.frames hk hposition hsettled f
    exact ⟨ss, hutters.handleFrame⟩

/-- A frame of the connection while its handshake is under way. -/
theorem Stands.frame (h : Stands settings l c₀ ops sayings r (c₀.run ops))
    (hsettings : (c₀.run ops).settings = settings) (hkept : (c₀.run ops).Kept)
    (hearly : ¬ (c₀.run ops).outline.IsPast l) (f : Frame) :
    ∃ sayings' r', Stands settings l c₀ (ops ++ [.frame l f]) sayings' r'
      ((c₀.run ops).apply (.frame l f)) := by
  have hframes := h.frames
  have haccount := h.account
  obtain ⟨k, hk, hposition⟩ := h.position
  clear h
  -- what the frame makes the session say is what it queues
  have happend (ss : List Saying)
      (hutters : Utters l (c₀.run ops) ((c₀.run ops).onFrame l f).1 ss) :
      List.Forall₂ Saying.IsFrame (sayings ++ ss) (spoken l c₀ (ops ++ [.frame l f])) := by
    rw [spoken_append]
    exact List.rel_append hframes (spoken_of_utters hutters.handleFrame)
  generalize c₀.run ops = c at hsettings hkept hearly haccount hk happend ⊢
  have hhealthy := hkept.healthy
  obtain ⟨ss, r', hutters, haccount, hgoes⟩ := answers_onFrame hsettings hhealthy haccount
    hframes hk hposition (fun hsettled => hearly ⟨k, hk, hsettled⟩) f
  have htakes := takes_onFrame hhealthy.sound hhealthy.attached l f
  -- the end of a session says nothing more, so account and position are left to be shown
  suffices hboth : Account settings l c₀ (ops ++ [.frame l f]) (sayings ++ ss) r'
        (c.handleFrame l f).1 ∧ ∃ k, (c.handleFrame l f).1.outline.link? l = some k ∧
      Position settings l c₀ (ops ++ [.frame l f]) (sayings ++ ss) r' k from
    ⟨sayings ++ ss, r', happend ss hutters, hboth.1, hboth.2⟩
  unfold handleFrame
  split
  · next c₁ heq =>
    rw [heq] at haccount hgoes
    exact ⟨haccount, hgoes rfl⟩
  · next c₁ heq =>
    rw [heq] at haccount htakes
    have hcalm := htakes.calm_of_ends
    have hsound := hhealthy.sound.calms hcalm
    -- the session has ended, and its connection is past the handshake
    obtain ⟨k₁, hk₁, -⟩ := Outline.ascends_calms hcalm k hk
    obtain ⟨j, hj, -⟩ := Option.map_eq_some_iff.1 hk₁
    obtain ⟨k₂, hk₂, hsettled⟩ := isPast_endSession hsound hj
    exact ⟨haccount.congr (proceeds_endSession hsound l).drawn (fun d => registry_endSession)
      ((moves_endSession hsound none l).drifts (.inl nofun)) ⟨k₁, hk₁⟩, k₂, hk₂, .past hsettled⟩

/-- By induction on the operations, it is known after any run how a connection stands. -/
private theorem stands_run (h₀ : c₀.Kept) (hstart : Stands c₀.settings l c₀ [] [] r c₀)
    (ops : List Operation) :
    ∃ sayings r, Stands c₀.settings l c₀ ops sayings r (c₀.run ops) := by
  induction ops using List.reverseRecOn with
  | nil => exact ⟨[], r, hstart⟩
  | append_singleton ops op ih =>
    obtain ⟨sayings, r, h⟩ := ih
    have hkept := kept_run h₀ ops
    rw [run, List.foldl_append]
    -- only frames of this connection matter, and only until it is past its handshake
    by_cases hl : speaker? op ≠ some l ∨ (c₀.run ops).outline.IsPast l
    · obtain ⟨sayings', h'⟩ := h.idle hkept hl
      exact ⟨sayings', r, h'⟩
    · obtain ⟨hop, hearly⟩ := not_or.1 hl
      cases op with
      | frame j f =>
        obtain rfl : j = l := Option.some.inj (not_not.1 hop)
        exact h.frame (h₀.settings_run ops) hkept hearly f
      | _ => exact absurd nofun hop

/-- Nothing was said on a connection that was just accepted. -/
theorem stands_accept (h : c.Kept) (hhoused : c.outline.Housed) {remote : String}
    (haccept : c.accept remote = .ok (c₀, l)) :
    Stands c₀.settings l c₀ [] [] ⟨0, 0, 0, 1⟩ c₀ := by
  obtain ⟨hnone, hout⟩ := outline_accept haccept
  have hlink : c₀.outline.link? l = some .new := by
    rw [hout]
    exact if_pos rfl
  have hdatapath : c₀.outline.datapath? l = none := by
    rw [hout]
    exact hhoused l hnone
  have hsound : c₀.outline.Sound := h.healthy.sound.calm (calm_accept (a := none) haccept)
  -- nothing was said or heard yet
  refine ⟨.nil, ⟨.inl rfl, List.nil_prefix, Nat.zero_lt_one, absurd rfl, absurd rfl, nofun,
    fun d hd => ?_, fun _ => ⟨hdatapath, fun k hk => ?_⟩⟩, .new, hlink, .unheard rfl rfl rfl⟩
  · exact absurd hd (hsound.not_main hlink (LinkOutline.not_isSettled (.inr (.inl rfl))))
  · rw [← Option.some.inj (hlink.symm.trans hk)]
    rfl

/-! ## The contract -/

/-- Connection `l` has no datapath, neither of its own nor as a further connection. -/
structure Fruitless (c : Controller) (l : LinkId) : Prop where
  unbound : ∀ k, c.connection? l = some k → k.datapath = none
  datapath : c.datapath? l = none
  not_main : ∀ m dp, c.datapath? m = some dp → dp.main ≠ l
  not_auxiliary : ∀ m dp x, c.datapath? m = some dp → (x, l) ∉ dp.auxiliaries
  unregistered : ∀ d, c.registry.find? d ≠ some l

/-- Nothing points to a connection that nothing has come of. -/
private theorem Kept.fruitless (h : c.Kept) (hnone : c.outline.Unbound l) : c.Fruitless l where
  unbound k hk := by
    obtain ⟨j, hj, rfl⟩ := connection?_eq_some hk
    exact hnone.2 _ (link?_outline hj)
  datapath := Option.map_eq_none_iff.1 hnone.1
  not_main m dp hdp hmain := by
    -- an unbound connection is neither a main connection nor listed as an auxiliary
    obtain rfl : dp.main = m := h.healthy.sound.main_eq (datapath?_outline hdp)
    have hsome := datapath?_outline hdp
    rw [hmain, hnone.1] at hsome
    cases hsome
  not_auxiliary m dp x hdp hmem := by
    obtain ⟨-, k, hk, -, -, hd⟩ := h.orderly.auxiliary (datapath?_outline hdp) hmem
    rw [hnone.2 k hk] at hd
    cases hd
  unregistered d hd := by
    obtain ⟨-, dp, -, hdp, -⟩ := h.healthy.sound.registered hd
    rw [hnone.1] at hdp
    cases hdp

/-- What connection `l`, accepted in `c₀`, has said by the end of a run, and what came of it. -/
structure Handshake (settings : Settings) (l : LinkId) (c₀ : Controller) (ops : List Operation)
    (sayings : List Saying) (r : Recital) : Prop where
  /-- What the session has queued is what it has said. -/
  frames : List.Forall₂ Saying.IsFrame sayings (spoken l c₀ ops)
  refused : Refused settings sayings
  recites : scripted sayings <+: r.sayings settings
  /-- As long as the connection has not been put to use, its stage tells how far the script is. -/
  stages : ∀ k, (c₀.run ops).connection? l = some k →
    (k.stage = .versionNegotiating → firstFrame? l ops = none ∧ sayings = []) ∧
    (k.stage = .basicHandshake →
      scripted sayings = settings.opening r.hello r.version r.features) ∧
    (k.stage = .extendedHandshake → scripted sayings = r.sayings settings)
  negotiated : scripted sayings ≠ [] → negotiated? settings.versions l ops = some r.version
  /-- Requests have different transaction ids until these repeat. -/
  distinct : (c₀.run ops).drawn < UInt32.size → ((scripted sayings).tail.map (·.xid)).Nodup
  /-- What is behind the features request waits for the answer. -/
  answered : 2 < (scripted sayings).length → IsAnswered Message.tellsMain l c₀ ops r.question
  /-- A datapath is registered when its switch has answered everything that it was asked. -/
  described : ∀ d, (c₀.run ops).registry.find? d = some l →
    scripted sayings = r.sayings settings ∧
    ∀ s ∈ r.sayings settings, s.isDescription = true → IsEnded l c₀ ops s
  fruitless : negotiated? settings.versions l ops = none ∨ (scripted sayings).length < 2 →
    (c₀.run ops).Fruitless l

/-- How a connection stands says all that the contract asks for. -/
private theorem Stands.handshake (h : Stands settings l c₀ ops sayings r (c₀.run ops))
    (hkept : (c₀.run ops).Kept) : Handshake settings l c₀ ops sayings r where
  frames := h.frames
  refused := h.account.refused
  recites := h.account.recites
  stages k hk := by
    obtain ⟨j, hj, rfl⟩ := connection?_eq_some hk
    obtain ⟨k, hk, hposition⟩ := h.position
    obtain rfl := Option.some.inj ((link?_outline hj).symm.trans hk)
    exact hposition.stages
  negotiated := h.account.negotiated
  distinct hdrawn := by
    by_cases hne : scripted sayings = []
    · rw [hne]
      exact .nil
    -- ids repeat only after a whole round
    · exact r.nodup_xids h.account.recites h.account.later
        (Nat.lt_of_le_of_lt (h.account.drawn hne) hdrawn)
  answered := h.account.answered
  described := h.account.registered
  fruitless hnone := by
    refine hkept.fruitless (h.account.unbound (hnone.elim (fun hnone => ?_) id))
    -- where no version was agreed upon nothing of the script was said
    have hnothing : scripted sayings = [] := by
      by_contra hne
      rw [h.account.negotiated hne] at hnone
      cases hnone
    rw [hnothing]
    exact Nat.zero_lt_two

/-- Whatever arrives on a connection that was accepted, and whatever else happens, its session says
nothing but the answers to echo requests, at most one refusal, and the script of a handshake as far
as it goes, which its stage tells: a part follows only when what is before it has been answered. The
connection never goes back to an earlier stage, it is registered as one datapath at most, once, when
its switch has been described, and without a version nothing comes of it. -/
theorem handshake_run (settings : Settings) (mastership : Mastership) (before : List Operation)
    (remote : String) (c₀ : Controller) (l : LinkId)
    (haccept : (run { settings, mastership } before).accept remote = .ok (c₀, l))
    (ops : List Operation) :
    let c := c₀.run ops
    (∃ sayings r, Handshake settings l c₀ ops sayings r) ∧
    (∀ f, c.queue l <+: (c.apply (.frame l f)).queue l) ∧
    (∃ k, c.connection? l = some k ∧ ∀ more, ∃ k', (c.run more).connection? l = some k' ∧
      k.stage.rank ≤ k'.stage.rank) ∧
    ∀ d, c.registry.find? d = some l → ∀ more,
      (∀ d', (c.run more).registry.find? d' = some l → d' = d) ∧
      ((c.run more).registry.find? d ≠ some l →
        ∀ again d', ((c.run more).run again).registry.find? d' ≠ some l) := by
  intro c
  have hnew : ({ settings, mastership } : Controller).Kept := kept_new settings mastership
  have hbefore := kept_run hnew before
  have h₀ : c₀.Kept := by
    have happly := kept_apply hbefore (.accept remote)
    rw [apply, haccept] at happly
    exact happly
  -- settings never change, so those of the handshake are those of the run
  have hsettings : c₀.settings = settings := by
    have hsame := (hbefore.develops_apply (.accept remote)).settings
    rw [apply, haccept, hnew.settings_run] at hsame
    exact hsame
  have hkept : c.Kept := kept_run h₀ ops
  have hhoused := housed_run hnew.healthy (fun _ _ => rfl) before
  obtain ⟨sayings, r, hstands⟩ := stands_run h₀ (stands_accept hbefore hhoused haccept) ops
  rw [hsettings] at hstands
  -- the contract, the queue, the stages, and the one datapath of the connection
  refine ⟨⟨sayings, r, hstands.handshake hkept⟩, fun f => ?_, ?_, fun d hd more =>
    ⟨fun d' => registered_once hkept hd more, fun hgone again d' hd' => ?_⟩⟩
  · obtain ⟨ss, frames, -, hqueue⟩ :=
      hstands.utters ((h₀.settings_run ops).trans hsettings) hkept.healthy f
    exact ⟨frames, hqueue.symm⟩
  · obtain ⟨k, hk, -⟩ := hstands.position
    obtain ⟨j, hj, rfl⟩ := Option.map_eq_some_iff.1 hk
    refine ⟨j.connection, congrArg _ hj, fun more => ?_⟩
    obtain ⟨k', hk', hascends⟩ := ascends_run hkept.healthy l more _ hk
    obtain ⟨j', hj', rfl⟩ := Option.map_eq_some_iff.1 hk'
    exact ⟨j'.connection, congrArg _ hj', hascends⟩
  · obtain ⟨dp, -, -, hnever⟩ := hkept.leaves hd more hgone
    obtain ⟨dp', -, -, hleft⟩ := hnever again
    exact hleft.unregistered d' hd'

namespace SecondPort

/-- The switch that tells of a second port was asked for everything that the script has, and has
answered all of it. -/
theorem handshake_run_sayings :
    let c₀ := run { settings := {} } [.accept ""]
    let ops := .frame 0 (frameOf 1 (.hello [])) :: .frame 0 features ::
      (SecondPort.sayings ++ [refusal])
    let c := c₀.run ops
    (run { settings := {} } []).accept "" = .ok (c₀, 0) ∧
    c.registry.find? ⟨5⟩ = some 0 ∧ c.drawn < UInt32.size ∧
    ∃ said, ∃ r : Recital, List.Forall₂ Saying.IsFrame said (spoken 0 c₀ ops) ∧
      scripted said = r.sayings {} ∧ ((scripted said).tail.map (·.xid)).Nodup ∧
      ∀ s ∈ r.sayings {}, s.isDescription = true → IsEnded 0 c₀ ops s := by
  intro c₀ ops c
  have haccept : (run { settings := {} } []).accept "" = .ok (c₀, 0) := rfl
  -- the switch got through, so everything in the script was said and answered
  have hregistered : c.registry.find? ⟨5⟩ = some 0 := by decide +kernel
  have hdrawn : c.drawn < UInt32.size := by decide +kernel
  obtain ⟨⟨said, r, h⟩, -⟩ := handshake_run {} .all [] "" c₀ 0 haccept ops
  obtain ⟨hall, hended⟩ := h.described ⟨5⟩ hregistered
  exact ⟨haccept, hregistered, hdrawn, said, r, h.frames, hall, h.distinct hdrawn, hended⟩

end SecondPort

end Southbound.Controller
