import Mathlib.Data.List.Forall2
import Southbound.Proofs.Controller.Sessions

/-!
# What sessions say

A session says something by putting frames into the queue of its connection. `Utters` tells what a
part of it has said, as messages; everything that is not a step of its handshake says nothing but
the answers to echo requests.
-/

namespace Southbound

/-- A message as it is written. -/
structure Saying where
  version : Version
  xid : Xid
  message : Message
deriving DecidableEq

namespace Saying

/-- The frame is that of the message. -/
def IsFrame (s : Saying) (frame : Bytes) : Prop :=
  Codec.encode s.version s.xid s.message = .ok frame

def isEchoReply (s : Saying) : Bool :=
  match s.message with
  | .echoReply _ => true
  | _ => false

def isError (s : Saying) : Bool :=
  match s.message with
  | .error _ => true
  | _ => false

/-- Neither an answer to an echo request nor an error. -/
def isScripted (s : Saying) : Bool := !s.isEchoReply && !s.isError

/-- A switch is asked for a description. -/
def isDescription (s : Saying) : Bool :=
  match s.message with
  | .multipartRequest _ => true
  | _ => false

end Saying

/-- Messages under one transaction id after the other, from number `n` on. -/
def numbered (v : Version) (n : Nat) : List Message → List Saying
  | [] => []
  | m :: ms => ⟨v, xidAt n, m⟩ :: numbered v (n + 1) ms

/-- Each message is numbered once. -/
theorem length_numbered (v : Version) (n : Nat) (ms : List Message) :
    (numbered v n ms).length = ms.length := by
  induction ms generalizing n with
  | nil => rfl
  | cons m ms ih => exact congrArg (· + 1) (ih (n + 1))

/-- Numbering goes on with the second part. -/
theorem numbered_append (v : Version) (n : Nat) (ms more : List Message) :
    numbered v n (ms ++ more) = numbered v n ms ++ numbered v (n + ms.length) more := by
  induction ms generalizing n with
  | nil => rfl
  | cons m ms ih =>
    rw [List.cons_append, numbered, ih, List.length_cons, Nat.add_right_comm, Nat.add_assoc]
    rfl

/-- The transaction ids are those of the numbers. -/
theorem map_xid_numbered (v : Version) (n : Nat) (ms : List Message) :
    (numbered v n ms).map (·.xid) = (List.range' n ms.length).map xidAt := by
  induction ms generalizing n with
  | nil => rfl
  | cons m ms ih =>
    rw [numbered, List.map_cons, ih, List.length_cons, List.range'_succ, List.map_cons]

/-- A numbered message is one of the messages, in the version asked for. -/
theorem mem_numbered {v : Version} {n : Nat} {ms : List Message} {s : Saying}
    (h : s ∈ numbered v n ms) : s.version = v ∧ s.message ∈ ms := by
  induction ms generalizing n with
  | nil => cases h
  | cons m ms ih =>
    rcases List.mem_cons.1 h with rfl | h
    · exact ⟨rfl, List.mem_cons_self⟩
    · exact (ih h).imp_right (List.mem_cons_of_mem m)

/-- The request for a description. -/
def DescriptionKind.request (kind : DescriptionKind) : Message :=
  .multipartRequest { kind := kind.multipart }

/-- What a switch of version `v` is sent once its features are known. -/
def Settings.requests (s : Settings) (v : Version) : List Message :=
  s.configuration ++ (DescriptionKind.requiredFor v).map (·.request)

/-- Our hello, under the transaction id of the peer's, and the request for features. -/
def Settings.opening (s : Settings) (hello : Xid) (v : Version) (n : Nat) : List Saying :=
  [⟨s.highestVersion, hello, .hello s.versions⟩, ⟨v, xidAt n, .featuresRequest⟩]

/-- The error of a refusal. -/
def Settings.refusal (s : Settings) (reason : String) : Saying :=
  ⟨s.highestVersion, 0, Controller.helloFailed reason⟩

/-- The connection speaks version `v`. -/
def Outline.Speaks (o : Outline) (l : LinkId) (v : Version) : Prop :=
  ∀ k, o.link? l = some k → k.version = v

/-- A connection speaks its version as long as that is not changed. -/
private theorem Outline.Speaks.updateLink {o : Outline} {l : LinkId} {v : Version}
    (h : o.Speaks l v) {f : LinkOutline → LinkOutline} (hf : ∀ k, (f k).version = k.version) :
    (o.updateLink l f).Speaks l v := fun k hk => by
  rw [link?_updateLink, if_pos rfl] at hk
  obtain ⟨k₀, hk₀, rfl⟩ := Option.map_eq_some_iff.1 hk
  exact (hf k₀).trans (h k₀ hk₀)

namespace Controller

variable {c c' c'' : Controller} {l m : LinkId} {v : Version} {ss more : List Saying}

/-- The frames that wait on a connection. -/
def queue (c : Controller) (l : LinkId) : List Bytes :=
  ((c.connection? l).map (·.queue)).getD []

/-- Between two states, the sayings were queued on connection `l` and nothing else. -/
def Utters (l : LinkId) (c c' : Controller) (ss : List Saying) : Prop :=
  ∃ frames, List.Forall₂ Saying.IsFrame ss frames ∧ c'.queue l = c.queue l ++ frames

/-- Nothing was queued on any connection. -/
def Quiet (c c' : Controller) : Prop := ∀ l, c'.queue l = c.queue l

theorem Quiet.refl (c : Controller) : c.Quiet c := fun _ => rfl

/-- Silence after silence is silence. -/
private theorem Quiet.trans (h : c.Quiet c') (h' : c'.Quiet c'') : c.Quiet c'' :=
  fun l => (h' l).trans (h l)

/-- To be quiet is to say nothing. -/
theorem Quiet.utters (h : c.Quiet c') : Utters l c c' [] := ⟨[], .nil, by rw [h l, List.append_nil]⟩

/-- What is said in two steps is said one after the other. -/
theorem Utters.trans (h : Utters l c c' ss) (h' : Utters l c' c'' more) :
    Utters l c c'' (ss ++ more) := by
  obtain ⟨frames, hframes, heq⟩ := h
  obtain ⟨frames', hframes', heq'⟩ := h'
  exact ⟨frames ++ frames', List.rel_append hframes hframes', by
    rw [heq', heq, List.append_assoc]⟩

/-- Silence behind what was said adds nothing to it. -/
theorem Utters.before (h : Utters l c c' ss) (hquiet : c'.Quiet c'') : Utters l c c'' ss :=
  List.append_nil ss ▸ h.trans hquiet.utters

/-- Nor does silence before it. -/
theorem Quiet.before (h : c.Quiet c') (hutters : Utters l c' c'' ss) : Utters l c c'' ss :=
  h.utters.trans hutters

/-! ## Silence -/

/-- Nothing is said while connections stay as they are. -/
theorem quiet_of_links (h : c'.links = c.links) : c.Quiet c' := fun l => by
  simp only [queue, connection?, link?, h]

/-- A connection may change as long as its queue does not. -/
private theorem quiet_modifyConnection (c : Controller) (j : LinkId) {f : Connection → Connection}
    (hf : ∀ k, (f k).queue = k.queue) : c.Quiet (c.modifyConnection j f) := fun l =>
  congrArg (Option.getD · []) (queue?_modifyConnection c j l hf)

/-- A stage is entered in silence. -/
private theorem quiet_enter (c : Controller) (j : LinkId) (s : Stage) :
    c.Quiet (c.modifyConnection j fun k => k.enter s) :=
  quiet_modifyConnection c j fun k => queue_enter k s

/-- Connections are closed in silence. -/
private theorem quiet_close (c : Controller) (j : LinkId) :
    c.Quiet (c.modifyConnection j Connection.close) :=
  quiet_modifyConnection c j fun k => queue_enter k .closed

/-- Sessions have no queues. -/
private theorem quiet_modifySession (c : Controller) (j : LinkId) (f : Session → Session) :
    c.Quiet (c.modifySession j f) := fun l => by
  simp only [queue, connection?, modifySession, link?_modifyLink]
  split
  · cases c.link? l <;> rfl
  · rfl

/-- By induction, several connections are closed in silence. -/
private theorem quiet_closeLinks (c : Controller) (ls : List LinkId) :
    c.Quiet (c.closeLinks ls) := by
  induction ls generalizing c with
  | nil => exact .refl c
  | cons l ls ih => exact (quiet_close c l).trans (ih _)

/-- A teardown closes connections, and says nothing on them. -/
private theorem quiet_teardown (c : Controller) (m : LinkId) (kind : DatapathEventKind) :
    c.Quiet (c.teardown m kind) := by
  unfold teardown
  split
  · exact .refl c
  · next dp _ =>
    let c₁ := c.modifyConnection m
      (if kind = .revoked then Connection.revoke else Connection.close)
    -- entering the last stage leaves the queue as it is, whichever of the two it is
    have hleft : c.Quiet c₁ := quiet_modifyConnection c m fun k => by
      split
      · exact queue_enter k .revoked
      · exact queue_enter k .closed
    have hclosed := hleft.trans (quiet_closeLinks c₁ dp.auxiliaries.values)
    dsimp only
    split
    · exact hclosed.trans (quiet_of_links rfl)
    · exact hclosed.trans (quiet_of_links rfl)

/-- Registering a datapath says nothing to its switch. -/
private theorem quiet_register (c : Controller) (l : LinkId) : c.Quiet (c.register l) := by
  have hput (dp : Datapath) : c.Quiet { c with registry := c.registry.put dp.id l } :=
    quiet_of_links rfl
  unfold register
  split
  · exact .refl c
  · next dp _ =>
    cases hd : c.registry.find? dp.id with
    | none =>
      refine (hput dp).trans (quiet_of_links ?_)
      dsimp only
      repeat' split
      all_goals rfl
    | some old =>
      -- the id was taken: the old datapath goes without a word on its own connections
      refine ((hput dp).trans (quiet_teardown _ old .revoked)).trans (quiet_of_links ?_)
      dsimp only
      repeat' split
      all_goals rfl

/-- Nothing is said at the end of a connection. -/
private theorem quiet_connectionClosed (c : Controller) (l : LinkId) :
    c.Quiet (c.connectionClosed l) := by
  unfold connectionClosed
  split
  · exact .refl c
  · split
    · exact .refl c
    · exact .refl c
    · next d _ _ =>
      split
      · exact .refl c
      · split
        · exact quiet_of_links rfl
        · split
          -- the main connection: its datapath goes with it
          · have herased : c.Quiet { c with registry := c.registry.erase d } := quiet_of_links rfl
            exact herased.trans (quiet_teardown _ l _)
          · exact .refl c

/-- Nor at the end of a session. -/
private theorem quiet_endSession (c : Controller) (l : LinkId) : c.Quiet (c.endSession l) := by
  cases hk : c.link? l with
  | none =>
    simp only [endSession, hk]
    exact .refl c
  | some k =>
    cases hover : k.session.isOver with
    | true =>
      simp only [endSession, hk, hover, ↓reduceIte]
      exact .refl c
    | false =>
      rw [(endSession_eq hk hover).1]
      exact ((quiet_close c l).trans (quiet_modifySession _ l _)).trans
        (quiet_connectionClosed _ l)

/-- An auxiliary connection is attached in silence. -/
private theorem quiet_attach (hattach : c.attach l = some (c', m)) : c.Quiet c' := by
  unfold attach at hattach
  simp only [Option.bind_eq_bind, Option.bind_eq_some_iff] at hattach
  obtain ⟨k, -, d, -, dp, -, heq⟩ := hattach
  simp only [Datapath.attach, Option.pure_def, Option.some.injEq, Prod.mk.injEq] at heq
  obtain ⟨rfl, -⟩ := heq
  have hdatapath (f : Datapath → Datapath) : c.Quiet (c.modifyDatapath dp.main f) :=
    quiet_of_links rfl
  exact (hdatapath _).trans (quiet_closeLinks _ _)

/-- So nothing is said to its features. -/
private theorem quiet_onAuxiliaryFeatures (c : Controller) (l : LinkId) :
    c.Quiet (c.onAuxiliaryFeatures l).1 := by
  unfold onAuxiliaryFeatures
  split
  · exact .refl c
  · next hattach =>
    exact (quiet_attach hattach).trans ((quiet_modifySession _ l _).trans (quiet_enter _ l _))

/-- Nor to a description. -/
private theorem quiet_learn (c : Controller) (l : LinkId) (s : Session) (x : Xid)
    (message : Message) :
    c.Quiet (c.learn l s x message) := by
  unfold learn
  split
  · exact quiet_modifySession c l _
  · exact quiet_modifySession c l _
  · split
    · exact quiet_of_links rfl
    · exact .refl c
  · exact .refl c

/-- Nor when the last one is in. -/
private theorem quiet_finishDescriptions (c : Controller) (l : LinkId) (s : Session) :
    c.Quiet (c.finishDescriptions l s) := by
  unfold finishDescriptions
  split
  · exact .refl c
  · next main _ =>
    have hdescribed : c.Quiet (c.modifyDatapath main (describe s.descriptions)) :=
      quiet_of_links rfl
    exact hdescribed.trans ((quiet_modifySession _ l _).trans
      ((quiet_enter _ l _).trans (quiet_register _ main)))

/-- Nor to a notification. -/
private theorem quiet_onNotification (c : Controller) (dp : Datapath) (message : Message) :
    c.Quiet (c.onNotification dp message) := by
  refine quiet_of_links ?_
  unfold onNotification
  split
  · unfold onPortStatus
    dsimp only
    split <;> rfl
  · rfl
  · rfl

/-- Listeners are told without a word to the switch. -/
private theorem quiet_publish (c : Controller) (k : Connection) (dp : Datapath) (x : Xid)
    (message : Message) : c.Quiet (c.publish k dp x message) := by
  refine quiet_of_links ?_
  unfold publish
  split <;> rfl

/-- What comes in is counted in silence. -/
theorem quiet_received (c : Controller) (l : LinkId) : c.Quiet (c.received l) := by
  have htouched : c.Quiet (c.modifyConnection l fun k => k.touch c.clock) :=
    quiet_modifyConnection c l fun _ => rfl
  exact htouched.trans (quiet_of_links rfl)

/-- The next stage of a handshake says nothing by itself. -/
private theorem quiet_greet (c : Controller) (l : LinkId) (v : Version) :
    c.Quiet (c.greet l v) := by
  have hentered : c.Quiet (c.modifyConnection l fun k =>
      { k with version := v }.enter .basicHandshake) :=
    quiet_modifyConnection c l fun k => queue_enter _ _
  have hdrawn (c : Controller) : c.Quiet c.drawXid.1 := quiet_of_links rfl
  exact hentered.trans ((hdrawn _).trans (quiet_modifySession _ l _))

/-! ## Writing -/

/-- What is written is counted in silence. -/
theorem quiet_countWrite (c : Controller) (message : Message) :
    c.Quiet (c.countWrite message) := by
  refine quiet_of_links ?_
  cases message <;> rfl

/-- A connection whose queue has one more frame. -/
theorem utters_modifyConnection {k : Connection} {frame : Bytes} {s : Saying}
    (hk : c.connection? l = some k) (hs : s.IsFrame frame) (n : Nat) :
    Utters l c (c.modifyConnection l fun _ =>
      { k with queue := k.queue ++ [frame], framesSent := n }) [s] := by
  refine ⟨[frame], .cons hs .nil, ?_⟩
  obtain ⟨j, hj, rfl⟩ := connection?_eq_some hk
  simp only [queue, connection?, modifyConnection, link?_modifyLink, ↓reduceIte, hj]
  rfl

/-- A frame that is written is said. -/
private theorem utters_writeFrame {frame : Bytes} {s : Saying} (h : c.writeFrame l frame = .ok c')
    (hs : s.IsFrame frame) : Utters l c c' [s] := by
  obtain ⟨k, hk, -, rfl⟩ := writeFrame_eq_ok h
  exact utters_modifyConnection hk hs _

/-- A message that is written is said in the version of the connection. -/
private theorem utters_write {x : Xid} {message : Message} (h : c.write l x message = .ok c')
    (hv : c.outline.Speaks l v) : Utters l c c' [⟨v, x, message⟩] := by
  obtain ⟨k, frame, hk, -, hframe, rfl⟩ := write_eq_ok h
  obtain ⟨j, hj, rfl⟩ := connection?_eq_some hk
  have hs : Saying.IsFrame ⟨v, x, message⟩ frame := hv _ (link?_outline hj) ▸ hframe
  exact (utters_modifyConnection hk hs _).before (quiet_countWrite _ message)

/-- Echo requests are answered, if they can be. -/
theorem utters_answerEcho (hv : c.outline.Speaks l v) (x : Xid) (data : Bytes) :
    ∃ ss, Utters l c (c.answerEcho l x data).1 ss ∧ ∀ s ∈ ss, s.isEchoReply = true := by
  unfold answerEcho orEnd
  split
  · exact ⟨[], (Quiet.refl c).utters, List.forall_mem_nil _⟩
  · next hwritten => exact ⟨_, utters_write hwritten hv, List.forall_mem_singleton.2 rfl⟩

/-- A refusal says one error, if it can be written. -/
theorem utters_refuse (c : Controller) (l : LinkId) (reason : String) :
    ∃ ss, Utters l c (c.refuse l reason).1 ss ∧ (ss = [] ∨ ss = [c.settings.refusal reason]) := by
  have hnothing : Utters l c c [] := (Quiet.refl c).utters
  unfold refuse
  split
  · exact ⟨[], hnothing, .inl rfl⟩
  · next frame hframe =>
    split
    · exact ⟨[], hnothing, .inl rfl⟩
    · next hwritten =>
      have hs : (c.settings.refusal reason).IsFrame frame := hframe
      exact ⟨_, utters_writeFrame hwritten hs, .inr rfl⟩

/-! ## The handshake -/

/-- A connection speaks the version that was accepted for it. -/
private theorem speaks_greet (c : Controller) (l : LinkId) (v : Version) :
    (c.greet l v).outline.Speaks l v := by
  intro k hk
  rw [outline_greet, Outline.link?_updateLink, if_pos rfl] at hk
  obtain ⟨k₀, -, rfl⟩ := Option.map_eq_some_iff.1 hk
  exact LinkOutline.version_enter { k₀ with version := v } _

/-- To accept a version is to say our hello and the features request. -/
theorem utters_acceptVersion (c : Controller) (l : LinkId) (h : Header) (v : Version) :
    ∃ ss, Utters l c (c.acceptVersion l h v).1 ss ∧ ss <+: c.settings.opening h.xid v c.drawn ∧
      (ss ≠ [] → (c.acceptVersion l h v).1.drawn = c.drawn + 1) ∧
      ((c.acceptVersion l h v).2 = .continues → ss = c.settings.opening h.xid v c.drawn) := by
  have hnothing : Utters l c c [] := (Quiet.refl c).utters
  rw [acceptVersion_eq]
  split
  · -- the hello cannot be made into a frame
    exact ⟨[], hnothing, List.nil_prefix, fun hne => absurd rfl hne, nofun⟩
  · next frame hframe =>
    unfold orEnd
    split
    · exact ⟨[], hnothing, List.nil_prefix, fun hne => absurd rfl hne, nofun⟩
    · next c₁ hwritten =>
      -- the hello carries the highest version, what follows the negotiated one
      have hs : Saying.IsFrame ⟨c.settings.highestVersion, h.xid, .hello c.settings.versions⟩
        frame := hframe
      have hgreeted := (utters_writeFrame hwritten hs).before (quiet_greet c₁ l v)
      have hsame := drawn_writeFrame hwritten
      have hdrawn : (c₁.greet l v).drawn = c.drawn + 1 := congrArg (· + 1) hsame
      dsimp only
      split
      -- the hello is out, the features request is not
      · exact ⟨_, hgreeted, List.prefix_append [_] _, fun _ => hdrawn, nofun⟩
      · next hasked =>
        have hasks := hgreeted.trans (utters_write hasked (speaks_greet c₁ l v))
        rw [hsame] at hasks
        exact ⟨_, hasks, List.prefix_refl _, fun _ => (drawn_write hasked).trans hdrawn,
          fun _ => rfl⟩

/-- The configuration is said under the ids that come next. -/
private theorem utters_configureSwitch (hv : c.outline.Speaks l v) :
    ∃ ss, Utters l c (c.configureSwitch l).1 ss ∧
      ss <+: numbered v c.drawn c.settings.configuration ∧
      ((c.configureSwitch l).2 = .ok () → ss = numbered v c.drawn c.settings.configuration) := by
  have hdrew : c.Quiet c.drawXid.1 := quiet_of_links rfl
  have hspeaks : c.drawXid.1.outline.Speaks l v := hv
  -- the configuration is one message at most, so its prefixes are nothing and all of it
  unfold configureSwitch Settings.configuration
  split
  · exact ⟨[], (Quiet.refl c).utters, List.nil_prefix, fun _ => rfl⟩
  · dsimp only
    unfold writeAll
    split
    · exact ⟨[], hdrew.utters, List.nil_prefix, nofun⟩
    · next hwritten =>
      exact ⟨_, hdrew.before (utters_write hwritten hspeaks), List.prefix_refl _, fun _ => rfl⟩

/-- Every description is asked for under the next transaction id, until a request cannot be
written. -/
theorem utters_requestDescriptions (hv : c.outline.Speaks l v) (kinds : List DescriptionKind) :
    ∃ ss, Utters l c (c.requestDescriptions l kinds).1 ss ∧
      ss <+: numbered v c.drawn (kinds.map (·.request)) ∧
      c.drawn + ss.length ≤ (c.requestDescriptions l kinds).1.drawn ∧
      ((c.requestDescriptions l kinds).2 = .continues →
        ss = numbered v c.drawn (kinds.map (·.request))) := by
  induction kinds generalizing c with
  | nil =>
    exact ⟨[], (Quiet.refl c).utters, List.nil_prefix, Nat.le_refl _, fun _ => rfl⟩
  | cons kind kinds ih =>
    let c₁ := c.drawXid.1.modifySession l fun s =>
      { s with descriptions := s.descriptions.expect c.drawXid.2 kind }
    have hdrew : c.Quiet c.drawXid.1 := quiet_of_links rfl
    have hexpect : c.Quiet c₁ := hdrew.trans (quiet_modifySession _ l _)
    -- to note what is expected changes no version
    have hspeaks : c₁.outline.Speaks l v := by
      have hout : c₁.outline = c.outline.updateLink l (.learn (·.expect c.drawXid.2 kind)) :=
        outline_modifySession_learn c.drawXid.1 l (·.expect c.drawXid.2 kind)
      rw [hout]
      exact hv.updateLink fun _ => rfl
    unfold requestDescriptions
    dsimp only
    split
    · exact ⟨[], hexpect.utters, List.nil_prefix, Nat.le_succ _, nofun⟩
    · next c₂ hwritten =>
      have hasks := hexpect.before (utters_write hwritten hspeaks)
      have hdrawn : c₂.drawn = c.drawn + 1 := drawn_write hwritten
      have hspeaks₂ : c₂.outline.Speaks l v := by
        rw [outline_write hwritten]
        exact hspeaks
      -- the requests that are left are numbered from the next id on
      obtain ⟨ss, hutters, hss, hlength, hall⟩ := ih hspeaks₂
      rw [hdrawn] at hss hlength hall
      refine ⟨_, hasks.trans hutters, List.cons_prefix_cons.2 ⟨rfl, hss⟩, ?_, fun hgoes => ?_⟩
      · rw [List.length_append, List.length_singleton]
        omega
      · rw [hall hgoes]
        rfl

/-- The requests that follow the features of a switch are made in turn, until one cannot be
written. -/
theorem utters_onMainFeatures (hv : c.outline.Speaks l v) (f : SwitchFeatures) :
    ∃ ss, Utters l c (c.onMainFeatures l f).1 ss ∧
      ss <+: numbered v c.drawn (c.settings.requests v) ∧
      c.drawn + ss.length ≤ (c.onMainFeatures l f).1.drawn ∧
      ((c.onMainFeatures l f).2 = .continues →
        ss = numbered v c.drawn (c.settings.requests v)) := by
  let c₁ : Controller := { c with datapaths := c.datapaths.put l (.new f l c.settings.ageOut) }
  have hput := outline_introduce c l f c.settings.ageOut
  have hintroduced : c.Quiet c₁ := quiet_of_links rfl
  have hspeaks₁ : c₁.outline.Speaks l v := hput ▸ hv
  obtain ⟨ss, hutters, hss, hall⟩ := utters_configureSwitch hspeaks₁
  have hconfigured := outline_configureSwitch c₁ l
  have hdrawn := drawn_configureSwitch c₁ l
  have hutters₁ := hintroduced.before hutters
  -- a configuration that broke off has used fewer ids than were drawn for it
  have hlength : ss.length ≤ c.settings.configuration.length :=
    length_numbered v c.drawn c.settings.configuration ▸ hss.length_le
  rw [Settings.requests, numbered_append]
  unfold onMainFeatures
  dsimp only
  split
  · -- the configuration ended the session, so what was said is a prefix of the whole
    next c₂ _ h =>
    rw [h] at hdrawn hutters₁
    refine ⟨ss, hutters₁, hss.trans (List.prefix_append _ _), ?_, nofun⟩
    exact hdrawn ▸ Nat.add_le_add_left hlength c.drawn
  · next c₂ h =>
    rw [h] at hconfigured hdrawn hutters₁ hall
    -- it went through, and the requests for descriptions follow under the next ids
    obtain rfl := hall rfl
    let c₃ := (c₂.modifyConnection l fun k => k.enter .extendedHandshake).modifySession l fun s =>
      { s with datapath := some l }
    have hcollects : c₂.Quiet c₃ := (quiet_enter c₂ l _).trans (quiet_modifySession _ l _)
    have hutters₃ := hutters₁.before hcollects
    have hspeaks₃ : c₃.outline.Speaks l v := by
      rw [outline_collect c₂ l, hconfigured]
      exact hspeaks₁.updateLink fun k => LinkOutline.version_enter k _
    split
    · refine ⟨_, hutters₃, List.prefix_append _ _, ?_, nofun⟩
      rw [length_numbered]
      exact Nat.le_of_eq hdrawn.symm
    · next k hk =>
      obtain ⟨j, hj, rfl⟩ := connection?_eq_some hk
      obtain rfl : j.connection.version = v := hspeaks₃ _ (link?_outline hj)
      obtain ⟨more, hmore, hss', hlength', hall'⟩ :=
        utters_requestDescriptions hspeaks₃ (DescriptionKind.requiredFor j.connection.version)
      have hdrawn₃ : c₃.drawn = c.drawn + c.settings.configuration.length := hdrawn
      rw [hdrawn₃] at hss' hall' hlength'
      refine ⟨_, hutters₃.trans hmore, (List.prefix_append_right_inj _).2 hss', ?_, fun hgoes => ?_⟩
      · rw [List.length_append, length_numbered, ← Nat.add_assoc]
        exact hlength'
      · exact congrArg _ (hall' hgoes)

/-- Only a main connection makes requests when the features of its switch are known. -/
theorem utters_onFeatures (hv : c.outline.Speaks l v) (f : SwitchFeatures) :
    ∃ ss, Utters l c (c.onFeatures l f).1 ss ∧
      (ss = [] ∧ f.auxiliaryId ≠ 0 ∨ f.auxiliaryId = 0 ∧
        ss <+: numbered v c.drawn (c.settings.requests v) ∧
        c.drawn + ss.length ≤ (c.onFeatures l f).1.drawn ∧
        ((c.onFeatures l f).2 = .continues →
          ss = numbered v c.drawn (c.settings.requests v))) := by
  let c₁ := c.modifyConnection l fun k => k.bind ⟨f.datapathId⟩ f.auxiliaryId
  have hbound : c.Quiet c₁ := quiet_modifyConnection c l fun _ => rfl
  -- to bind the connection says nothing and leaves the version as it is
  have hout : c₁.outline = c.outline.updateLink l (.bind ⟨f.datapathId⟩ f.auxiliaryId) :=
    outline_modifyLink fun _ _ => rfl
  have hspeaks : c₁.outline.Speaks l v := hout ▸ hv.updateLink fun _ => rfl
  unfold onFeatures
  split
  · next haux =>
    obtain ⟨ss, hutters, hrest⟩ := utters_onMainFeatures hspeaks f
    exact ⟨ss, hbound.before hutters, .inr ⟨haux, hrest⟩⟩
  · next haux =>
    exact ⟨[], (hbound.trans (quiet_onAuxiliaryFeatures c₁ l)).utters, .inl ⟨rfl, haux⟩⟩

/-! ## Behind the requests -/

/-- While it is being described, a switch hears answers to its echoes only. -/
theorem utters_onDescription (hv : c.outline.Speaks l v) (s : Session) (x : Xid)
    (message : Message) :
    ∃ ss, Utters l c (c.onDescription l s x message).1 ss ∧ ∀ s ∈ ss, s.isEchoReply = true := by
  have hlearnt := quiet_learn c l s x message
  unfold onDescription
  split
  · exact utters_answerEcho hv x _
  -- what is learnt and what is announced are both no messages to the switch
  · refine ⟨[], ?_, List.forall_mem_nil _⟩
    dsimp only
    split
    · exact hlearnt.utters
    · next k _ =>
      split
      · exact (hlearnt.trans (quiet_finishDescriptions _ l k.session)).utters
      · exact hlearnt.utters

/-- So it does in service. -/
private theorem utters_onService (hv : c.outline.Speaks l v) (k : Link) (x : Xid)
    (message : Message) :
    ∃ ss, Utters l c (c.onService l k x message).1 ss ∧ ∀ s ∈ ss, s.isEchoReply = true := by
  unfold onService
  split
  · exact utters_answerEcho hv x _
  -- whatever is not an echo request is only passed on, never answered
  · refine ⟨[], Quiet.utters ?_, List.forall_mem_nil _⟩
    split
    · exact .refl c
    · split
      · exact .refl c
      · next dp _ =>
        have hnoted := quiet_onNotification c dp message
        dsimp only
        split
        · exact hnoted
        · next dp' _ =>
          have htracked : (c.onNotification dp message).Quiet ((c.onNotification dp message).track
            dp' fun t => t.resolve x message).1 := quiet_of_links rfl
          split
          · next h =>
            rw [h] at htracked
            exact hnoted.trans htracked
          · next h =>
            rw [h] at htracked
            exact (hnoted.trans htracked).trans (quiet_publish _ _ _ _ _)

/-- A session says what its last frame makes it say, whether it goes on or not. -/
theorem Utters.handleFrame {f : Frame} (h : Utters l c (c.onFrame l f).1 ss) :
    Utters l c (c.handleFrame l f).1 ss := by
  unfold Controller.handleFrame
  split
  · next heq =>
    rw [heq] at h
    exact h
  · next heq =>
    rw [heq] at h
    exact h.before (quiet_endSession _ l)

/-- A connection that has been put to use says nothing but the answers to echo requests. -/
theorem utters_of_isPast (hpast : c.outline.IsPast l) (f : Frame) :
    ∃ ss, Utters l c (c.handleFrame l f).1 ss ∧ ∀ s ∈ ss, s.isEchoReply = true := by
  have hreceived := quiet_received c l
  obtain ⟨k₀, hk₀, hsettled⟩ := hpast
  rw [← outline_received c l] at hk₀
  obtain ⟨k, hk, rfl⟩ := Option.map_eq_some_iff.1 hk₀
  have hspeaks : (c.received l).outline.Speaks l k.connection.version := fun k' hk' => by
    rw [← Option.some.inj (hk₀.symm.trans hk')]
    rfl
  -- a connection that is past its handshake is in none of the four early stages
  have hstage {s : Stage} (hs : k.connection.stage = s)
      (hearly : s = .connecting ∨ s = .versionNegotiating ∨ s = .basicHandshake ∨
        s = .extendedHandshake) : False := by
    subst hs
    exact LinkOutline.not_isSettled hearly hsettled
  have hnothing : ∃ ss, Utters l (c.received l) (c.received l) ss ∧
      ∀ s ∈ ss, s.isEchoReply = true := ⟨[], (Quiet.refl _).utters, List.forall_mem_nil _⟩
  -- of the frames that are left, only an echo request has an answer
  have hframe : ∃ ss, Utters l (c.received l) (c.onFrame l f).1 ss ∧
      ∀ s ∈ ss, s.isEchoReply = true := by
    rw [onFrame_eq, hk]
    dsimp only
    split
    · rw [onUnreadable, if_neg fun hs => hstage hs (.inr (.inl rfl))]
      exact ⟨[], (quiet_of_links rfl).utters, List.forall_mem_nil _⟩
    · unfold onMessage
      split
      · next hs => exact (hstage hs (.inl rfl)).elim
      · next hs => exact (hstage hs (.inr (.inl rfl))).elim
      · next hs => exact (hstage hs (.inr (.inr (.inl rfl)))).elim
      · next hs => exact (hstage hs (.inr (.inr (.inr rfl)))).elim
      · exact utters_onService hspeaks k _ _
      · exact utters_onService hspeaks k _ _
      · exact hnothing
      · exact hnothing
  obtain ⟨ss, hutters, hss⟩ := hframe
  exact ⟨ss, (hreceived.before hutters).handleFrame, hss⟩

end Controller

end Southbound
