import Southbound.Proofs.Controller.Mirror
import Southbound.Proofs.Controller.Versions

/-!
# What becomes of a frame

A frame that arrives on a connection in service has exactly one fate (`fates_run`): it cannot be
read, or it is answered, or a request was waiting for it, or nobody was and it is dropped, or
listeners are told of it once. Which of these it is depends on the message and on the open requests
of the datapath, and what the controller is afterwards depends on nothing else.

Only replies concern requests (`Tracker.resolve_of_not_isReply`), so no notification is lost to a
request that happens to have its transaction id.
-/

namespace Southbound

/-! ## Messages and open requests -/

/-- A message that is no reply is left to others, whatever requests are open. -/
theorem Tracker.resolve_of_not_isReply {m : Message} (hm : m.type.isReply = false) (t : Tracker)
    (x : Xid) : t.resolve x m = (t, false) := by
  cases m <;> first | rfl | cases hm

namespace RequestTable

variable {t t' : RequestTable} {x : Xid}

/-- A table without the request stays as it is when the request is to be finished. -/
private theorem finish_ignored {o : OpenRequest → Outcome} (h : t.finish x o = (t', .ignored)) :
    t' = t := by
  unfold finish remove at h
  cases hx : t.entries.find? x with
  | none =>
    rw [hx] at h
    exact (congrArg Prod.fst h).symm
  | some e =>
    rw [hx] at h
    cases congrArg Prod.snd h

/-- A reply that nobody waits for leaves the table as it is. -/
private theorem onOwnReply_ignored {m : Message} (h : t.onOwnReply x m = (t', .ignored)) :
    t' = t := by
  unfold onOwnReply at h
  split at h
  · split at h
    · exact finish_ignored h
    · exact (congrArg Prod.fst h).symm
  · exact (congrArg Prod.fst h).symm

/-- So does a fragment that nobody waits for. -/
private theorem onFragment_ignored {r : MultipartReply} (h : t.onFragment x r = (t', .ignored)) :
    t' = t := by
  unfold onFragment at h
  split at h
  · split at h
    · cases congrArg Prod.snd h
    · exact (congrArg Prod.fst h).symm
  · exact (congrArg Prod.fst h).symm

/-- What is ignored leaves the table as it is. -/
private theorem onMessage_ignored {m : Message} (h : t.onMessage x m = (t', .ignored)) :
    t' = t := by
  unfold onMessage at h
  -- whatever the message is, it is ignored only where no request of its kind was found
  split at h
  · split at h
    · exact finish_ignored h
    · exact (congrArg Prod.fst h).symm
  · split at h
    · exact finish_ignored h
    · exact onOwnReply_ignored h
  · split at h
    · exact onFragment_ignored h
    · exact onOwnReply_ignored h
  · split at h
    · exact onOwnReply_ignored h
    · exact (congrArg Prod.fst h).symm

end RequestTable

/-- A message that no request takes changes none. -/
theorem Tracker.resolve_of_left {t : Tracker} {x : Xid} {m : Message}
    (h : (t.resolve x m).2 = false) : t.resolve x m = (t, false) := by
  unfold resolve at h ⊢
  split
  · next table heq => rw [RequestTable.onMessage_ignored heq]
  · next heq => rw [heq] at h; cases h
  · next heq => rw [heq] at h; cases h

/-- Replies tell nothing of ports. -/
private theorem PortTable.hear_of_isReply {m : Message} (hm : m.type.isReply = true)
    (t : PortTable) :
    t.hear m = t := by
  cases m <;> first | rfl | cases hm

/-- The message that listeners are told of, if the event is one. -/
def Event.message? : Event → Option MessageEvent
  | .message e => some e
  | .datapath _ => none

/-- The messages among some events. -/
def messages (es : List Event) : List MessageEvent := es.filterMap Event.message?

private theorem messages_append (es fs : List Event) :
    messages (es ++ fs) = messages es ++ messages fs :=
  List.filterMap_append

/-- What becomes of a frame of a connection in service. -/
inductive FrameFate where
  | unreadable
  | answered
  | claimed
  | discarded
  | published
deriving DecidableEq

namespace Controller

variable {c c' : Controller} {l : LinkId} {k : Link} {dp : Datapath} {f : Frame} {x : Xid}
  {m : Message}

/-! ## Likeness -/

/-- The same in every respect, as long as datapaths are looked up by their main connections. -/
structure Alike (c c' : Controller) : Prop where
  eq : c' = { c with datapaths := c'.datapaths }
  datapath? : ∀ m, c'.datapath? m = c.datapath? m

/-- Telling listeners something keeps what is alike alike. -/
private theorem Alike.emit (h : c.Alike c') (e : Event) : (c.emit e).Alike (c'.emit e) := by
  refine ⟨?_, h.datapath?⟩
  rw [h.eq]
  rfl

/-- Listeners have been told the same. -/
private theorem Alike.events (h : c.Alike c') : c'.events = c.events := by rw [h.eq]

/-- A look at the open requests of a datapath. -/
theorem alike_track {α : Type} (dp : Datapath) (hdp : c.datapath? dp.main = some dp)
    (g : Tracker → Tracker × α) {a : α}
    (hg : g ⟨c.ledger, dp.requests⟩ = (⟨c.ledger, dp.requests⟩, a)) :
    c.Alike (c.track dp g).1 := by
  have heq : (c.track dp g).1 = c.modifyDatapath dp.main fun d =>
      { d with requests := dp.requests } := by
    simp only [track, hg]
  rw [heq]
  refine ⟨rfl, fun j => ?_⟩
  rw [datapath?_modifyDatapath]
  split
  · next hj =>
    subst hj
    rw [hdp]
    rfl
  · rfl

/-! ## Notifications -/

/-- A notification leaves the ledger alone. -/
private theorem ledger_onNotification (c : Controller) (dp : Datapath) (m : Message) :
    (c.onNotification dp m).ledger = c.ledger := by
  unfold onNotification
  split
  · unfold onPortStatus
    dsimp only
    split <;> rfl
  · rfl
  · rfl

/-- The open requests of the datapath are not touched. -/
theorem datapath?_onNotification (hdp : c.datapath? dp.main = some dp) (m : Message) :
    (c.onNotification dp m).datapath? dp.main = some { dp with ports := dp.ports.hear m } := by
  cases m with
  | portStatus s =>
    have hports : (c.modifyDatapath dp.main fun d => { d with ports := d.ports.apply s }).datapath?
        dp.main = some { dp with ports := dp.ports.apply s } := by
      rw [datapath?_modifyDatapath, if_pos rfl, hdp]
      rfl
    simp only [onNotification, onPortStatus]
    split
    · exact hports
    · exact hports
  | _ => exact hdp

/-- A reply is no notification. -/
private theorem onNotification_of_isReply (hm : m.type.isReply = true) (c : Controller)
    (dp : Datapath) :
    c.onNotification dp m = c := by
  cases m <;> first | rfl | cases hm

/-! ## Service -/

/-- A message other than an echo request goes to the open requests, and to the listeners if none of
them takes it. -/
theorem onService_eq (hserves : k.session.datapath = some dp.main)
    (hdp : c.datapath? dp.main = some dp) (hm : ∀ data, m ≠ .echoRequest data) {x : Xid}
    {taken : Bool} (htrack : (c.onNotification dp m).track { dp with ports := dp.ports.hear m }
      (fun t => t.resolve x m) = (c', taken)) :
    c.onService l k x m = (if taken then c' else
      c'.publish k.connection { dp with ports := dp.ports.hear m } x m, .continues) := by
  unfold onService
  split
  · exact absurd rfl (hm _)
  · simp only [hserves, hdp, datapath?_onNotification hdp, htrack]
    cases taken <;> rfl

/-- What listeners are told of a message that came in on a connection. -/
def relayed (k : Connection) (dp : Datapath) (x : Xid) (m : Message) : MessageEvent where
  datapath := dp.id
  auxiliary := k.auxiliary
  version := k.version
  xid := x
  message := m

/-- Does an open request of the datapath take the message? -/
def isAwaited (c : Controller) (dp : Datapath) (x : Xid) (m : Message) : Bool :=
  (Tracker.resolve ⟨c.ledger, dp.requests⟩ x m).2

/-- A reply that is waited for goes to its request, and nowhere else. -/
private theorem onService_of_isAwaited (hserves : k.session.datapath = some dp.main)
    (hdp : c.datapath? dp.main = some dp) (hm : ∀ data, m ≠ .echoRequest data)
    (h : c.isAwaited dp x m = true) :
    m.type.isReply = true ∧
      c.onService l k x m = ((c.track dp fun t => t.resolve x m).1, .continues) := by
  have hreply : m.type.isReply = true := by
    by_contra hno
    rw [isAwaited, Tracker.resolve_of_not_isReply (Bool.eq_false_iff.2 hno)] at h
    cases h
  have htrack : (c.onNotification dp m).track { dp with ports := dp.ports.hear m }
      (fun t => t.resolve x m) = ((c.track dp fun t => t.resolve x m).1, true) := by
    rw [onNotification_of_isReply hreply, PortTable.hear_of_isReply hreply]
    exact track_eq (Prod.ext rfl h)
  exact ⟨hreply, onService_eq hserves hdp hm htrack⟩

/-- Whatever nobody waits for is heard and told to listeners. -/
private theorem onService_of_left (hserves : k.session.datapath = some dp.main)
    (hdp : c.datapath? dp.main = some dp) (hm : ∀ data, m ≠ .echoRequest data)
    (h : c.isAwaited dp x m = false) :
    ∃ c', (c.onNotification dp m).Alike c' ∧
      c.onService l k x m = (c'.publish k.connection { dp with ports := dp.ports.hear m } x m,
        .continues) := by
  have hresolve := Tracker.resolve_of_left h
  rw [← ledger_onNotification c dp m] at hresolve
  refine ⟨_, alike_track { dp with ports := dp.ports.hear m } (datapath?_onNotification hdp m)
    (fun t => t.resolve x m) hresolve, ?_⟩
  exact onService_eq hserves hdp hm (track_eq hresolve)

/-- An echo request is answered on the same connection, or the session ends. -/
theorem answerEcho_eq (hk : c.link? l = some k) {frame data : Bytes}
    (hframe : Codec.encode k.connection.version x (.echoReply data) = .ok frame) :
    c.answerEcho l x data = if k.connection.fault? = none then
        ((c.modifyConnection l fun _ => { k.connection with
          queue := k.connection.queue ++ [frame]
          framesSent := k.connection.framesSent + 1 }).countWrite (.echoReply data), .continues)
      else (c, .ends) := by
  have hconnection : c.connection? l = some k.connection := congrArg (Option.map _) hk
  rw [answerEcho, write, hconnection]
  simp only [Connection.send, hframe, Connection.sendFrame]
  cases k.connection.fault? <;> rfl

/-! ## Fates -/

/-- The fate of a frame of connection `l` in service of `dp`, and what its handling comes to. -/
inductive Befalls (c : Controller) (l : LinkId) (k : Link) (dp : Datapath) (f : Frame) :
    Controller × SessionFate → FrameFate → Prop
  | unreadable {e : WireError} (hf : Codec.decode f.header f.body = .error e) :
      c.Befalls l k dp f ({ c.received l with
        counters := (c.received l).counters.countParseError }, .continues) .unreadable
  /-- The reply has the transaction id and the data of the request. -/
  | answered {data frame : Bytes} (hf : Codec.decode f.header f.body = .ok (.echoRequest data))
      (hframe : Codec.encode k.connection.version f.header.xid (.echoReply data) = .ok frame)
      (hopen : k.connection.fault? = none) :
      c.Befalls l k dp f (((c.received l).modifyConnection l fun _ =>
        { k.connection.touch c.clock with
          queue := k.connection.queue ++ [frame]
          framesSent := k.connection.framesSent + 1 }).countWrite (.echoReply data), .continues)
        .answered
  /-- The connection takes no frames, and the session ends over that. -/
  | refused {data : Bytes} (hf : Codec.decode f.header f.body = .ok (.echoRequest data))
      (hfault : k.connection.fault? ≠ none) :
      c.Befalls l k dp f ((c.received l).endSession l, .ends) .answered
  | claimed {m : Message} (hf : Codec.decode f.header f.body = .ok m)
      (hreply : m.type.isReply = true) (hawaited : c.isAwaited dp f.header.xid m = true) :
      c.Befalls l k dp f
        (((c.received l).track dp fun t => t.resolve f.header.xid m).1, .continues) .claimed
  | discarded {c' : Controller} {data : Bytes}
      (hf : Codec.decode f.header f.body = .ok (.echoReply data))
      (hleft : c.isAwaited dp f.header.xid (.echoReply data) = false)
      (hsame : (c.received l).Alike c') : c.Befalls l k dp f (c', .continues) .discarded
  | published {c' : Controller} {m : Message} (hf : Codec.decode f.header f.body = .ok m)
      (hecho : m.type ≠ .echoRequest ∧ m.type ≠ .echoReply)
      (hleft : c.isAwaited dp f.header.xid m = false)
      (hsame : (((c.received l).onNotification dp m).emit
        (.message (relayed k.connection dp f.header.xid m))).Alike c') :
      c.Befalls l k dp f (c', .continues) .published

/-- In service, a frame that cannot be read is counted and forgotten. -/
private theorem onUnreadable_of_isServing (hs : k.connection.stage.isServing = true)
    (c : Controller) (e : WireError) : c.onUnreadable l k e =
      ({ c with counters := c.counters.countParseError }, .continues) := by
  rw [onUnreadable, if_neg]
  intro hstage
  rw [hstage] at hs
  cases hs

/-- The session ends with its last frame. -/
def concluded (l : LinkId) : Controller × SessionFate → Controller × SessionFate
  | (c, .continues) => (c, .continues)
  | (c, .ends) => (c.endSession l, .ends)

/-- An echo request. -/
theorem befalls_of_echo (hk : c.link? l = some k) (dp : Datapath)
    (hversion : k.connection.version = Version.v10 ∨ k.connection.version = Version.v13)
    {data : Bytes} (hf : Codec.decode f.header f.body = .ok (.echoRequest data)) :
    c.Befalls l k dp f (concluded l
      ((c.received l).onService l (c.touched k) f.header.xid (.echoRequest data))) .answered := by
  obtain ⟨frame, hframe⟩ := exists_echoReply hversion hf f.header.xid
  have hanswer : (c.received l).onService l (c.touched k) f.header.xid (.echoRequest data) =
      (c.received l).answerEcho l f.header.xid data := rfl
  rw [hanswer, answerEcho_eq (link?_received hk) hframe]
  by_cases hfault : k.connection.fault? = none
  · rw [if_pos (show (c.touched k).connection.fault? = none from hfault)]
    exact .answered hf hframe hfault
  · rw [if_neg (show ¬ (c.touched k).connection.fault? = none from hfault)]
    exact .refused hf hfault

/-- Listeners are told of anything but an echo reply. -/
private theorem publish_eq_emit (hm : ∀ data, m ≠ .echoReply data) (c : Controller) (k : Connection)
    (dp : Datapath) (x : Xid) : c.publish k dp x m = c.emit (.message (relayed k dp x m)) := by
  unfold publish
  split
  · exact absurd rfl (hm _)
  · rfl

/-- Any other message that can be read. -/
theorem exists_befalls_of_message (hserves : k.session.datapath = some dp.main)
    (hdp : c.datapath? dp.main = some dp) (hf : Codec.decode f.header f.body = .ok m)
    (hm : ∀ data, m ≠ .echoRequest data) :
    ∃ fate, c.Befalls l k dp f (concluded l
      ((c.received l).onService l (c.touched k) f.header.xid m)) fate := by
  have hserves : (c.touched k).session.datapath = some dp.main := hserves
  have hdp : (c.received l).datapath? dp.main = some dp := hdp
  cases hawaited : (c.received l).isAwaited dp f.header.xid m with
  | true =>
    obtain ⟨hreply, heq⟩ := onService_of_isAwaited (l := l) hserves hdp hm hawaited
    rw [heq]
    exact ⟨_, .claimed hf hreply hawaited⟩
  | false =>
    obtain ⟨c', hsame, heq⟩ := onService_of_left (l := l) hserves hdp hm hawaited
    rw [heq]
    -- listeners are not told of echo replies
    by_cases hecho : ∃ data, m = .echoReply data
    · obtain ⟨data, rfl⟩ := hecho
      exact ⟨_, .discarded hf hawaited hsame⟩
    · have hecho : ∀ data, m ≠ .echoReply data := fun data hdata => hecho ⟨data, hdata⟩
      have hsilent : m.type ≠ .echoRequest ∧ m.type ≠ .echoReply := by
        constructor <;> intro htype <;> cases m <;>
          first | exact hm _ rfl | exact hecho _ rfl | cases htype
      rw [publish_eq_emit hecho]
      exact ⟨_, .published hf hsilent hawaited (hsame.emit _)⟩

/-- A frame has a fate. -/
theorem exists_befalls (hk : c.link? l = some k) (hs : k.connection.stage.isServing = true)
    (hversion : k.connection.version = Version.v10 ∨ k.connection.version = Version.v13)
    (hserves : k.session.datapath = some dp.main) (hdp : c.datapath? dp.main = some dp)
    (f : Frame) : ∃ fate, c.Befalls l k dp f (c.handleFrame l f) fate := by
  have hs : (c.touched k).connection.stage.isServing = true := hs
  rw [show c.handleFrame l f = concluded l (c.onFrame l f) from rfl, onFrame_eq, link?_received hk]
  dsimp only
  cases hf : Codec.decode f.header f.body with
  | error e =>
    dsimp only
    rw [onUnreadable_of_isServing hs]
    exact ⟨_, .unreadable hf⟩
  | ok m =>
    dsimp only
    rw [onMessage_of_isServing hs]
    -- an echo request is answered before anything else is asked
    by_cases hm : ∃ data, m = .echoRequest data
    · obtain ⟨data, rfl⟩ := hm
      exact ⟨_, befalls_of_echo hk dp hversion hf⟩
    · exact exists_befalls_of_message hserves hdp hf fun data hdata => hm ⟨data, hdata⟩

/-- The fate of a frame in service of `dp`. -/
def fateOf (c : Controller) (dp : Datapath) (f : Frame) : FrameFate :=
  match Codec.decode f.header f.body with
  | .error _ => .unreadable
  | .ok m =>
    if m.type = .echoRequest then .answered
    else if c.isAwaited dp f.header.xid m then .claimed
    else if m.type = .echoReply then .discarded
    else .published

section Befalls

variable {r : Controller × SessionFate} {fate : FrameFate}

/-- A frame has no other fate. -/
theorem Befalls.fate_eq (h : c.Befalls l k dp f r fate) : fate = c.fateOf dp f := by
  cases h with
  | unreadable hf => rw [fateOf, hf]
  | answered hf => rw [fateOf, hf]; rfl
  | refused hf => rw [fateOf, hf]; rfl
  | @claimed m hf hreply hawaited =>
    -- an echo request is no reply, so what a request claims is none
    have hecho : m.type ≠ .echoRequest := by
      intro htype
      rw [htype] at hreply
      cases hreply
    rw [fateOf, hf]
    simp only [if_neg hecho, if_pos hawaited]
  | discarded hf hleft =>
    rw [fateOf, hf]
    simp only [hleft]
    rfl
  | published hf hecho hleft =>
    rw [fateOf, hf]
    simp only [if_neg hecho.1, hleft, if_neg hecho.2]
    rfl

/-- Telling of datapaths adds no message to what listeners are told. -/
theorem messages_of_heralds (h : c.Heralds c') : messages c'.events = messages c.events := by
  obtain ⟨es, hes, hall⟩ := h
  have hnone : messages es = [] := List.filterMap_eq_nil_iff.2 fun e he => by
    obtain ⟨kind, d, ⟨t, rfl, -⟩, -⟩ := hall e he
    rfl
  rw [hes, messages_append, hnone, List.append_nil]

/-- News of ports are no messages. -/
theorem messages_onNotification (c : Controller) (dp : Datapath) (m : Message) :
    messages (c.onNotification dp m).events = messages c.events := by
  have hevents : (c.onNotification dp m).events = c.events ++ dp.outline.news m :=
    congrArg Outline.events (outline_onNotification c dp m)
  have hnone : messages (dp.outline.news m) = [] := by
    cases m with
    | portStatus s =>
      rw [DatapathOutline.news]
      split <;> rfl
    | _ => rfl
  rw [hevents, messages_append, hnone, List.append_nil]

/-- Listeners are told of a message that is published, once, and of no other. -/
theorem Befalls.messages_eq (h : c.Befalls l k dp f r fate) :
    (fate ≠ .published → messages r.1.events = messages c.events) ∧
      (fate = .published → ∃ m, Codec.decode f.header f.body = .ok m ∧
        messages r.1.events = messages c.events ++ [relayed k.connection dp f.header.xid m]) := by
  cases h with
  | unreadable | answered | claimed => exact ⟨fun _ => rfl, nofun⟩
  | refused => exact ⟨fun _ => messages_of_heralds (heralds_endSession (c.received l) l), nofun⟩
  | discarded _ _ hsame => exact ⟨fun _ => congrArg messages hsame.events, nofun⟩
  | @published c' m hf _ _ hsame =>
    refine ⟨fun hfate => absurd rfl hfate, fun _ => ⟨m, hf, ?_⟩⟩
    rw [hsame.events, emit, messages_append, messages_onNotification]
    rfl

end Befalls

/-! ## Runs -/

/-- In every run, a frame of a connection in service has exactly one fate. It cannot be read, and
is counted; it is an echo request, which is answered on the same connection, unless the connection
takes no frames and the session ends; it is a reply that an open request of the datapath waits for;
it is an echo reply that none waits for; or listeners are told of it, once, with the id of the
datapath and of the connection. They are told of no other frame. And a message that is no reply
leaves the open requests as they are, whatever transaction id it has. -/
theorem fates_run (settings : Settings) (mastership : Mastership) (ops : List Operation)
    {l : LinkId} {k : Link} (hk : (run { settings, mastership } ops).link? l = some k)
    (hs : k.connection.stage.isServing = true) (f : Frame) :
    let c := run { settings, mastership } ops
    (∃ dp, k.session.datapath = some dp.main ∧ k.connection.datapath = some dp.id ∧
      c.registered? dp.id = some dp ∧ ∃! fate, c.Befalls l k dp f (c.handleFrame l f) fate ∧
        (fate ≠ .published → messages (c.apply (.frame l f)).events = messages c.events) ∧
        (fate = .published → ∃ m, Codec.decode f.header f.body = .ok m ∧
          messages (c.apply (.frame l f)).events =
            messages c.events ++ [relayed k.connection dp f.header.xid m])) ∧
    ∀ (t : Tracker) (x : Xid) (m : Message), m.type.isReply = false →
      t.resolve x m = (t, false) := by
  intro c
  have h : c.outline.Healthy := healthy_run (healthy_new settings mastership) ops
  refine ⟨?_, fun t x m hm => Tracker.resolve_of_not_isReply hm t x⟩
  -- what the connection serves does not depend on the frame
  obtain ⟨m, dp, es, hserves, hdp, hm, hbound, -⟩ :=
    outline_onService h.sound hk hs 0 (.echoReply [])
  have hmain : dp.main = m := h.sound.main_eq (datapath?_outline hdp)
  subst hmain
  have hversion := version_of_isServing settings mastership ops hk hs
  obtain ⟨fate, hbefalls⟩ := exists_befalls hk hs hversion hserves hdp f
  refine ⟨dp, hserves, hbound, Option.bind_eq_some_iff.2 ⟨dp.main, hm, hdp⟩, fate,
    ⟨hbefalls, hbefalls.messages_eq⟩, fun fate' hother => ?_⟩
  rw [hother.1.fate_eq, hbefalls.fate_eq]

namespace SecondPort

/-- Datapath 5 is registered, and somebody waits for a reply under transaction id 9. -/
def waiting : Controller :=
  run { settings := {} } (greeting ++ .frame 0 features :: (sayings ++
    [refusal, .sendRequest ⟨5⟩ { message := .getConfigRequest, xid := some 9 }]))

/-- A notification that happens to have the transaction id of an open request is published. -/
theorem fates_run_same_xid :
    let f := frameOf 9 (.portStatus notification)
    ∃ k dp, waiting.link? 0 = some k ∧ k.connection.stage.isServing = true ∧
      waiting.registered? ⟨5⟩ = some dp ∧ dp.requests.isUsed 9 = true ∧
      waiting.Befalls 0 k dp f (waiting.handleFrame 0 f) .published := by
  intro f
  have hlink : (waiting.link? 0).map (fun k => (k.connection.stage.isServing,
      k.connection.datapath)) = some (true, some ⟨5⟩) := by decide +kernel
  -- the id 9 is in use, and still a notification with this id is published
  have htable : (waiting.registered? ⟨5⟩).map (fun dp => (dp.requests.isUsed 9,
      waiting.fateOf dp f)) = some (true, .published) := by decide +kernel
  obtain ⟨k, hk, hkeq⟩ := Option.map_eq_some_iff.1 hlink
  obtain ⟨hs, hbound⟩ := Prod.mk.inj hkeq
  obtain ⟨⟨dp, -, hd, hdp, fate, ⟨hbefalls, -⟩, -⟩, -⟩ := fates_run {} .all _ hk hs f
  have hid : dp.id = ⟨5⟩ := Option.some.inj (hd.symm.trans hbound)
  have hdp : waiting.registered? ⟨5⟩ = some dp := hid ▸ hdp
  rw [hdp] at htable
  obtain ⟨hused, hfate⟩ := Prod.mk.inj (Option.some.inj htable)
  have hpublished : fate = .published := hbefalls.fate_eq.trans hfate
  exact ⟨k, dp, hk, hs, hdp, hused, hpublished ▸ hbefalls⟩

end SecondPort

end Controller

end Southbound
