import Mathlib.Data.List.Induction
import Southbound.Proofs.Controller.Fates

/-!
# The version of an event

A message is read in the version of its frame's header, and the event that tells listeners of it
bears the version of the connection. Nobody compares the two. So the event is true to the frame if
the versions are equal, and otherwise only if the type has the same number in both of them and the
bytes happen to say the same.

* `Codec.decode_relabel_iff`      when a message is read alike in another version
* `Codec.decode_of_isUniform`     the types that are
* `Controller.relays_apply`       what an operation tells listeners of messages
* `Controller.labels_run`         the events of a run, and which of them bear the right version
-/

namespace Southbound

/-! ## Versions that read alike -/

/-- Two versions that have a codec do not differ in what they have in common. -/
theorem Version.congr_codec {α : Type} {f : Version → α} (h : f v10 = f v13) {v w : Version}
    (hv : v = v10 ∨ v = v13) (hw : w = v10 ∨ w = v13) : f v = f w := by
  rcases hv with rfl | rfl <;> rcases hw with rfl | rfl
  · rfl
  · exact h
  · exact h.symm
  · rfl

namespace MessageType

/-- Types that have one number and one format in all versions that have a codec. -/
def isUniform : MessageType → Bool
  | error | echoRequest | echoReply | experimenter | featuresRequest | getConfigRequest
  | getConfigReply | setConfig => true
  | _ => false

variable {v w : Version} {t : MessageType} {n : UInt8}

/-- Up to the modification of flows, the versions number their types alike. -/
theorem ofWire?_of_lt (hv : v = Version.v10 ∨ v = Version.v13)
    (hw : w = Version.v10 ∨ w = Version.v13) (hn : n.toNat < 15) : ofWire? v n = ofWire? w n := by
  have hsame : (numbering Version.v10).take 15 = (numbering Version.v13).take 15 := by decide
  have hget := congrArg (·[n.toNat]?) hsame
  simp only [List.getElem?_take_of_lt hn] at hget
  exact Version.congr_codec (f := fun v => ofWire? v n) hget hv hw

/-- From there on a number does not stand for one type in two versions. -/
theorem ofWire?_ne_of_le (hv : v = Version.v10 ∨ v = Version.v13)
    (hw : w = Version.v10 ∨ w = Version.v13) (hvw : v ≠ w) (hn : 15 ≤ n.toNat)
    (ht : ofWire? v n = some t) : ofWire? w n ≠ some t := by
  have hlt : n.toNat < 26 := by
    obtain ⟨hlt, -⟩ := List.getElem?_eq_some_iff.1 ht
    have hle := numbering_length_le v
    omega
  -- from 15 on the two numberings name different types at every number
  have hall : ∀ i < 26, 15 ≤ i → (numbering Version.v10)[i]? ≠ (numbering Version.v13)[i]? := by
    decide
  have hdiffer : ofWire? Version.v10 n ≠ ofWire? Version.v13 n := hall n.toNat hlt hn
  intro ht'
  rcases hv with rfl | rfl <;> rcases hw with rfl | rfl
  · exact hvw rfl
  · exact hdiffer (ht.trans ht'.symm)
  · exact hdiffer (ht'.trans ht.symm)
  · exact hvw rfl

/-- The types that are alike in all versions are among the first. -/
private theorem lt_of_isUniform (ht : t.isUniform = true) (hn : ofWire? v n = some t) :
    n.toNat < 15 := by
  have h10 : ∀ t ∈ (numbering Version.v10).drop 15, t.isUniform = false := by decide
  have h13 : ∀ t ∈ (numbering Version.v13).drop 15, t.isUniform = false := by decide
  by_contra hle
  -- a type with a greater number is among the others
  have hmem : t ∈ (numbering v).drop 15 := by
    obtain ⟨hlt, hget⟩ := List.getElem?_eq_some_iff.1 hn
    refine List.mem_iff_getElem?.2 ⟨n.toNat - 15, ?_⟩
    rw [List.getElem?_drop, Nat.add_sub_cancel' (by omega)]
    exact hn
  have hnot : t.isUniform = false := by
    unfold numbering at hmem
    split at hmem
    · exact h10 t hmem
    · split at hmem
      · exact h13 t hmem
      · cases hmem
  rw [hnot] at ht
  cases ht

end MessageType

namespace Codec

variable {v : Version} {h : Header} {body : Bytes} {t : MessageType} {m : Message}

/-- A message is read if its type is known, its body is all there and can be read. -/
private theorem decode_eq_ok_iff : decode h body = .ok m ↔
    ∃ t, typeOf h = .ok t ∧ h.bodyLength ≤ body.length ∧
      readBody h.version t (body.take h.bodyLength) = .ok m := by
  unfold decode
  cases ht : typeOf h with
  | error e => simp [bind, Except.bind]
  | ok t =>
    simp only [bind, Except.bind, List.length_take, Except.ok.injEq, exists_eq_left']
    -- the type is known; what can still be wrong is the length
    split
    · simp only [reduceCtorEq, false_iff, not_and]
      omega
    · have hle : h.bodyLength ≤ body.length := by omega
      simp only [hle, true_and]

/-- What is read is of the form that the reader makes. -/
private theorem exists_of_map {α : Type} {x : Except WireError α} {f : α → Message}
    (h : f <$> x = .ok m) : ∃ a, f a = m := by
  cases x with
  | ok a => exact ⟨a, Except.ok.inj h⟩
  | error e => cases h

/-- What is read as a message of a type is one. -/
theorem type_of_readBody (hv : v = Version.v10 ∨ v = Version.v13)
    (hm : readBody v t body = .ok m) : m.type = t := by
  rcases hv with rfl | rfl
  · have hm : V10.read t body = .ok m := hm
    cases t <;> first
      | (cases hm <;> rfl)
      | (obtain ⟨a, rfl⟩ := exists_of_map hm; rfl)
  · have hm : V13.read t body = .ok m := hm
    cases t <;> first
      | (cases hm <;> rfl)
      | (obtain ⟨a, rfl⟩ := exists_of_map hm; rfl)

/-- In a version with a codec the numbering decides what type a message has. -/
private theorem typeOf_eq_ok_iff (hv : h.version = Version.v10 ∨ h.version = Version.v13) :
    typeOf h = .ok t ↔ MessageType.ofWire? h.version h.type = some t := by
  unfold typeOf
  cases hn : MessageType.ofWire? h.version h.type with
  | some t' => simp
  | none =>
    -- number 0 is taken in all versions that have a codec
    have hzero : h.type ≠ 0 := by
      intro hzero
      rw [hzero] at hn
      rcases hv with hv | hv <;> rw [hv] at hn <;> cases hn
    simp only [if_neg hzero, reduceCtorEq, iff_false]
    split <;> exact nofun

/-- Under a header of any other version there can only be a hello. -/
theorem hello_of_other (hv : ¬ (h.version = Version.v10 ∨ h.version = Version.v13))
    (hm : decode h body = .ok m) : h.type = 0 ∧ m.type = .hello := by
  obtain ⟨t, ht, -, hread⟩ := decode_eq_ok_iff.1 hm
  obtain ⟨h10, h13⟩ := not_or.1 hv
  have hnone : MessageType.ofWire? h.version h.type = none := by
    simp [MessageType.ofWire?, MessageType.numbering, h10, h13]
  rw [readBody, if_neg h10, if_neg h13] at hread
  refine ⟨?_, type_of_readBody (v := Version.v13) (.inr rfl) hread⟩
  by_contra hzero
  simp only [typeOf, hnone, if_neg hzero] at ht
  split at ht <;> cases ht

/-- A message that was read from its header can be read from the same bytes in version `v` exactly
if the header is one of that version, or gives the type the same number and the bytes happen to say
the same. -/
theorem decode_relabel_iff (hm : decode h body = .ok m)
    (hv : v = Version.v10 ∨ v = Version.v13) :
    decode { h with version := v } body = .ok m ↔
      h.version = v ∨
        h.type.toNat < 15 ∧ readBody v m.type (body.take h.bodyLength) = .ok m := by
  by_cases hsame : h.version = v
  · subst hsame
    exact ⟨fun _ => .inl rfl, fun _ => hm⟩
  obtain ⟨t, ht, hlength, hread⟩ := decode_eq_ok_iff.1 hm
  -- under another version the type number may mean something else, or the body may not be readable
  have hrelabel : decode { h with version := v } body = .ok m ↔
      MessageType.ofWire? v h.type = some m.type ∧
        readBody v m.type (body.take h.bodyLength) = .ok m := by
    rw [decode_eq_ok_iff]
    constructor
    · rintro ⟨t', ht', -, hread'⟩
      obtain rfl := type_of_readBody hv hread'
      exact ⟨(typeOf_eq_ok_iff hv).1 ht', hread'⟩
    · rintro ⟨ht', hread'⟩
      exact ⟨m.type, (typeOf_eq_ok_iff hv).2 ht', hlength, hread'⟩
  rw [hrelabel, or_iff_right hsame, and_congr_left_iff]
  intro _
  -- the numbers below 15 are the same in both versions, all others differ
  by_cases hcodec : h.version = Version.v10 ∨ h.version = Version.v13
  · obtain rfl := type_of_readBody hcodec hread
    have ht := (typeOf_eq_ok_iff hcodec).1 ht
    constructor
    · intro ht'
      by_contra hle
      exact MessageType.ofWire?_ne_of_le hcodec hv hsame (Nat.le_of_not_lt hle) ht ht'
    · intro hlt
      rw [MessageType.ofWire?_of_lt hv hcodec hlt]
      exact ht
  · -- a hello, whose number is 0 in every version
    obtain ⟨hzero, hhello⟩ := hello_of_other hcodec hm
    have hnumber : MessageType.ofWire? v 0 = some .hello := by rcases hv with rfl | rfl <;> rfl
    rw [hzero, hhello, hnumber]
    simp

/-- The bodies of types that are alike are read alike. -/
private theorem readBody_of_isUniform {w : Version} (ht : t.isUniform = true)
    (hv : v = Version.v10 ∨ v = Version.v13) (hw : w = Version.v10 ∨ w = Version.v13) :
    readBody v t = readBody w t := by
  have hsame : readBody Version.v10 t = readBody Version.v13 t := by
    cases t <;> first | rfl | cases ht
  exact Version.congr_codec (f := fun v => readBody v t) hsame hv hw

/-- Messages of uniform types read alike in all versions that have a codec. -/
theorem decode_of_isUniform (hm : decode h body = .ok m) (ht : m.type.isUniform = true)
    (hv : v = Version.v10 ∨ v = Version.v13) : decode { h with version := v } body = .ok m := by
  obtain ⟨t, htype, hlength, hread⟩ := decode_eq_ok_iff.1 hm
  by_cases hcodec : h.version = Version.v10 ∨ h.version = Version.v13
  · obtain rfl := type_of_readBody hcodec hread
    have hlt := MessageType.lt_of_isUniform ht ((typeOf_eq_ok_iff hcodec).1 htype)
    refine (decode_relabel_iff hm hv).2 (.inr ⟨hlt, ?_⟩)
    rw [readBody_of_isUniform ht hv hcodec]
    exact hread
  · rw [(hello_of_other hcodec hm).2] at ht
    cases ht

end Codec

/-- The message of an event is what is read from the frame under the version of the event. -/
def MessageEvent.IsTrueTo (e : MessageEvent) (f : Frame) : Prop :=
  Codec.decode { f.header with version := e.version } f.body = .ok e.message

instance (e : MessageEvent) (f : Frame) : Decidable (e.IsTrueTo f) :=
  inferInstanceAs (Decidable (_ = _))

namespace Controller

variable {c c' : Controller} {l : LinkId} {k : Link} {f : Frame} {e : MessageEvent}

/-! ## Who is told of a message -/

/-- Who leaves the outline alone tells nothing. -/
private theorem heralds_of_outline (h : c'.outline = c.outline) : c.Heralds c' :=
  heralds_of_events (congrArg Outline.events h)

/-- Before a connection is in service, listeners are told of no message that comes in on it. -/
theorem heralds_onMessage (h : c.outline.Healthy) (hk : c.link? l = some k)
    (hs : k.connection.stage.isServing = false) (header : Header) (m : Message) :
    c.Heralds (c.onMessage l k header m).1 := by
  unfold onMessage
  -- one case per stage; the two in service are excluded
  split
  · exact heralds_of_events (spares_onHello c l header m).events_eq
  · exact heralds_of_events (spares_onHello c l header m).events_eq
  · next hbasic => exact heralds_of_events (spares_onBasic h.sound hk hbasic _ _ m).events_eq
  · next hdescribed => exact heralds_onDescription h hk hdescribed header.xid m
  · next hserving => simp [hserving, Stage.isServing] at hs
  · next hserving => simp [hserving, Stage.isServing] at hs
  · exact heralds_of_outline rfl
  · exact heralds_of_outline rfl

/-- A frame of a connection that is not in service is told to nobody. -/
private theorem heralds_onFrame (h : c.outline.Healthy)
    (hidle : ∀ k, c.link? l = some k → k.connection.stage.isServing = false) (f : Frame) :
    c.Heralds (c.onFrame l f).1 := by
  have hreceived : c.Heralds (c.received l) := heralds_of_outline (outline_received c l)
  rw [onFrame_eq]
  cases hk : c.link? l with
  | none =>
    rw [link?_received_of_none hk]
    exact hreceived
  | some k =>
    rw [link?_received hk]
    dsimp only
    cases Codec.decode f.header f.body with
    | error e => exact hreceived.trans (heralds_of_outline (outline_onUnreadable _ l _ e))
    | ok m =>
      have hhealthy : (c.received l).outline.Healthy := outline_received c l ▸ h
      -- the arrival is counted first, which leaves the stage as it is
      have hs : (c.touched k).connection.stage.isServing = false := hidle k hk
      exact hreceived.trans (heralds_onMessage hhealthy (link?_received hk) hs f.header m)

/-- Nor are they when the session ends over it. -/
theorem heralds_handleFrame (h : c.outline.Healthy)
    (hidle : ∀ k, c.link? l = some k → k.connection.stage.isServing = false) (f : Frame) :
    c.Heralds (c.handleFrame l f).1 := by
  have hframe := heralds_onFrame h hidle f
  unfold handleFrame
  split
  · next heq => exact heq ▸ hframe
  · next heq =>
    rw [heq] at hframe
    exact hframe.trans (heralds_endSession _ l)

/-- A frame comes in on a connection in service, and listeners are told of its message by `e`. -/
structure Relays (c : Controller) (l : LinkId) (k : Link) (f : Frame) (e : MessageEvent) :
    Prop where
  link : c.link? l = some k
  serving : k.connection.stage.isServing = true
  /-- The message is read in the version of the frame. -/
  read : Codec.decode f.header f.body = .ok e.message
  /-- The version is that of the connection. -/
  version_eq : e.version = k.connection.version
  auxiliary_eq : e.auxiliary = k.connection.auxiliary
  xid_eq : e.xid = f.header.xid
  messages_eq : messages (c.apply (.frame l f)).events = messages c.events ++ [e]

/-- An operation tells listeners of one message at most, and of one that came in. -/
theorem relays_apply (settings : Settings) (mastership : Mastership) (ops : List Operation)
    (op : Operation) : let c := run { settings, mastership } ops
    messages (c.apply op).events = messages c.events ∨
      ∃ l k f e, op = .frame l f ∧ c.Relays l k f e := by
  intro c
  have h : c.outline.Healthy := healthy_run (healthy_new settings mastership) ops
  by_cases hop : speaker? op = none
  · exact .inl (messages_of_heralds (heralds_apply h hop))
  cases op with
  | frame l f =>
    by_cases hidle : ∀ k, c.link? l = some k → k.connection.stage.isServing = false
    · exact .inl (messages_of_heralds (heralds_handleFrame h hidle f))
    · -- the frame of a connection in service has a fate
      push Not at hidle
      obtain ⟨k, hk, hs⟩ := hidle
      have hs : k.connection.stage.isServing = true := by simpa using hs
      obtain ⟨m, dp, es, hserves, hdp, -⟩ := outline_onService h.sound hk hs 0 (.echoReply [])
      obtain rfl : dp.main = m := h.sound.main_eq (datapath?_outline hdp)
      have hversion := version_of_isServing settings mastership ops hk hs
      obtain ⟨fate, hbefalls⟩ := exists_befalls hk hs hversion hserves hdp f
      obtain ⟨hothers, hpublished⟩ := hbefalls.messages_eq
      by_cases hfate : fate = .published
      · obtain ⟨m, hm, hmessages⟩ := hpublished hfate
        exact .inr ⟨l, k, f, _, rfl, hk, hs, hm, rfl, rfl, rfl, hmessages⟩
      · exact .inl (hothers hfate)
  | _ => exact absurd rfl hop

/-- Listeners are told of messages that came in, each by its own frame. -/
theorem exists_relays (settings : Settings) (mastership : Mastership) (ops : List Operation)
    (he : e ∈ messages (run { settings, mastership } ops).events) :
    ∃ earlier l k f later, ops = earlier ++ .frame l f :: later ∧
      (run { settings, mastership } earlier).Relays l k f e := by
  induction ops using List.reverseRecOn with
  | nil => cases he
  | append_singleton ops op ih =>
    -- the event is an old one, or the one that the last operation brings
    have hold (he : e ∈ messages (run { settings, mastership } ops).events) :
        ∃ earlier l k f later, ops ++ [op] = earlier ++ .frame l f :: later ∧
          (run { settings, mastership } earlier).Relays l k f e := by
      obtain ⟨earlier, l, k, f, later, rfl, hrelays⟩ := ih he
      exact ⟨earlier, l, k, f, later ++ [op], by simp, hrelays⟩
    rw [run_concat] at he
    rcases relays_apply settings mastership ops op with hsame | ⟨l, k, f, e', rfl, hrelays⟩
    · exact hold (hsame ▸ he)
    · rw [hrelays.messages_eq, List.mem_append, List.mem_singleton] at he
      rcases he with he | rfl
      · exact hold he
      · exact ⟨ops, l, k, f, [], rfl, hrelays⟩

/-- In every run, each message that listeners are told of came in on a connection in service. It is
what the frame says in the version of its header, and the event bears the version of the
connection. It is true to the frame if the two are equal, or the type is one of those that read
alike in all versions; and in general exactly if they are equal, or the type has the same number in
both and the bytes say the same. -/
theorem labels_run (settings : Settings) (mastership : Mastership) (ops : List Operation) :
    ∀ e ∈ messages (run { settings, mastership } ops).events,
      ∃ earlier l k f later, ops = earlier ++ .frame l f :: later ∧
        (run { settings, mastership } earlier).Relays l k f e ∧
        (e.version = Version.v10 ∨ e.version = Version.v13) ∧
        (f.header.version = e.version ∨ e.message.type.isUniform = true → e.IsTrueTo f) ∧
        (e.IsTrueTo f ↔ f.header.version = e.version ∨ f.header.type.toNat < 15 ∧
          Codec.readBody e.version e.message.type (f.body.take f.header.bodyLength) =
            .ok e.message) := by
  intro e he
  obtain ⟨earlier, l, k, f, later, rfl, hrelays⟩ := exists_relays settings mastership ops he
  have hversion : e.version = Version.v10 ∨ e.version = Version.v13 := by
    rw [hrelays.version_eq]
    exact version_of_isServing settings mastership earlier hrelays.link hrelays.serving
  have hiff := Codec.decode_relabel_iff hrelays.read hversion
  refine ⟨earlier, l, k, f, later, rfl, hrelays, hversion, ?_, hiff⟩
  -- the version is the frame's own, or the message is read alike in both
  rintro (hsame | huniform)
  · exact hiff.2 (.inl hsame)
  · exact Codec.decode_of_isUniform hrelays.read huniform hversion

namespace SecondPort

/-- Datapath 5 is registered, and its version is 1.3. -/
def described : List Operation := greeting ++ .frame 0 features :: (sayings ++ [refusal])

/-- A flow was removed, said in version 1.0, whose match is 40 bytes long. -/
def removal : Frame where
  header := { version := Version.v10, type := 11, length := 88, xid := 9 }
  body := List.replicate 80 0

/-- An experimenter message, said in version 1.0 as well. -/
def experiment : Frame where
  header := { version := Version.v10, type := 4, length := 12, xid := 9 }
  body := [0, 0, 0, 1]

/-- What listeners are told of a message under transaction id 9. -/
def told (m : Message) : MessageEvent where
  datapath := ⟨5⟩
  auxiliary := 0
  version := Version.v13
  xid := 9
  message := m

/-- Experimenter messages read alike in both versions. -/
theorem labels_run_experiment :
    let ops := described ++ [.frame 0 experiment]
    let e := told (.experimenter [0, 0, 0, 1])
    e ∈ messages (run { settings := {} } ops).events ∧ ∃ l f, .frame l f ∈ ops ∧ e.IsTrueTo f := by
  intro ops e
  have hmem : e ∈ messages (run { settings := {} } ops).events := by decide +kernel
  obtain ⟨earlier, l, k, f, later, hops, -, -, htrue, -⟩ := labels_run {} .all ops e hmem
  have hf : .frame l f ∈ ops := by
    rw [hops]
    exact List.mem_append_right _ List.mem_cons_self
  exact ⟨hmem, l, f, hf, htrue (.inr rfl)⟩

/-- Listeners take the match for one of version 1.3, in which the frame does not say this. -/
theorem removal_mislabelled :
    let c := run { settings := {} } described
    let e := told (.flowRemoved { flowMatch := .raw (List.replicate 40 0) })
    messages (c.apply (.frame 0 removal)).events = messages c.events ++ [e] ∧
      Codec.decode removal.header removal.body = .ok e.message ∧
      removal.header.version = Version.v10 ∧ e.version = Version.v13 ∧ ¬ e.IsTrueTo removal := by
  refine ⟨?_, ?_, rfl, rfl, ?_⟩
  · decide +kernel
  · decide +kernel
  · decide +kernel

end SecondPort

end Controller

end Southbound
