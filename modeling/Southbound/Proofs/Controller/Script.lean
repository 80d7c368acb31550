import Mathlib.Data.List.Nodup
import Southbound.Proofs.Controller.Drift
import Southbound.Proofs.Controller.Speech

/-!
# The script of a handshake

Whatever a peer says, a session follows a script: it sends our hello and asks for features, and when
it has been told the features of a main connection it sends the configuration and asks for
descriptions (`Recital.sayings`). `Account` is what is always the case of what has been said so far,
and `Position` how it goes on, depending on the stage of the connection.
-/

namespace Southbound

open Relation (ReflTransGen)

/-! ## What is to be said -/

/-- The numbers that a handshake is left to choose. -/
structure Recital where
  /-- The transaction id of our hello. -/
  hello : Xid
  version : Version
  /-- The number of the transaction id of the features request. -/
  features : Nat
  /-- The number of the first transaction id of the requests that follow. -/
  requests : Nat

/-- The features request. -/
def Recital.question (r : Recital) : Saying := ⟨r.version, xidAt r.features, .featuresRequest⟩

/-- Our hello and the features request, then the configuration unless it is left out, and a request
for each description required. -/
def Recital.sayings (r : Recital) (s : Settings) : List Saying :=
  s.opening r.hello r.version r.features ++ numbered r.version r.requests (s.requests r.version)

/-- What has been said apart from answers to echo requests and errors. -/
def scripted (ss : List Saying) : List Saying := ss.filter (·.isScripted)

def errors (ss : List Saying) : List Saying := ss.filter (·.isError)

/-- The one error that can be said is that of a refusal, and then nothing else is. -/
def Refused (s : Settings) (ss : List Saying) : Prop :=
  errors ss = [] ∨ scripted ss = [] ∧ ∃ reason, errors ss = [s.refusal reason]

/-- The message ends the exchange that its transaction id belongs to. -/
def Message.endsExchange : Message → Bool
  | .multipartReply r => !r.hasMore
  | .error _ => true
  | _ => false

/-- The message tells the features of a switch, of which this is the main connection. -/
def Message.tellsMain : Message → Bool
  | .featuresReply f => f.auxiliaryId == 0
  | _ => false

/-- What is said in two parts is scripted part by part. -/
theorem scripted_append (ss more : List Saying) :
    scripted (ss ++ more) = scripted ss ++ scripted more := List.filter_append ss more

/-- So are the errors. -/
private theorem errors_append (ss more : List Saying) :
    errors (ss ++ more) = errors ss ++ errors more := List.filter_append ss more

/-- What is not scripted makes no difference to what is. -/
theorem scripted_append_of_nil {ss more : List Saying} (h : scripted more = []) :
    scripted (ss ++ more) = scripted ss := by
  rw [scripted_append, h, List.append_nil]

/-- Answers to echo requests are no part of the script. -/
theorem scripted_of_isEchoReply {ss : List Saying} (h : ∀ s ∈ ss, s.isEchoReply = true) :
    scripted ss = [] := List.filter_eq_nil_iff.2 fun s hs => by simp [Saying.isScripted, h s hs]

/-- Answers to echo requests are no errors. -/
private theorem errors_of_isEchoReply {ss : List Saying} (h : ∀ s ∈ ss, s.isEchoReply = true) :
    errors ss = [] := List.filter_eq_nil_iff.2 fun s hs => by
  have hecho := h s hs
  unfold Saying.isEchoReply at hecho
  unfold Saying.isError
  split at hecho
  · next heq => simp [heq]
  · cases hecho

/-- Neither is what is scripted. -/
private theorem errors_of_isScripted {ss : List Saying} (h : ∀ s ∈ ss, s.isScripted = true) :
    errors ss = [] := List.filter_eq_nil_iff.2 fun s hs herror => by
  have hscripted := h s hs
  simp [Saying.isScripted, herror] at hscripted

/-- All that a switch is sent once its features are known is scripted. -/
theorem isScripted_of_mem_requests {s : Settings} {v : Version} {n : Nat} {t : Saying}
    (h : t ∈ numbered v n (s.requests v)) : t.isScripted = true := by
  obtain ⟨-, hmessage⟩ := mem_numbered h
  rcases List.mem_append.1 hmessage with hconfig | hrequest
  · unfold Settings.configuration at hconfig
    split at hconfig
    · cases hconfig
    · simp [Saying.isScripted, Saying.isEchoReply, Saying.isError, List.mem_singleton.1 hconfig]
  · obtain ⟨kind, -, hkind⟩ := List.mem_map.1 hrequest
    simp [Saying.isScripted, Saying.isEchoReply, Saying.isError, ← hkind, DescriptionKind.request]

/-- The script is a part of itself. -/
theorem Recital.isScripted (r : Recital) {s : Settings} {t : Saying} (h : t ∈ r.sayings s) :
    t.isScripted = true := by
  rcases List.mem_append.1 h with hopen | hrequest
  · rcases List.mem_cons.1 hopen with rfl | hopen
    · rfl
    · rw [List.mem_singleton.1 hopen]
      rfl
  · exact isScripted_of_mem_requests hrequest

/-- The descriptions are asked for behind the configuration. -/
theorem Recital.mem_descriptions {r : Recital} {s : Settings} {t : Saying}
    (h : t ∈ r.sayings s) (ht : t.isDescription = true) :
    t ∈ numbered r.version (r.requests + s.configuration.length)
      ((DescriptionKind.requiredFor r.version).map (·.request)) := by
  rw [Recital.sayings, Settings.requests, numbered_append] at h
  rcases List.mem_append.1 h with hopen | h
  · rcases List.mem_cons.1 hopen with rfl | hopen
    · cases ht
    · rw [List.mem_singleton.1 hopen] at ht
      cases ht
  -- neither the opening nor the configuration asks for a description
  · refine (List.mem_append.1 h).resolve_left fun hconfig => ?_
    obtain ⟨-, hmessage⟩ := mem_numbered hconfig
    unfold Settings.configuration at hmessage
    split at hmessage
    · cases hmessage
    · simp [Saying.isDescription, List.mem_singleton.1 hmessage] at ht

/-- The script is scripted. -/
private theorem Recital.scripted_eq (r : Recital) {s : Settings} {ss : List Saying}
    (h : ∀ t ∈ ss, t ∈ r.sayings s) : scripted ss = ss :=
  List.filter_eq_self.2 fun t ht => r.isScripted (h t ht)

/-- No transaction id repeats among the first 2^32 - 1. -/
theorem xidAt_inj {i j : Nat} (hi : i < UInt32.size - 1) (hj : j < UInt32.size - 1)
    (h : xidAt i = xidAt j) : i = j := by
  by_contra hne
  rcases Nat.lt_or_gt_of_ne hne with hlt | hlt
  · exact xidAt_ne hlt (Nat.lt_of_lt_of_le hj (Nat.le_add_left _ i)) h
  · exact xidAt_ne hlt (Nat.lt_of_lt_of_le hi (Nat.le_add_left _ j)) h.symm

/-- What begins a numbered list of messages is numbered itself. -/
private theorem eq_numbered_of_prefix {v : Version} {n : Nat} {ms : List Message} {ss : List Saying}
    (h : ss <+: numbered v n ms) : ss = numbered v n (ms.take ss.length) := by
  induction ss generalizing n ms with
  | nil => rfl
  | cons s ss ih =>
    cases ms with
    | nil => cases List.prefix_nil.1 h
    | cons m ms =>
      obtain ⟨rfl, hrest⟩ := List.cons_prefix_cons.1 h
      exact congrArg _ (ih hrest)

/-- As far as it goes, the script asks under transaction ids that differ. -/
theorem Recital.nodup_xids (r : Recital) {s : Settings} {ss : List Saying}
    (h : ss <+: r.sayings s) (hlater : r.features < r.requests)
    (hdrawn : r.requests + (ss.length - 2) < UInt32.size) : (ss.tail.map (·.xid)).Nodup := by
  match ss, h with
  | [], _ => exact .nil
  | [_], _ => exact List.nodup_nil
  | hello :: question :: ss, h =>
    obtain ⟨-, hasked⟩ := List.cons_prefix_cons.1 h
    obtain ⟨hquestion, hrequests⟩ := List.cons_prefix_cons.1 hasked
    have hnumbered := eq_numbered_of_prefix hrequests
    have hlength : ss.length = ((s.requests r.version).take ss.length).length :=
      (congrArg List.length hnumbered).trans (length_numbered ..)
    -- the requests that were made are numbered one after the other
    have hrest : ss.map (·.xid) = (List.range' r.requests ss.length).map xidAt :=
      calc ss.map (·.xid)
        _ = (numbered r.version r.requests ((s.requests r.version).take ss.length)).map (·.xid) :=
          congrArg _ hnumbered
        _ = (List.range' r.requests ((s.requests r.version).take ss.length).length).map xidAt :=
          map_xid_numbered ..
        _ = (List.range' r.requests ss.length).map xidAt := by rw [← hlength]
    have hxids : (question :: ss).map (·.xid) =
        (r.features :: List.range' r.requests ss.length).map xidAt := by
      rw [List.map_cons, List.map_cons, hrest, hquestion]
    -- ids repeat only after a full round, and so many requests are never made
    have hbound : ∀ n ∈ r.features :: List.range' r.requests ss.length, n < UInt32.size - 1 := by
      have hend : r.requests + ss.length < UInt32.size := hdrawn
      intro n hn
      rcases List.mem_cons.1 hn with rfl | hn
      · omega
      · have := (List.mem_range'_1.1 hn).2
        omega
    show ((question :: ss).map (·.xid)).Nodup
    rw [hxids]
    refine List.Nodup.map_on (fun i hi j hj => xidAt_inj (hbound i hi) (hbound j hj)) ?_
    refine List.nodup_cons.2 ⟨fun hmem => ?_, List.nodup_range'⟩
    exact absurd (List.mem_range'_1.1 hmem).1 (Nat.not_le.2 hlater)

/-! ## Exchanges -/

namespace Descriptions

variable {d : Descriptions} {x y : Xid}

/-- Whoever asks expects an answer, and those that were expected still are. -/
private theorem isExpecting_expect (d : Descriptions) (x y : Xid) (kind : DescriptionKind)
    (h : y = x ∨ d.isExpecting y = true) : (d.expect x kind).isExpecting y = true := by
  unfold isExpecting at h ⊢
  rw [Keyed.has_iff, find?_expect]
  split
  · exact ⟨kind, rfl⟩
  · next hy => exact Keyed.has_iff.1 (h.resolve_left hy)

/-- An answer that was expected still is after more was asked. -/
private theorem isExpecting_expectAll (h : d.isExpecting x = true) (n : Nat)
    (kinds : List DescriptionKind) : (d.expectAll n kinds).isExpecting x = true := by
  induction kinds generalizing d n with
  | nil => exact h
  | cons kind kinds ih => exact ih (isExpecting_expect d _ x kind (.inr h)) (n + 1)

/-- Every request that was made is expected to be answered. -/
theorem isExpecting_of_mem {v : Version} {n : Nat} {kinds : List DescriptionKind} {s : Saying}
    (h : s ∈ numbered v n (kinds.map (·.request))) (d : Descriptions) :
    (d.expectAll n kinds).isExpecting s.xid = true := by
  induction kinds generalizing d n with
  | nil => cases h
  | cons kind kinds ih =>
    rcases List.mem_cons.1 h with rfl | h
    · exact isExpecting_expectAll (isExpecting_expect d _ _ kind (.inl rfl)) (n + 1) kinds
    · exact ih h (d.expect (xidAt n) kind)

/-- An exchange stays open until a message with its transaction id ends it. -/
theorem isExpecting_hear (h : d.isExpecting x = true) (y : Xid) (m : Message) :
    (d.hear y m).isExpecting x = true ∨ y = x ∧ m.endsExchange = true := by
  -- closing an exchange leaves the others open
  have hclose {d' : Descriptions} (hd' : d'.outstanding = d.outstanding) :
      (d'.close y).isExpecting x = true ∨ y = x := by
    by_cases hx : x = y
    · exact .inr hx.symm
    · refine .inl ?_
      unfold isExpecting at h ⊢
      rw [Keyed.has_iff, find?_close, if_neg hx, hd']
      exact Keyed.has_iff.1 h
  cases m with
  | multipartReply r =>
    simp only [Descriptions.hear, onReply]
    split
    · exact .inl h
    · next kind _ =>
      have hlearnt := outstanding_learn d kind r.body
      split
      · rw [isExpecting, hlearnt]
        exact .inl h
      · next hlast =>
        have hends : Message.endsExchange (.multipartReply r) = true := by
          simp [Message.endsExchange, hlast]
        exact (hclose hlearnt).imp_right fun hx => ⟨hx, hends⟩
  | error e =>
    simp only [Descriptions.hear, onError]
    split
    · exact .inl h
    · split
      · exact (hclose rfl).imp_right fun hx => ⟨hx, rfl⟩
      · exact (hclose rfl).imp_right fun hx => ⟨hx, rfl⟩
  | _ => exact .inl h

/-- When the descriptions are complete no answer is expected. -/
theorem not_isExpecting (h : d.isComplete = true) (x : Xid) : d.isExpecting x = false := by
  have hnil : d.outstanding = [] := List.isEmpty_iff.1 h
  rw [isExpecting, hnil]
  rfl

end Descriptions

namespace Controller

variable {c c' : Controller} {l : LinkId} {settings : Settings} {c₀ : Controller}
  {ops : List Operation} {sayings ss : List Saying} {r : Recital} {op : Operation} {f : Frame}

/-! ## What was heard and said -/

/-- What the session of connection `l` has queued in a run. -/
def spoken (l : LinkId) (c : Controller) : List Operation → List Bytes
  | [] => []
  | op :: ops =>
    (if speaker? op = some l then ((c.apply op).queue l).drop (c.queue l).length else []) ++
      spoken l (c.apply op) ops

/-- The first frame that arrives on connection `l`. -/
def firstFrame? (l : LinkId) (ops : List Operation) : Option Frame :=
  ops.findSome? fun
    | .frame j f => if j = l then some f else none
    | _ => none

/-- The version that the peer of connection `l` and we agree upon: the one that is negotiated if the
first that it says is hello. -/
def negotiated? (ours : List Version) (l : LinkId) (ops : List Operation) : Option Version :=
  match firstFrame? l ops with
  | none => none
  | some f =>
    match Codec.decode f.header f.body with
    | .ok (.hello listed) => negotiate ours f.header.version listed
    | _ => none

/-- What was asked was answered afterwards with a message of kind `p`. -/
def IsAnswered (p : Message → Bool) (l : LinkId) (c₀ : Controller) (ops : List Operation)
    (s : Saying) : Prop :=
  ∃ before f after m, ops = before ++ .frame l f :: after ∧
    (∃ frame ∈ spoken l c₀ before, s.IsFrame frame) ∧
    Codec.decode f.header f.body = .ok m ∧ f.header.xid = s.xid ∧ p m = true

/-- What was asked was answered to the end. -/
def IsEnded (l : LinkId) (c₀ : Controller) (ops : List Operation) (s : Saying) : Prop :=
  IsAnswered Message.endsExchange l c₀ ops s

/-- What was said is there as a frame. -/
private theorem exists_isFrame {frames : List Bytes} (h : List.Forall₂ Saying.IsFrame ss frames)
    {s : Saying} (hs : s ∈ ss) : ∃ frame ∈ frames, s.IsFrame frame := by
  induction h with
  | nil => cases hs
  | @cons _ frame _ _ hframe _ ih =>
    rcases List.mem_cons.1 hs with rfl | hs
    · exact ⟨frame, List.mem_cons_self, hframe⟩
    · exact (ih hs).imp fun _ h => h.imp_left (List.mem_cons_of_mem frame)

/-- What is queued in two parts of a run is queued one after the other. -/
theorem spoken_append (l : LinkId) (c : Controller) (ops more : List Operation) :
    spoken l c (ops ++ more) = spoken l c ops ++ spoken l (c.run ops) more := by
  induction ops generalizing c with
  | nil => rfl
  | cons op ops ih =>
    rw [List.cons_append, spoken, ih, ← List.append_assoc]
    rfl

/-- The session queues nothing in what others do. -/
theorem spoken_of_ne (hop : speaker? op ≠ some l) : spoken l c [op] = [] := by
  rw [spoken, if_neg hop]
  rfl

/-- What is queued in a frame is what was said in it. -/
theorem spoken_of_utters (h : Utters l c (c.handleFrame l f).1 ss) :
    List.Forall₂ Saying.IsFrame ss (spoken l c [.frame l f]) := by
  obtain ⟨frames, hframes, hqueue⟩ := h
  have hsame : spoken l c [.frame l f] = frames := by
    show (if some l = some l then ((c.handleFrame l f).1.queue l).drop _ else []) ++ [] = _
    rw [if_pos rfl, hqueue, List.drop_left, List.append_nil]
  rwa [hsame]

/-- The first frame is in the first part of a run if there is one. -/
theorem firstFrame?_append (l : LinkId) (ops more : List Operation) :
    firstFrame? l (ops ++ more) = (firstFrame? l ops).or (firstFrame? l more) :=
  List.findSome?_append

/-- There is none in what others do. -/
theorem firstFrame?_of_ne (hop : speaker? op ≠ some l) : firstFrame? l [op] = none := by
  cases op with
  | frame j f =>
    have hj : j ≠ l := fun hj => hop (congrArg some hj)
    simp [firstFrame?, hj]
  | _ => rfl

/-- What was negotiated stays negotiated. -/
theorem negotiated?_append {ours : List Version} {v : Version}
    (h : negotiated? ours l ops = some v) (more : List Operation) :
    negotiated? ours l (ops ++ more) = some v := by
  unfold negotiated? at h ⊢
  rw [firstFrame?_append]
  cases hf : firstFrame? l ops with
  | none =>
    rw [hf] at h
    cases h
  | some f =>
    rw [hf] at h
    exact h

/-- What was answered was answered whatever follows. -/
theorem IsAnswered.append {p : Message → Bool} {s : Saying} (h : IsAnswered p l c₀ ops s)
    (more : List Operation) : IsAnswered p l c₀ (ops ++ more) s := by
  obtain ⟨before, f, after, m, rfl, hrest⟩ := h
  exact ⟨before, f, after ++ more, m, by simp, hrest⟩

/-- Now that something was asked, this frame answers it. -/
theorem isAnswered_frame {p : Message → Bool} {s : Saying} {m : Message}
    (hframes : List.Forall₂ Saying.IsFrame sayings (spoken l c₀ ops))
    (hs : s ∈ scripted sayings) (hm : Codec.decode f.header f.body = .ok m)
    (hx : f.header.xid = s.xid) (hp : p m = true) :
    IsAnswered p l c₀ (ops ++ [.frame l f]) s :=
  ⟨ops, f, [], m, rfl, exists_isFrame hframes (List.mem_of_mem_filter hs), hm, hx, hp⟩

/-! ## Account and position -/

/-- What is always the case of what connection `l` has said by the end of a run from `c₀` on. -/
structure Account (settings : Settings) (l : LinkId) (c₀ : Controller) (ops : List Operation)
    (sayings : List Saying) (r : Recital) (c : Controller) : Prop where
  refused : Refused settings sayings
  recites : scripted sayings <+: r.sayings settings
  later : r.features < r.requests
  drawn : scripted sayings ≠ [] → r.requests + ((scripted sayings).length - 2) ≤ c.drawn
  negotiated : scripted sayings ≠ [] → negotiated? settings.versions l ops = some r.version
  /-- More than hello and the features request is said to a switch that has told its features. -/
  answered : 2 < (scripted sayings).length → IsAnswered Message.tellsMain l c₀ ops r.question
  registered : ∀ d, c.registry.find? d = some l → scripted sayings = r.sayings settings ∧
    ∀ s ∈ r.sayings settings, s.isDescription = true → IsEnded l c₀ ops s
  unbound : (scripted sayings).length < 2 → c.outline.Unbound l

/-- Where in the script a connection is. -/
inductive Position (settings : Settings) (l : LinkId) (c₀ : Controller) (ops : List Operation)
    (sayings : List Saying) (r : Recital) (k : LinkOutline) : Prop
  | unheard (hs : k.stage = .versionNegotiating) (hnone : firstFrame? l ops = none)
      (hss : sayings = [])
  | greeted (hs : k.stage = .basicHandshake)
      (hss : scripted sayings = settings.opening r.hello r.version r.features)
      (hv : k.version = r.version) (hx : k.featuresXid = some (xidAt r.features))
  | asked (hs : k.stage = .extendedHandshake) (hss : scripted sayings = r.sayings settings)
      (hopen : ∀ s ∈ r.sayings settings, s.isDescription = true →
        k.descriptions.isExpecting s.xid = true ∨ IsEnded l c₀ ops s)
  | past (hs : k.IsSettled)

/-- Nothing of the script is said. -/
theorem Account.next (h : Account settings l c₀ ops sayings r c) (op : Operation)
    (hss : scripted ss = []) (hrefused : Refused settings (sayings ++ ss))
    (hdrawn : c.drawn ≤ c'.drawn)
    (hregistered : ∀ d, c'.registry.find? d = some l → c.registry.find? d = some l ∨
      scripted sayings = r.sayings settings ∧
        ∀ s ∈ r.sayings settings, s.isDescription = true → IsEnded l c₀ (ops ++ [op]) s)
    (hunbound : (scripted sayings).length < 2 → c'.outline.Unbound l) :
    Account settings l c₀ (ops ++ [op]) (sayings ++ ss) r c' := by
  -- nothing of the script was said, so every account of it stands, only over a longer past
  have hsame : scripted (sayings ++ ss) = scripted sayings := scripted_append_of_nil hss
  refine ⟨hrefused, hsame ▸ h.recites, h.later, fun hne => ?_, fun hne => ?_, fun hlt => ?_,
    fun d hd => ?_, fun hlt => hunbound (hsame ▸ hlt)⟩
  · rw [hsame] at hne ⊢
    exact Nat.le_trans (h.drawn hne) hdrawn
  · exact negotiated?_append (h.negotiated (hsame ▸ hne)) [op]
  · exact (h.answered (hsame ▸ hlt)).append [op]
  · rw [hsame]
    rcases hregistered d hd with hd | hends
    · exact (h.registered d hd).imp_right fun hended s hs hrequest =>
        (hended s hs hrequest).append [op]
    · exact hends

/-- The script is begun, since a version was agreed upon. -/
theorem Account.opens {r' : Recital}
    (hss : ss <+: settings.opening r'.hello r'.version r'.features)
    (hlater : r'.features < r'.requests) (hdrawn : ss ≠ [] → r'.requests ≤ c.drawn)
    (hv : negotiated? settings.versions l ops = some r'.version)
    (hregistered : ∀ d, c.registry.find? d ≠ some l) (hunbound : c.outline.Unbound l) :
    Account settings l c₀ ops ss r' c := by
  have hmem : ∀ t ∈ ss, t ∈ r'.sayings settings := fun t ht =>
    List.mem_append_left _ (hss.subset ht)
  have hscripted : scripted ss = ss := r'.scripted_eq hmem
  -- at most the hello and the features request, so nothing has to be answered yet
  have hlength : ss.length ≤ 2 := hss.length_le
  exact {
    refused := .inl (errors_of_isScripted fun t ht => r'.isScripted (hmem t ht))
    recites := hscripted.symm ▸ hss.trans (List.prefix_append _ _)
    later := hlater
    drawn := fun hne => by
      rw [hscripted] at hne ⊢
      have := hdrawn hne
      omega
    negotiated := fun _ => hv
    answered := fun hlt => by
      rw [hscripted] at hlt
      omega
    registered := fun d hd => absurd hd (hregistered d)
    unbound := fun _ => hunbound }

/-- The script is gone on with, since the switch has told its features. -/
theorem Account.asks (h : Account settings l c₀ ops sayings r c)
    (hopening : scripted sayings = settings.opening r.hello r.version r.features) {n : Nat}
    (hn : c.drawn ≤ n) (hss : ss <+: numbered r.version n (settings.requests r.version))
    (hdrawn : n + ss.length ≤ c'.drawn)
    (hanswered : IsAnswered Message.tellsMain l c₀ (ops ++ [op]) r.question)
    (hregistered : ∀ d, c'.registry.find? d ≠ some l) :
    Account settings l c₀ (ops ++ [op]) (sayings ++ ss) { r with requests := n } c' := by
  have hne : scripted sayings ≠ [] := by
    rw [hopening]
    nofun
  have hmem : ∀ t ∈ ss, t.isScripted = true := fun t ht =>
    isScripted_of_mem_requests (hss.subset ht)
  -- the opening was said in full, so what is said now comes right after it
  have hscripted : scripted (sayings ++ ss) =
      settings.opening r.hello r.version r.features ++ ss := by
    rw [scripted_append, hopening]
    exact congrArg _ (List.filter_eq_self.2 hmem)
  have hlength : (scripted (sayings ++ ss)).length = ss.length + 2 := by
    rw [hscripted]
    rfl
  exact {
    refused := .inl <| by
      rw [errors_append, errors_of_isScripted hmem, List.append_nil]
      exact h.refused.resolve_right fun hnothing => hne hnothing.1
    recites := hscripted.symm ▸ (List.prefix_append_right_inj _).2 hss
    later := Nat.lt_of_lt_of_le h.later
      (Nat.le_trans (Nat.le_trans (Nat.le_add_right _ _) (h.drawn hne)) hn)
    drawn := fun _ => by
      rw [hlength]
      exact hdrawn
    negotiated := fun _ => negotiated?_append (h.negotiated hne) [op]
    answered := fun _ => hanswered
    registered := fun d hd => absurd hd (hregistered d)
    unbound := fun hlt => by omega }

/-- The answers to echo requests are no refusals. -/
theorem Account.refused_append (h : Account settings l c₀ ops sayings r c)
    (hss : ∀ s ∈ ss, s.isEchoReply = true) : Refused settings (sayings ++ ss) := by
  have hscripted : scripted (sayings ++ ss) = scripted sayings :=
    scripted_append_of_nil (scripted_of_isEchoReply hss)
  have herrors : errors (sayings ++ ss) = errors sayings := by
    rw [errors_append, errors_of_isEchoReply hss, List.append_nil]
  rw [Refused, hscripted, herrors]
  exact h.refused

/-- The rest of the state does not matter. -/
theorem Account.congr (h : Account settings l c₀ ops sayings r c) (hdrawn : c.drawn ≤ c'.drawn)
    (hregistered : ∀ d, c'.registry.find? d = some l → c.registry.find? d = some l)
    (hdrifts : c.outline.Drifts l c'.outline) (hlink : ∃ k, c.outline.link? l = some k) :
    Account settings l c₀ ops sayings r c' where
  refused := h.refused
  recites := h.recites
  later := h.later
  drawn hne := Nat.le_trans (h.drawn hne) hdrawn
  negotiated := h.negotiated
  answered := h.answered
  registered d hd := h.registered d (hregistered d hd)
  unbound hlt := (h.unbound hlt).drifts hlink hdrifts

/-- What others do changes nothing about where a connection is, unless it comes to an end. -/
theorem Position.drifts {k k' : LinkOutline} (h : Position settings l c₀ ops sayings r k)
    (hk : k.Drifts k') : Position settings l c₀ ops sayings r k' := by
  -- a drift leaves the stage, or ends the handshake
  rcases hk.stage with hstage | hsettled
  · cases h with
    | unheard hs hnone hss => exact .unheard (hstage.trans hs) hnone hss
    | greeted hs hss hv hx =>
      exact .greeted (hstage.trans hs) hss (hk.version.trans hv) (hk.featuresXid.trans hx)
    | asked hs hss hopen =>
      rw [← hk.descriptions] at hopen
      exact .asked (hstage.trans hs) hss hopen
    | past hs =>
      rw [LinkOutline.IsSettled, ← hstage] at hs
      exact .past hs
  · exact .past hsettled

/-- A position stays what it is while nothing scripted is said. -/
theorem Position.next {k : LinkOutline} (h : Position settings l c₀ ops sayings r k)
    (hss : scripted ss = [])
    (hheard : k.stage ≠ .versionNegotiating ∨ firstFrame? l [op] = none ∧ ss = []) :
    Position settings l c₀ (ops ++ [op]) (sayings ++ ss) r k := by
  have hsame : scripted (sayings ++ ss) = scripted sayings := scripted_append_of_nil hss
  cases h with
  | unheard hs hnone hnothing =>
    obtain ⟨hop, rfl⟩ := hheard.resolve_left fun hne => hne hs
    exact .unheard hs (by rw [firstFrame?_append, hnone, hop]; rfl) (by rw [hnothing]; rfl)
  | greeted hs hopening hv hx => exact .greeted hs (hsame.trans hopening) hv hx
  | asked hs hall hopen =>
    exact .asked hs (hsame.trans hall) fun s hmem hrequest =>
      (hopen s hmem hrequest).imp_right fun hended => hended.append [op]
  | past hs => exact .past hs

/-- The stage tells how far the script is. -/
theorem Position.stages {k : LinkOutline} (h : Position settings l c₀ ops sayings r k) :
    (k.stage = .versionNegotiating → firstFrame? l ops = none ∧ sayings = []) ∧
    (k.stage = .basicHandshake →
      scripted sayings = settings.opening r.hello r.version r.features) ∧
    (k.stage = .extendedHandshake → scripted sayings = r.sayings settings) := by
  cases h with
  | unheard hs hnone hss => simp [hs, hnone, hss]
  | greeted hs hopening => simp [hs, hopening]
  | asked hs hall => simp [hs, hall]
  | past hs =>
    exact ⟨fun hs' => absurd hs (LinkOutline.not_isSettled (.inr (.inl hs'))),
      fun hs' => absurd hs (LinkOutline.not_isSettled (.inr (.inr (.inl hs')))),
      fun hs' => absurd hs (LinkOutline.not_isSettled (.inr (.inr (.inr hs'))))⟩

end Controller

end Southbound
