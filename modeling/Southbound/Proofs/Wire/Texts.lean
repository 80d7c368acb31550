import Southbound.Proofs.Text.Utf8
import Southbound.Proofs.Wire.V10

/-!
# Texts in fields of fixed size

A field keeps whole characters of a text and perhaps a replacement for one that was cut, and a
second pass through the field changes nothing more:

* `FixedText.kept_eq_self`  a text without NUL that fits is kept
* `FixedText.kept_kept`     what is kept of a text is kept of it again
* `Message.mapTexts_congr`  a message depends on its texts, and on nothing else that `mapTexts`
  changes
-/

namespace Southbound

namespace FixedText

/-- No character of the text is NUL. -/
def NulFree (s : String) : Prop := ∀ c ∈ s.toList, c ≠ '\x00'

instance (s : String) : Decidable (NulFree s) :=
  List.decidableBAll (fun c => c ≠ '\x00') s.toList

/-- The text fits into a field with a zero byte behind it. -/
def Fits (capacity : Nat) (s : String) : Prop := (Utf8.encode s).length ≤ capacity - 1

instance (capacity : Nat) (s : String) : Decidable (Fits capacity s) :=
  inferInstanceAs (Decidable ((Utf8.encode s).length ≤ capacity - 1))

variable {capacity : Nat} {s : String}

/-- There is no NUL in what is read from a field. -/
theorem nulFree_decode (field : Bytes) : NulFree (decode field) := by
  have hbytes : ∀ b ∈ field.takeWhile (· ≠ 0), b ≠ 0 := fun b hb => by
    simpa using List.mem_takeWhile_imp hb
  rw [NulFree, decode, Utf8.decode, String.toList_ofList]
  exact Utf8.ne_nul_of_mem_decodeChars hbytes

/-- Without NUL there is no end to a text but its cut. -/
theorem kept_eq_decode (hnul : NulFree s) :
    kept capacity s = Utf8.decode ((Utf8.encode s).take (capacity - 1)) := by
  have hbytes : ∀ b ∈ (Utf8.encode s).take (capacity - 1), b ≠ 0 :=
    fun b hb => Utf8.encodeChars_ne_zero hnul b (List.mem_of_mem_take hb)
  rw [kept, List.takeWhile_eq_self_iff.2 (by simpa using hbytes)]

/-- A text without NUL that fits is kept. -/
theorem kept_eq_self (hnul : NulFree s) (hfits : Fits capacity s) : kept capacity s = s := by
  rw [kept_eq_decode hnul, List.take_of_length_le hfits, Utf8.decode_encode]

/-- The form of what is kept of a text. -/
theorem exists_kept (capacity : Nat) (s : String) :
    ∃ good tail, kept capacity s = String.ofList (good ++ tail) ∧ (∀ c ∈ good, c ≠ '\x00') ∧
      (tail = [] ∧ (Utf8.encodeChars good).length ≤ capacity - 1 ∨
        tail = [Utf8.replacement] ∧ (Utf8.encodeChars good).length < capacity - 1) := by
  obtain ⟨cs, piece, hcut, hpiece⟩ := Utf8.exists_take_encodeChars s.toList (capacity - 1)
  have hlength : (Utf8.encodeChars cs).length + piece.length ≤ capacity - 1 := by
    rw [← List.length_append, ← hcut]
    exact List.length_take_le _ _
  -- the bytes of a cut character hold no zero, so they end no text
  have hnonzero : ∀ b ∈ piece, b ≠ 0 := by
    rcases hpiece with rfl | hpiece
    · exact List.forall_mem_nil _
    · exact hpiece.ne_zero
  have hgood : (Utf8.encodeChars (cs.takeWhile (· ≠ '\x00'))).length ≤
      (Utf8.encodeChars cs).length := Utf8.length_encodeChars_le (List.takeWhile_prefix _)
  have hread : kept capacity s = String.ofList (cs.takeWhile (· ≠ '\x00') ++
      Utf8.decodeChars (if '\x00' ∈ cs then [] else piece)) := by
    rw [kept, Utf8.encode_eq, hcut, Utf8.takeWhile_encodeChars_append cs hnonzero, Utf8.decode,
      Utf8.decodeChars_encodeChars_append]
  refine ⟨_, _, hread, fun c hc => by simpa using List.mem_takeWhile_imp hc, ?_⟩
  split
  · exact .inl ⟨by rw [Utf8.decodeChars], by omega⟩
  -- a zero in the text ends it before the cut; else the cut piece is read as one replacement
  · rcases hpiece with rfl | hpiece
    · exact .inl ⟨by rw [Utf8.decodeChars], by omega⟩
    · have hpos := Utf8.length_pos_of_isPiece hpiece
      exact .inr ⟨hpiece.decodeChars, by omega⟩

/-- Whatever is left of a replacement character is read as one. -/
theorem decodeChars_take_replacement {n : Nat} (h : 0 < n) :
    Utf8.decodeChars ((String.utf8EncodeChar Utf8.replacement).take n) = [Utf8.replacement] := by
  rcases Nat.lt_or_ge n (String.utf8EncodeChar Utf8.replacement).length with hlt | hge
  · exact Utf8.IsPiece.decodeChars ⟨_, n, h, hlt, rfl⟩
  · have hchar := Utf8.decodeChars_encodeChar_append Utf8.replacement []
    rw [Utf8.decodeChars, List.append_nil] at hchar
    rw [List.take_of_length_le hge, hchar]

/-- What is kept of a text is kept of it again. -/
theorem kept_kept (capacity : Nat) (s : String) :
    kept capacity (kept capacity s) = kept capacity s := by
  obtain ⟨good, tail, hkept, hgood, htail⟩ := exists_kept capacity s
  rw [hkept]
  rcases htail with ⟨rfl, hlength⟩ | ⟨rfl, hlength⟩
  · rw [List.append_nil]
    refine kept_eq_self ?_ ?_
    · rw [NulFree, String.toList_ofList]
      exact hgood
    · rw [Fits, Utf8.encode_ofList]
      exact hlength
  · -- the replacement may be cut in turn, but what is left of it is read as a replacement
    have hnul : NulFree (String.ofList (good ++ [Utf8.replacement])) := by
      rw [NulFree, String.toList_ofList]
      exact List.forall_mem_append.2 ⟨hgood, List.forall_mem_singleton.2 (by decide)⟩
    rw [kept_eq_decode hnul, Utf8.encode_ofList, Utf8.encodeChars_append,
      Utf8.encodeChars_singleton, List.take_append, List.take_of_length_le hlength.le, Utf8.decode,
      Utf8.decodeChars_encodeChars_append, decodeChars_take_replacement (by omega)]

end FixedText

/-! ## The texts of a message -/

def Port.mapTexts (f : Nat → String → String) (p : Port) : Port := { p with name := f 16 p.name }

def DeviceDescriptor.mapTexts (f : Nat → String → String) (d : DeviceDescriptor) :
    DeviceDescriptor where
  manufacturer := f 256 d.manufacturer
  hardware := f 256 d.hardware
  software := f 256 d.software
  serialNumber := f 32 d.serialNumber
  description := f 256 d.description

def Port.text (p : Port) : Nat × String := (16, p.name)

def DeviceDescriptor.texts (d : DeviceDescriptor) : List (Nat × String) :=
  [(256, d.manufacturer), (256, d.hardware), (256, d.software), (32, d.serialNumber),
    (256, d.description)]

namespace MultipartBody

def mapTexts (f : Nat → String → String) : MultipartBody → MultipartBody
  | .desc d => .desc (d.mapTexts f)
  | .ports ps => .ports (ps.map (Port.mapTexts f))
  | .raw bytes => .raw bytes

def texts : MultipartBody → List (Nat × String)
  | .desc d => d.texts
  | .ports ps => ps.map Port.text
  | .raw _ => []

end MultipartBody

namespace Message

/-- The message with other texts: each becomes what `f` makes of the size of its field and of it. -/
def mapTexts (f : Nat → String → String) : Message → Message
  | .featuresReply r => .featuresReply { r with ports := r.ports.map (Port.mapTexts f) }
  | .portStatus s => .portStatus { s with port := s.port.mapTexts f }
  | .multipartReply r => .multipartReply { r with body := r.body.mapTexts f }
  | m => m

/-- The texts in fields of fixed size, each with the size of its field. -/
def texts : Message → List (Nat × String)
  | .featuresReply r => r.ports.map Port.text
  | .portStatus s => [s.port.text]
  | .multipartReply r => r.body.texts
  | _ => []

variable {f g : Nat → String → String} {m : Message}

/-- A message depends on its texts, and on nothing else that `mapTexts` changes. -/
theorem mapTexts_congr (h : ∀ t ∈ m.texts, f t.1 t.2 = g t.1 t.2) :
    m.mapTexts f = m.mapTexts g := by
  -- texts occur in ports and in the descriptor only
  have hport {p : Port} (hp : f p.text.1 p.text.2 = g p.text.1 p.text.2) :
      p.mapTexts f = p.mapTexts g := congrArg (fun name => { p with name }) hp
  have hports {ps : List Port} (hps : ∀ t ∈ ps.map Port.text, f t.1 t.2 = g t.1 t.2) :
      ps.map (Port.mapTexts f) = ps.map (Port.mapTexts g) :=
    List.map_congr_left fun p hp => hport (hps _ (List.mem_map_of_mem hp))
  cases m with
  | featuresReply r =>
    exact congrArg (fun ports => featuresReply { r with ports }) (hports h)
  | portStatus s =>
    exact congrArg (fun port => portStatus { s with port }) (hport (h _ List.mem_cons_self))
  | multipartReply r =>
    obtain ⟨kind, flags, body⟩ := r
    cases body with
    | desc d =>
      simp only [texts, MultipartBody.texts, DeviceDescriptor.texts, List.forall_mem_cons] at h
      obtain ⟨h1, h2, h3, h4, h5, -⟩ := h
      simp only [mapTexts, MultipartBody.mapTexts, DeviceDescriptor.mapTexts, h1, h2, h3, h4, h5]
    | ports ps =>
      exact congrArg (fun ps => multipartReply ⟨kind, flags, .ports ps⟩) (hports h)
    | raw bytes => rfl
  | _ => rfl

/-- To leave the texts as they are is to leave the message as it is. -/
private theorem mapTexts_id : m.mapTexts (fun _ s => s) = m := by
  have hports (ps : List Port) : ps.map (Port.mapTexts fun _ s => s) = ps := List.map_id ps
  cases m with
  | featuresReply r => rw [mapTexts, hports]
  | multipartReply r =>
    obtain ⟨kind, flags, body⟩ := r
    cases body with
    | ports ps => rw [mapTexts, MultipartBody.mapTexts, hports]
    | _ => rfl
  | _ => rfl

/-- Texts can be changed in two steps. -/
theorem mapTexts_mapTexts : (m.mapTexts f).mapTexts g = m.mapTexts fun n s => g n (f n s) := by
  have hports (ps : List Port) : (ps.map (Port.mapTexts f)).map (Port.mapTexts g) =
      ps.map (Port.mapTexts fun n s => g n (f n s)) := List.map_map
  cases m with
  | featuresReply r => simp only [mapTexts, hports]
  | multipartReply r =>
    obtain ⟨kind, flags, body⟩ := r
    cases body with
    | ports ps => simp only [mapTexts, MultipartBody.mapTexts, hports]
    | _ => rfl
  | _ => rfl

/-- A message whose texts stay as they are is the same message. -/
theorem mapTexts_eq_self (h : ∀ t ∈ m.texts, f t.1 t.2 = t.2) : m.mapTexts f = m :=
  (mapTexts_congr h).trans mapTexts_id

end Message

end Southbound
