import Southbound.Proofs.Wire.Texts

/-!
# Texts cut to fit a field

A text that is too long for its field is cut after a number of bytes. Where that is between two
characters the beginning of the text is read back, but a character that the cut goes through is read
as a replacement character, which the text need not have (`read_shortened_iff`, `severed_name`).
-/

namespace Southbound.FixedText

variable {capacity : Nat} {s : String} {good : List Char} {c : Char}

/-- The text is too long for the field, and its cut goes through the character `c`, which comes
behind `good`. -/
def Severs (capacity : Nat) (s : String) (good : List Char) (c : Char) : Prop :=
  Utf8.Severs (capacity - 1) s.toList good c

/-- A field ends in a zero byte, however long the text. -/
theorem getLast?_encode (h : 0 < capacity) (s : String) :
    (encode capacity s).getLast? = some 0 := by
  have hroom : capacity - ((Utf8.encode s).take (capacity - 1)).length ≠ 0 := by
    rw [List.length_take]
    omega
  rw [encode, Write.zeros, List.getLast?_append, List.getLast?_replicate, if_neg hroom]
  rfl

/-- What is kept of a text whose cut goes through a character. -/
theorem kept_of_severs (hnul : NulFree s) (h : Severs capacity s good c) :
    kept capacity s = String.ofList (good ++ [Utf8.replacement]) := by
  obtain ⟨piece, hpiece, hcut⟩ := h.exists_take
  rw [kept_eq_decode hnul, Utf8.encode_eq, hcut, Utf8.decode, Utf8.decodeChars_encodeChars_append,
    hpiece.decodeChars]

/-- The beginning of a text is kept, or its cut goes through a character. -/
theorem kept_cases (hnul : NulFree s) :
    ((kept capacity s).toList <+: s.toList ∧
      Utf8.encode (kept capacity s) = (Utf8.encode s).take (capacity - 1)) ∨
    ∃ good c, Severs capacity s good c := by
  rcases Utf8.take_encodeChars_cases s.toList (capacity - 1) with ⟨good, hgood, hcut⟩ | hsevers
  · rw [← Utf8.encode_eq, ← Utf8.encode_ofList] at hcut
    rw [kept_eq_decode hnul, hcut, Utf8.decode_encode, String.toList_ofList]
    exact .inl ⟨hgood, rfl⟩
  · exact .inr hsevers

/-- What is kept of a text is the beginning that its bytes in the field stand for, if and only if
the cut goes through no character. -/
theorem kept_whole_iff (hnul : NulFree s) :
    ((kept capacity s).toList <+: s.toList ∧
      Utf8.encode (kept capacity s) = (Utf8.encode s).take (capacity - 1)) ↔
    ∀ good c, ¬ Severs capacity s good c := by
  constructor
  · rintro ⟨hbegins, hcut⟩ good c h
    exact h.take_ne hbegins hcut.symm
  · intro hnone
    rcases kept_cases hnul with hwhole | ⟨good, c, h⟩
    · exact hwhole
    · exact absurd h (hnone good c)

/-- What is kept of a text is its beginning if and only if the cut goes through no character, or
through one that looks the same when it is replaced. -/
theorem kept_isPrefix_iff (hnul : NulFree s) : (kept capacity s).toList <+: s.toList ↔
    ∀ good c, Severs capacity s good c → c = Utf8.replacement := by
  constructor
  -- a severed character is replaced, so the two texts agree there only if it is the replacement
  · intro hbegins good c h
    rw [kept_of_severs hnul h, String.toList_ofList] at hbegins
    have heq :=
      (List.prefix_of_prefix_length_le hbegins h.isPrefix (by simp)).eq_of_length (by simp)
    exact (List.singleton_inj.1 (List.append_cancel_left heq)).symm
  · intro hcut
    rcases kept_cases hnul with hwhole | ⟨good, c, h⟩
    · exact hwhole.1
    · obtain rfl := hcut good c h
      rw [kept_of_severs hnul h, String.toList_ofList]
      exact h.isPrefix

/-- All characters of what is kept are from the text if and only if the cut goes through no
character, or the text has a replacement character somewhere. -/
theorem kept_subset_iff (hnul : NulFree s) : (kept capacity s).toList ⊆ s.toList ↔
    ∀ good c, Severs capacity s good c → Utf8.replacement ∈ s.toList := by
  constructor
  -- the replacement has to stand somewhere in the text
  · intro hsubset good c h
    rw [kept_of_severs hnul h, String.toList_ofList] at hsubset
    exact hsubset List.mem_concat_self
  · intro hcut
    rcases kept_cases hnul with hwhole | ⟨good, c, h⟩
    · exact hwhole.1.subset
    · rw [kept_of_severs hnul h, String.toList_ofList]
      refine List.append_subset.2 ⟨?_, by simpa using hcut good c h⟩
      exact ((List.prefix_append good [c]).trans h.isPrefix).subset

/-- A text without NUL takes up exactly the bytes of its field, the last of which is zero, and is
read back if it fits. If the cut of a longer one goes through no character, what is read is its
beginning, as much of it as there are bytes for; but a character that the cut goes through is read
as a replacement character. So a text is shortened and not altered if and only if the cut goes
through none, or through one that looks the same when it is replaced. -/
theorem read_shortened_iff (hcapacity : 0 < capacity) (hnul : NulFree s) :
    (encode capacity s).length = capacity ∧ (encode capacity s).getLast? = some 0 ∧
    ∃ t, (∀ tail, read capacity (encode capacity s ++ tail) = .ok (t, tail)) ∧
      (Fits capacity s → t = s) ∧
      (t.toList <+: s.toList ∧ Utf8.encode t = (Utf8.encode s).take (capacity - 1) ↔
        ∀ good c, ¬ Severs capacity s good c) ∧
      (∀ good c, Severs capacity s good c → t = String.ofList (good ++ [Utf8.replacement])) ∧
      (t.toList <+: s.toList ↔
        ∀ good c, Severs capacity s good c → c = Utf8.replacement) ∧
      (t.toList ⊆ s.toList ↔
        ∀ good c, Severs capacity s good c → Utf8.replacement ∈ s.toList) :=
  ⟨length_encode capacity s, getLast?_encode hcapacity s, kept capacity s,
    read_append hcapacity s, kept_eq_self hnul, kept_whole_iff hnul,
    fun _ _ => kept_of_severs hnul, kept_isPrefix_iff hnul, kept_subset_iff hnul⟩

/-- A text that is cut in front of its last character. -/
theorem read_shortened_between : 0 < 4 ∧ NulFree "süd" ∧ ¬ Fits 4 "süd" ∧
    ∀ tail, read 4 (encode 4 "süd" ++ tail) = .ok ("sü", tail) := by
  have hnul : NulFree "süd" := by decide
  obtain ⟨-, -, t, hread, -, hwhole, -⟩ := read_shortened_iff (show 0 < 4 by decide) hnul
  have hbetween : ∀ good c, ¬ Severs 4 "süd" good c := fun good c h =>
    h.take_ne (show "sü".toList <+: "süd".toList by decide) (by decide)
  -- what is read is written in the bytes that are left of the text
  obtain rfl : t = "sü" := by
    rw [← Utf8.decode_encode t, (hwhole.2 hbetween).2, ← Utf8.decode_encode "sü"]
    rfl
  exact ⟨by decide, hnul, by decide, hread⟩

/-- The name of a port, whose `ü` has one byte on either side of the cut. -/
theorem severed_name : NulFree "uplink-köln-süd-2" ∧
    (∀ tail, read 16 (encode 16 "uplink-köln-süd-2" ++ tail) = .ok ("uplink-köln-s\uFFFD", tail)) ∧
    ¬ "uplink-köln-s\uFFFD".toList <+: "uplink-köln-süd-2".toList ∧
    ¬ "uplink-köln-s\uFFFD".toList ⊆ "uplink-köln-süd-2".toList := by
  have hnul : NulFree "uplink-köln-süd-2" := by decide
  have hsevers : Severs 16 "uplink-köln-süd-2" "uplink-köln-s".toList 'ü' :=
    ⟨by decide, by decide, by decide⟩
  refine ⟨hnul, fun tail => ?_, by decide, by decide⟩
  rw [read_append (by decide), kept_of_severs hnul hsevers]
  rfl

end Southbound.FixedText
