import Mathlib.Data.List.TakeWhile
import Mathlib.Tactic.IntervalCases
import Mathlib.Tactic.Ring
import Southbound.Text.Utf8

/-!
# Reading UTF-8 that was written, cut or not

A character is read back from the front of any bytes, and what is left of it when its last bytes are
cut off is read as one replacement character.

* `decode_encode`             a text is read back
* `IsPiece.decodeChars`       what a cut leaves of a character
* `take_encodeChars_cases`    a cut leaves whole characters, or it goes through one
* `exists_take_encodeChars`   so it leaves whole characters and at most one such piece
* `ne_nul_of_mem_decodeChars` bytes other than zero are not read as the character NUL
-/

namespace Southbound.Utf8

variable {n low high acc v k : Nat} {bs : Bytes}

/-! ## Continuation bytes -/

/-- The first continuation byte. -/
theorem continuation_cons_eq {b : UInt8} :
    continuation (n + 1) low high acc (b :: bs) = (k, some v) ↔
      (low ≤ b.toNat ∧ b.toNat ≤ high) ∧ ∃ j, k = j + 1 ∧
        continuation n 0x80 0xBF (64 * acc + (b.toNat - 0x80)) bs = (j, some v) := by
  rw [continuation]
  split
  · next hrange =>
    constructor
    · intro h
      simp only [Prod.mk.injEq] at h
      exact ⟨hrange, _, h.1.symm, Prod.ext rfl h.2⟩
    · rintro ⟨-, j, rfl, h⟩
      rw [h]
  · next hrange => exact ⟨fun h => (by cases h), fun h => absurd h.1 hrange⟩

/-- Continuation bytes that fit are not affected by what comes behind them. -/
theorem continuation_append (h : continuation n low high acc bs = (n, some v)) (tail : Bytes) :
    continuation n low high acc (bs ++ tail) = (n, some v) := by
  -- the bounds hold for the first byte only, so they are general in the induction
  induction n generalizing low high acc bs with
  | zero =>
    rw [continuation] at h ⊢
    exact h
  | succ n ih =>
    cases bs with
    | nil => cases h
    | cons b bs =>
      obtain ⟨hrange, j, hj, hrest⟩ := continuation_cons_eq.1 h
      obtain rfl := Nat.succ.inj hj
      exact continuation_cons_eq.2 ⟨hrange, n, rfl, ih hrest⟩

/-- Some of the continuation bytes fit as far as they go. -/
theorem continuation_take (h : continuation n low high acc bs = (n, some v)) (hk : k < n) :
    continuation n low high acc (bs.take k) = (k, none) := by
  induction n generalizing low high acc bs k with
  | zero => omega
  | succ n ih =>
    cases bs with
    | nil => cases h
    | cons b bs =>
      obtain ⟨hrange, j, hj, hrest⟩ := continuation_cons_eq.1 h
      obtain rfl := Nat.succ.inj hj
      cases k with
      -- nothing of it was read, and that is where it stops
      | zero => rfl
      | succ k => rw [List.take_succ_cons, continuation, if_pos hrange, ih hrest (by omega)]

/-- Continuation bytes carry six bits each. -/
theorem bounds_of_continuation (h : continuation n 0x80 0xBF acc bs = (k, some v)) :
    acc * 64 ^ n ≤ v ∧ v < (acc + 1) * 64 ^ n := by
  -- each byte brings six bits, so the value grows inside the interval that `acc` allows
  induction n generalizing acc bs k with
  | zero =>
    rw [continuation] at h
    obtain rfl := Option.some.inj (congrArg Prod.snd h)
    omega
  | succ n ih =>
    cases bs with
    | nil => cases h
    | cons b bs =>
      obtain ⟨hrange, j, -, hrest⟩ := continuation_cons_eq.1 h
      obtain ⟨hlow, hhigh⟩ := ih hrest
      constructor
      · calc acc * 64 ^ (n + 1) = 64 * acc * 64 ^ n := by ring
          _ ≤ (64 * acc + (b.toNat - 0x80)) * 64 ^ n := Nat.mul_le_mul_right _ (by omega)
          _ ≤ v := hlow
      · calc v < (64 * acc + (b.toNat - 0x80) + 1) * 64 ^ n := hhigh
          _ ≤ (64 * acc + 64) * 64 ^ n := Nat.mul_le_mul_right _ (by omega)
          _ = (acc + 1) * 64 ^ (n + 1) := by ring

/-- The first of them says more where its range is smaller. -/
theorem bounds_of_continuation_succ (h : continuation (n + 1) low high acc bs = (k, some v)) :
    (64 * acc + (low - 0x80)) * 64 ^ n ≤ v ∧ v < (64 * acc + (high - 0x80) + 1) * 64 ^ n := by
  cases bs with
  | nil => cases h
  | cons b bs =>
    obtain ⟨hrange, j, -, hrest⟩ := continuation_cons_eq.1 h
    obtain ⟨hlow, hhigh⟩ := bounds_of_continuation hrest
    constructor
    · exact (Nat.mul_le_mul_right _ (by omega)).trans hlow
    · exact hhigh.trans_le (Nat.mul_le_mul_right _ (by omega))

/-! ## One character -/

/-- The value that a sequence stands for is that of a character of more than seven bits. -/
theorem isValidChar_of_lead? {b : Nat} {l : Lead} (hl : lead? b = some l)
    (h : continuation l.tail l.low l.high l.bits bs = (k, some v)) :
    0x80 ≤ v ∧ v.isValidChar := by
  unfold lead? at hl
  unfold Nat.isValidChar
  repeat' split at hl
  all_goals first | cases hl; done | (obtain rfl := Option.some.inj hl)
  all_goals
    have hbounds := bounds_of_continuation_succ h
    dsimp only at hbounds
    omega

/-- What a character of more than seven bits is written as. -/
structure IsSequence (c : Char) (b : UInt8) (bs : Bytes) (l : Lead) : Prop where
  encode : String.utf8EncodeChar c = b :: bs
  ge : 0x80 ≤ b.toNat
  lead : lead? b.toNat = some l
  length : bs.length = l.tail
  tail_ge : ∀ d ∈ bs, 0x80 ≤ d.toNat
  value : continuation l.tail l.low l.high l.bits bs = (l.tail, some c.toNat)

/-- The byte that carries six bits. -/
theorem continuation_six {d : Nat} (hd : d < 64) (hlow : low ≤ d + 128) (hhigh : d + 128 ≤ high) :
    continuation (n + 1) low high acc (UInt8.ofNat (d + 128) :: bs) =
      ((continuation n 0x80 0xBF (64 * acc + d) bs).1 + 1,
        (continuation n 0x80 0xBF (64 * acc + d) bs).2) := by
  have hbyte : (UInt8.ofNat (d + 128)).toNat = d + 128 := by
    rw [UInt8.toNat_ofNat']
    omega
  rw [continuation, hbyte, if_pos ⟨hlow, hhigh⟩, Nat.add_sub_cancel]

/-- A continuation byte has its first bit set. -/
private theorem le_toNat_six {d : Nat} (hd : d < 64) : 0x80 ≤ (UInt8.ofNat (d + 128)).toNat := by
  rw [UInt8.toNat_ofNat']
  omega

/-- These bytes lead two. -/
private theorem lead?_two {t : Nat} (hlow : 2 ≤ t) (hhigh : t < 32) :
    lead? (t + 192) = some ⟨1, 0x80, 0xBF, t⟩ := by
  rw [lead?, if_pos (by omega), Nat.add_sub_cancel]

/-- These lead three, of which the second is restricted at both ends. -/
private theorem lead?_three {t : Nat} (h : t < 16) :
    lead? (t + 224) = some ⟨2, if t = 0 then 0xA0 else 0x80, if t = 13 then 0x9F else 0xBF, t⟩ := by
  interval_cases t <;> rfl

/-- And these lead four. -/
private theorem lead?_four {t : Nat} (h : t < 5) :
    lead? (t + 240) = some ⟨3, if t = 0 then 0x90 else 0x80, if t = 4 then 0x8F else 0xBF, t⟩ := by
  interval_cases t <;> rfl

/-- A character of up to eleven bits is written in two bytes. -/
private theorem isSequence_two {c : Char} (h : 0x7F < c.toNat) (hle : c.toNat ≤ 0x7FF) :
    ∃ b bs l, IsSequence c b bs l := by
  have hb : (UInt8.ofNat (c.toNat / 64 % 32 + 192)).toNat = c.toNat / 64 % 32 + 192 := by
    rw [UInt8.toNat_ofNat']
    omega
  have hencode : String.utf8EncodeChar c =
      [UInt8.ofNat (c.toNat / 64 % 32 + 192), UInt8.ofNat (c.toNat % 64 + 128)] :=
    (if_neg (Nat.not_le.2 h)).trans (if_pos hle)
  refine ⟨_, _, ⟨1, 0x80, 0xBF, c.toNat / 64 % 32⟩, hencode, by omega, ?_, rfl, ?_, ?_⟩
  · rw [hb, lead?_two (by omega) (by omega)]
  · exact List.forall_mem_singleton.2 (le_toNat_six (by omega))
  · rw [continuation_six (by omega) (by dsimp only; omega) (by dsimp only; omega), continuation]
    have hvalue : 64 * (c.toNat / 64 % 32) + c.toNat % 64 = c.toNat := by omega
    exact congrArg (fun v => (1, some v)) hvalue

/-- One of up to sixteen bits is written in three. -/
private theorem isSequence_three {c : Char} (h : 0x7FF < c.toNat) (hle : c.toNat ≤ 0xFFFF) :
    ∃ b bs l, IsSequence c b bs l := by
  have hvalid : c.toNat.isValidChar := c.valid
  unfold Nat.isValidChar at hvalid
  -- the first byte tells that two more follow
  have hb : (UInt8.ofNat (c.toNat / 4096 % 16 + 224)).toNat = c.toNat / 4096 % 16 + 224 := by
    rw [UInt8.toNat_ofNat']
    omega
  have hone : ¬ c.toNat ≤ 0x7F := by omega
  have hencode : String.utf8EncodeChar c = [UInt8.ofNat (c.toNat / 4096 % 16 + 224),
      UInt8.ofNat (c.toNat / 64 % 64 + 128), UInt8.ofNat (c.toNat % 64 + 128)] :=
    (if_neg hone).trans ((if_neg (Nat.not_le.2 h)).trans (if_pos hle))
  refine ⟨_, _, ⟨2, if c.toNat / 4096 % 16 = 0 then 0xA0 else 0x80,
    if c.toNat / 4096 % 16 = 13 then 0x9F else 0xBF, c.toNat / 4096 % 16⟩,
    hencode, by omega, ?_, rfl, ?_, ?_⟩
  · rw [hb, lead?_three (by omega)]
  · refine List.forall_mem_cons.2 ⟨le_toNat_six (by omega), ?_⟩
    exact List.forall_mem_singleton.2 (le_toNat_six (by omega))
  · -- overlong forms and surrogates are no characters
    have hlow : (if c.toNat / 4096 % 16 = 0 then 0xA0 else 0x80) ≤ c.toNat / 64 % 64 + 128 := by
      split <;> omega
    have hhigh : c.toNat / 64 % 64 + 128 ≤ if c.toNat / 4096 % 16 = 13 then 0x9F else 0xBF := by
      split <;> omega
    rw [continuation_six (by omega) hlow hhigh,
      continuation_six (by omega) (by omega) (by omega), continuation]
    have hvalue : 64 * (64 * (c.toNat / 4096 % 16) + c.toNat / 64 % 64) + c.toNat % 64 =
        c.toNat := by omega
    exact congrArg (fun v => (2, some v)) hvalue

/-- Any other is written in four. -/
private theorem isSequence_four {c : Char} (h : 0xFFFF < c.toNat) :
    ∃ b bs l, IsSequence c b bs l := by
  have hvalid : c.toNat.isValidChar := c.valid
  unfold Nat.isValidChar at hvalid
  have hb : (UInt8.ofNat (c.toNat / 262144 % 8 + 240)).toNat = c.toNat / 262144 % 8 + 240 := by
    rw [UInt8.toNat_ofNat']
    omega
  have hone : ¬ c.toNat ≤ 0x7F := by omega
  have htwo : ¬ c.toNat ≤ 0x7FF := by omega
  have hencode : String.utf8EncodeChar c = [UInt8.ofNat (c.toNat / 262144 % 8 + 240),
      UInt8.ofNat (c.toNat / 4096 % 64 + 128), UInt8.ofNat (c.toNat / 64 % 64 + 128),
      UInt8.ofNat (c.toNat % 64 + 128)] :=
    (if_neg hone).trans ((if_neg htwo).trans (if_neg (Nat.not_le.2 h)))
  refine ⟨_, _, ⟨3, if c.toNat / 262144 % 8 = 0 then 0x90 else 0x80,
    if c.toNat / 262144 % 8 = 4 then 0x8F else 0xBF, c.toNat / 262144 % 8⟩,
    hencode, by omega, ?_, rfl, ?_, ?_⟩
  · rw [hb, lead?_four (by omega)]
  · refine List.forall_mem_cons.2 ⟨le_toNat_six (by omega), ?_⟩
    refine List.forall_mem_cons.2 ⟨le_toNat_six (by omega), ?_⟩
    exact List.forall_mem_singleton.2 (le_toNat_six (by omega))
  -- overlong forms and numbers past the last character are excluded
  · have hlow : (if c.toNat / 262144 % 8 = 0 then 0x90 else 0x80) ≤
        c.toNat / 4096 % 64 + 128 := by
      split <;> omega
    have hhigh : c.toNat / 4096 % 64 + 128 ≤
        if c.toNat / 262144 % 8 = 4 then 0x8F else 0xBF := by
      split <;> omega
    rw [continuation_six (by omega) hlow hhigh, continuation_six (by omega) (by omega) (by omega),
      continuation_six (by omega) (by omega) (by omega), continuation]
    have hvalue : 64 * (64 * (64 * (c.toNat / 262144 % 8) + c.toNat / 4096 % 64) +
        c.toNat / 64 % 64) + c.toNat % 64 = c.toNat := by omega
    exact congrArg (fun v => (3, some v)) hvalue

/-- So every character of more than seven bits is such a sequence. -/
private theorem exists_isSequence {c : Char} (h : 0x7F < c.toNat) :
    ∃ b bs l, IsSequence c b bs l := by
  rcases Nat.lt_or_ge 0xFFFF c.toNat with hfour | hle
  · exact isSequence_four hfour
  · rcases Nat.lt_or_ge 0x7FF c.toNat with hthree | hle'
    · exact isSequence_three hthree hle
    · exact isSequence_two h hle'

/-- A character of seven bits is written as itself. -/
private theorem encode_ascii {c : Char} (h : c.toNat ≤ 0x7F) :
    String.utf8EncodeChar c = [UInt8.ofNat c.toNat] := if_pos h

/-- It fits into a byte. -/
private theorem toNat_ascii {c : Char} (h : c.toNat ≤ 0x7F) :
    (UInt8.ofNat c.toNat).toNat = c.toNat := by
  rw [UInt8.toNat_ofNat']
  omega

/-- A sequence is read as its character, and what follows is read on. -/
private theorem IsSequence.decodeChars_append {c : Char} {b : UInt8} {l : Lead}
    (h : IsSequence c b bs l) (tail : Bytes) :
    decodeChars (b :: (bs ++ tail)) = c :: decodeChars tail := by
  have hge := h.ge
  have hfits := continuation_append h.value tail
  rw [decodeChars, if_neg (by omega), h.lead]
  simp only [hfits, List.drop_left' h.length, Option.elim_some, Char.ofNat_toNat]

/-- No byte of it is zero. -/
private theorem IsSequence.ne_zero {c : Char} {b : UInt8} {l : Lead} (h : IsSequence c b bs l) :
    ∀ d ∈ b :: bs, d ≠ 0 := by
  have hnonzero {d : UInt8} (hd : 0x80 ≤ d.toNat) : d ≠ 0 := by
    rintro rfl
    cases hd
  exact List.forall_mem_cons.2 ⟨hnonzero h.ge, fun d hd => hnonzero (h.tail_ge d hd)⟩

/-- A character is read back from the front of any bytes. -/
theorem decodeChars_encodeChar_append (c : Char) (tail : Bytes) :
    decodeChars (String.utf8EncodeChar c ++ tail) = c :: decodeChars tail := by
  by_cases hc : c.toNat ≤ 0x7F
  · have hb := toNat_ascii hc
    rw [encode_ascii hc, List.singleton_append, decodeChars, if_pos (by omega), hb,
      Char.ofNat_toNat]
  · obtain ⟨b, bs, l, h⟩ := exists_isSequence (Nat.not_le.1 hc)
    rw [h.encode, List.cons_append, h.decodeChars_append]

/-! ## Pieces of characters -/

/-- The first bytes of a character, but not all of them. -/
def IsPiece (piece : Bytes) : Prop :=
  ∃ c j, 0 < j ∧ j < (String.utf8EncodeChar c).length ∧ piece = (String.utf8EncodeChar c).take j

/-- Only characters of more than seven bits have pieces. -/
theorem IsPiece.exists_isSequence {piece : Bytes} (h : IsPiece piece) :
    ∃ c b bs l j, IsSequence c b bs l ∧ j < bs.length ∧ piece = b :: bs.take j := by
  obtain ⟨c, j, hpos, hlt, rfl⟩ := h
  by_cases hc : c.toNat ≤ 0x7F
  · rw [encode_ascii hc, List.length_singleton] at hlt
    omega
  · obtain ⟨b, bs, l, hsequence⟩ := Utf8.exists_isSequence (Nat.not_le.1 hc)
    obtain ⟨j, rfl⟩ := Nat.exists_eq_succ_of_ne_zero hpos.ne'
    rw [hsequence.encode] at hlt ⊢
    exact ⟨c, b, bs, l, j, hsequence, Nat.lt_of_succ_lt_succ hlt, rfl⟩

/-- A piece of a character is read as one replacement character. -/
theorem IsPiece.decodeChars {piece : Bytes} (h : IsPiece piece) :
    decodeChars piece = [replacement] := by
  obtain ⟨c, b, bs, l, j, hsequence, hj, rfl⟩ := h.exists_isSequence
  have hge := hsequence.ge
  have hfits := continuation_take hsequence.value (hsequence.length ▸ hj)
  rw [Utf8.decodeChars, if_neg (by omega), hsequence.lead]
  simp only [hfits, Option.elim_none, List.drop_take, Nat.sub_self, List.take_zero]
  rw [Utf8.decodeChars]

/-- No byte of a piece is zero. -/
theorem IsPiece.ne_zero {piece : Bytes} (h : IsPiece piece) : ∀ b ∈ piece, b ≠ 0 := by
  obtain ⟨c, b, bs, l, j, hsequence, -, rfl⟩ := h.exists_isSequence
  obtain ⟨hfirst, hrest⟩ := List.forall_mem_cons.1 hsequence.ne_zero
  exact List.forall_mem_cons.2 ⟨hfirst, fun d hd => hrest d (List.mem_of_mem_take hd)⟩

/-- A piece is not empty. -/
theorem length_pos_of_isPiece {piece : Bytes} (h : IsPiece piece) : 0 < piece.length := by
  obtain ⟨c, b, bs, l, j, -, -, rfl⟩ := h.exists_isSequence
  exact Nat.succ_pos _

/-- The bytes of a character other than NUL are not zero. -/
theorem encodeChar_ne_zero {c : Char} (h : c ≠ '\x00') :
    ∀ b ∈ String.utf8EncodeChar c, b ≠ 0 := by
  by_cases hc : c.toNat ≤ 0x7F
  · rw [encode_ascii hc, List.forall_mem_singleton]
    intro hzero
    have hnat := toNat_ascii hc
    rw [hzero] at hnat
    exact h (Char.toNat_inj.1 hnat.symm)
  · obtain ⟨b, bs, l, hsequence⟩ := exists_isSequence (Nat.not_le.1 hc)
    rw [hsequence.encode]
    exact hsequence.ne_zero

/-! ## Texts -/

/-- The UTF-8 form of some characters. -/
def encodeChars (cs : List Char) : Bytes := cs.flatMap String.utf8EncodeChar

/-- A text is written character by character. -/
theorem encode_eq (s : String) : encode s = encodeChars s.toList := rfl

/-- So is one that is made from a list. -/
theorem encode_ofList (cs : List Char) : encode (String.ofList cs) = encodeChars cs := by
  rw [encode_eq, String.toList_ofList]

/-- Characters are written one behind the other. -/
theorem encodeChars_append (cs ds : List Char) :
    encodeChars (cs ++ ds) = encodeChars cs ++ encodeChars ds := List.flatMap_append

/-- The first one comes first. -/
private theorem encodeChars_cons (c : Char) (cs : List Char) :
    encodeChars (c :: cs) = String.utf8EncodeChar c ++ encodeChars cs := List.flatMap_cons

theorem encodeChars_singleton (c : Char) : encodeChars [c] = String.utf8EncodeChar c :=
  List.flatMap_singleton _ _

/-- By induction on the characters, what was written is read back. -/
theorem decodeChars_encodeChars_append (cs : List Char) (tail : Bytes) :
    decodeChars (encodeChars cs ++ tail) = cs ++ decodeChars tail := by
  induction cs with
  | nil => rfl
  | cons c cs ih =>
    rw [encodeChars_cons, List.append_assoc, decodeChars_encodeChar_append, ih, List.cons_append]

/-- A text is read back. -/
theorem decode_encode (s : String) : decode (encode s) = s := by
  have h := decodeChars_encodeChars_append s.toList []
  rw [List.append_nil, decodeChars, List.append_nil] at h
  rw [decode, encode_eq, h, String.ofList_toList]

/-- The cut after `n` bytes goes through the character `c`, which comes behind `good`. -/
structure Severs (n : Nat) (cs good : List Char) (c : Char) : Prop where
  isPrefix : good ++ [c] <+: cs
  behind : (encodeChars good).length < n
  within : n < (encodeChars (good ++ [c])).length

/-- A cut through a character leaves those in front of it and a piece. -/
theorem Severs.exists_take {cs good : List Char} {c : Char} (h : Severs n cs good c) :
    ∃ piece, IsPiece piece ∧ (encodeChars cs).take n = encodeChars good ++ piece := by
  obtain ⟨after, rfl⟩ := h.isPrefix
  have hbehind := h.behind
  have hwithin := h.within
  rw [encodeChars_append, encodeChars_singleton, List.length_append] at hwithin
  refine ⟨(String.utf8EncodeChar c).take (n - (encodeChars good).length),
    ⟨c, _, by omega, by omega, rfl⟩, ?_⟩
  rw [encodeChars_append, encodeChars_append, encodeChars_singleton, List.append_assoc,
    List.take_append, List.take_of_length_le hbehind.le, List.take_append_of_le_length (by omega)]

/-- A cut behind the first character goes through one of the others. -/
private theorem Severs.cons {cs good : List Char} {c d : Char}
    (h : Severs (n - (String.utf8EncodeChar d).length) cs good c) :
    Severs n (d :: cs) (d :: good) c where
  isPrefix := List.cons_prefix_cons.2 ⟨rfl, h.isPrefix⟩
  behind := by
    have hbehind := h.behind
    rw [encodeChars_cons, List.length_append]
    omega
  within := by
    have hwithin := h.within
    rw [List.cons_append, encodeChars_cons, List.length_append]
    omega

/-- Fewer characters take up no more bytes. -/
theorem length_encodeChars_le {cs ds : List Char} (h : cs <+: ds) :
    (encodeChars cs).length ≤ (encodeChars ds).length := by
  obtain ⟨more, rfl⟩ := h
  rw [encodeChars_append, List.length_append]
  exact Nat.le_add_right _ _

/-- A cut through a character does not leave whole characters. -/
theorem Severs.take_ne {cs good whole : List Char} {c : Char} (h : Severs n cs good c)
    (hwhole : whole <+: cs) : (encodeChars cs).take n ≠ encodeChars whole := by
  intro hcut
  have hbehind := h.behind
  have hwithin := h.within
  have hcs := length_encodeChars_le h.isPrefix
  have hlength := congrArg List.length hcut
  rw [List.length_take] at hlength
  -- a whole prefix is at most what is in front of the cut character, or at least includes it
  rcases List.prefix_or_prefix_of_prefix hwhole h.isPrefix with hle | hge
  · rcases List.prefix_concat_iff.1 hle with rfl | hle
    · omega
    · have hle := length_encodeChars_le hle
      omega
  · have hge := length_encodeChars_le hge
    omega

/-- A cut leaves whole characters, or it goes through one. -/
theorem take_encodeChars_cases (cs : List Char) (n : Nat) :
    (∃ good, good <+: cs ∧ (encodeChars cs).take n = encodeChars good) ∨
      ∃ good c, Severs n cs good c := by
  induction cs generalizing n with
  | nil => exact .inl ⟨[], List.prefix_rfl, List.take_nil⟩
  | cons d cs ih =>
    rcases Nat.lt_or_ge n (String.utf8EncodeChar d).length with hlt | hge
    · -- the cut is within this character, if not in front of it
      rcases Nat.eq_zero_or_pos n with rfl | hpos
      · exact .inl ⟨[], List.nil_prefix, rfl⟩
      · refine .inr ⟨[], d, List.cons_prefix_cons.2 ⟨rfl, List.nil_prefix⟩, hpos, ?_⟩
        rwa [List.nil_append, encodeChars_singleton]
    · rcases ih (n - (String.utf8EncodeChar d).length) with ⟨good, hgood, hcut⟩ | ⟨good, c, h⟩
      · refine .inl ⟨d :: good, List.cons_prefix_cons.2 ⟨rfl, hgood⟩, ?_⟩
        rw [encodeChars_cons, encodeChars_cons, List.take_append, List.take_of_length_le hge, hcut]
      · exact .inr ⟨d :: good, c, h.cons⟩

/-- A cut leaves whole characters and at most a piece of the next one. -/
theorem exists_take_encodeChars (cs : List Char) (n : Nat) :
    ∃ good piece, (encodeChars cs).take n = encodeChars good ++ piece ∧
      (piece = [] ∨ IsPiece piece) := by
  rcases take_encodeChars_cases cs n with ⟨good, -, hcut⟩ | ⟨good, c, h⟩
  · exact ⟨good, [], by rw [hcut, List.append_nil], .inl rfl⟩
  · obtain ⟨piece, hpiece, hcut⟩ := h.exists_take
    exact ⟨good, piece, hcut, .inr hpiece⟩

/-- Only the character NUL is written with a zero byte. -/
theorem encodeChars_ne_zero {cs : List Char} (h : ∀ c ∈ cs, c ≠ '\x00') :
    ∀ b ∈ encodeChars cs, b ≠ 0 := by
  intro b hb
  obtain ⟨c, hc, hb⟩ := List.mem_flatMap.1 hb
  exact encodeChar_ne_zero (h c hc) b hb

/-- Bytes up to the first zero are characters up to the first NUL, and all of the piece behind
them if there is none. -/
theorem takeWhile_encodeChars_append (cs : List Char) {piece : Bytes}
    (hpiece : ∀ b ∈ piece, b ≠ 0) :
    (encodeChars cs ++ piece).takeWhile (· ≠ 0) =
      encodeChars (cs.takeWhile (· ≠ '\x00')) ++ if '\x00' ∈ cs then [] else piece := by
  induction cs with
  | nil => simpa [encodeChars] using hpiece
  | cons c cs ih =>
    rw [encodeChars_cons, List.append_assoc]
    -- a zero byte occurs only as the zero character itself
    by_cases hc : c = '\x00'
    · subst hc
      have hnul : String.utf8EncodeChar '\x00' = [0] := rfl
      simp [encodeChars, hnul]
    · have hnul : '\x00' ∈ c :: cs ↔ '\x00' ∈ cs := by simp [Ne.symm hc]
      rw [List.takeWhile_append_of_pos (by simpa using encodeChar_ne_zero hc), ih,
        List.takeWhile_cons_of_pos (by simpa using hc)]
      simp only [hnul, encodeChars, List.flatMap_cons, List.append_assoc]

/-- A number that is not zero is not the character NUL. -/
private theorem ofNat_ne_nul (hvalid : v.isValidChar) (hpos : 0 < v) : Char.ofNat v ≠ '\x00' := by
  intro hnul
  have hnat := congrArg Char.toNat hnul
  rw [Char.ofNat, dif_pos hvalid] at hnat
  exact hpos.ne' hnat

/-- Bytes other than zero are not read as the character NUL. -/
theorem ne_nul_of_mem_decodeChars (h : ∀ b ∈ bs, b ≠ 0) : ∀ c ∈ decodeChars bs, c ≠ '\x00' := by
  -- one character per round: ASCII, a stray byte, or a sequence that is whole or broken
  fun_induction decodeChars bs with
  | case1 => exact List.forall_mem_nil _
  | case2 b bs hascii ih =>
    obtain ⟨hb, hbs⟩ := List.forall_mem_cons.1 h
    have hpos : b.toNat ≠ 0 := fun hzero => hb (UInt8.toNat.inj hzero)
    exact List.forall_mem_cons.2 ⟨ofNat_ne_nul (.inl (by omega)) (Nat.pos_of_ne_zero hpos), ih hbs⟩
  | case3 b bs hascii hlead ih =>
    exact List.forall_mem_cons.2 ⟨by decide, ih (List.forall_mem_cons.1 h).2⟩
  | case4 b bs hascii l hlead r ih =>
    have hbs := (List.forall_mem_cons.1 h).2
    refine List.forall_mem_cons.2 ⟨?_, ih fun d hd => hbs d (List.mem_of_mem_drop hd)⟩
    rcases hr : continuation l.tail l.low l.high l.bits bs with ⟨k, _ | v⟩
    · simp only [r, hr]
      decide
    -- an overlong zero is excluded by the bounds on the first byte
    · obtain ⟨hge, hvalid⟩ := isValidChar_of_lead? hlead hr
      simp only [r, hr]
      exact ofNat_ne_nul hvalid (by omega)

end Southbound.Utf8
