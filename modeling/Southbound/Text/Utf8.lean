import Southbound.Bytes.BigEndian

/-!
# UTF-8 text

Writing a string as UTF-8 bytes, and reading any bytes at all as a string: each maximal piece
that cannot be continued to a well-formed sequence becomes one replacement character. The reader
takes at least one byte per character, and exactly the ranges of the Unicode Standard's table of
well-formed byte sequences, so overlong forms, surrogates and values past `U+10FFFF` never decode.
-/

namespace Southbound.Utf8

/-- The UTF-8 form of a string. -/
def encode (s : String) : Bytes := s.toList.flatMap String.utf8EncodeChar

/-- Stands for a piece of ill-formed input. -/
def replacement : Char := '\uFFFD'

/-- What the first byte of a sequence of two to four bytes says about the rest. -/
structure Lead where
  /-- Continuation bytes that follow. -/
  tail : Nat
  /-- Least value of the first of them. -/
  low : Nat
  /-- Greatest value of the first of them. -/
  high : Nat
  /-- The bits of the scalar value that the first byte carries. -/
  bits : Nat

/-- The first bytes of the well-formed sequences of two to four bytes. -/
def lead? (b : Nat) : Option Lead :=
  if 0xC2 ≤ b ∧ b ≤ 0xDF then some ⟨1, 0x80, 0xBF, b - 0xC0⟩
  else if b = 0xE0 then some ⟨2, 0xA0, 0xBF, 0⟩
  else if b = 0xED then some ⟨2, 0x80, 0x9F, 0xD⟩
  else if 0xE1 ≤ b ∧ b ≤ 0xEF then some ⟨2, 0x80, 0xBF, b - 0xE0⟩
  else if b = 0xF0 then some ⟨3, 0x90, 0xBF, 0⟩
  else if 0xF1 ≤ b ∧ b ≤ 0xF3 then some ⟨3, 0x80, 0xBF, b - 0xF0⟩
  else if b = 0xF4 then some ⟨3, 0x80, 0x8F, 4⟩
  else none

/-- Reads `n` continuation bytes, the first between `low` and `high`: how many of them fit, and
the value with their bits appended to `acc` when all do. -/
def continuation : (n low high acc : Nat) → Bytes → Nat × Option Nat
  | 0, _, _, acc, _ => (0, some acc)
  | _ + 1, _, _, _, [] => (0, none)
  | n + 1, low, high, acc, b :: bs =>
    if low ≤ b.toNat ∧ b.toNat ≤ high then
      let r := continuation n 0x80 0xBF (64 * acc + (b.toNat - 0x80)) bs
      (r.1 + 1, r.2)
    else (0, none)

/-- The characters of `bs`, with one replacement per maximal ill-formed piece. -/
def decodeChars : Bytes → List Char
  | [] => []
  | b :: bs =>
    if b.toNat < 0x80 then Char.ofNat b.toNat :: decodeChars bs
    else
      match lead? b.toNat with
      | none => replacement :: decodeChars bs
      | some l =>
        -- the bytes that fit belong to the piece even if the sequence is not complete
        let r := continuation l.tail l.low l.high l.bits bs
        (r.2.elim replacement Char.ofNat) :: decodeChars (bs.drop r.1)
termination_by bs => bs.length
decreasing_by all_goals simp only [List.length_drop, List.length_cons]; omega

/-- Reads any bytes as text. -/
def decode (bs : Bytes) : String := String.ofList (decodeChars bs)

end Southbound.Utf8
