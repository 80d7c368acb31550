import Southbound.Bytes.BigEndian

/-!
# Hexadecimal text

Lower-case base-16 text of numbers and byte strings, and its reader, which takes digits of either
case.
-/

namespace Southbound.Hex

/-- The digit of a value below 16. -/
def digit (n : Nat) : Char := Nat.digitChar n

/-- The value of a digit of either case. -/
def value? (c : Char) : Option Nat :=
  if '0' ≤ c ∧ c ≤ '9' then some (c.toNat - '0'.toNat)
  else if 'a' ≤ c ∧ c ≤ 'f' then some (c.toNat - 'a'.toNat + 10)
  else if 'A' ≤ c ∧ c ≤ 'F' then some (c.toNat - 'A'.toNat + 10)
  else none

/-- Two digits per byte. -/
def ofByte (b : UInt8) : List Char := [digit (b.toNat / 16), digit (b.toNat % 16)]

/-- The bytes one after the other, two digits each. -/
def encodeChars (bs : Bytes) : List Char := bs.flatMap ofByte

def encode (bs : Bytes) : String := String.ofList (encodeChars bs)

/-- Refuses an odd number of digits and any other character. -/
def decodeChars? : List Char → Option Bytes
  | [] => some []
  | hi :: lo :: rest => do
    let h ← value? hi
    let l ← value? lo
    let bs ← decodeChars? rest
    return UInt8.ofNat (16 * h + l) :: bs
  | _ => none

def decode? (s : String) : Option Bytes := decodeChars? s.toList

/-- A number with no leading zeros, `0` for zero. -/
def ofNat (n : Nat) : String := String.ofList (Nat.toDigits 16 n)

end Southbound.Hex
