import Southbound.Text.Utf8
import Southbound.Wire.Reader

/-!
# Text in fields of fixed size

A field of `capacity` bytes holds a text in UTF-8 and at least one zero byte behind it. Text that
is too long is cut, if need be within a character; reading turns such a remnant into a replacement
character.
-/

namespace Southbound.FixedText

/-- The field that holds `s`, or as much of it as fits. -/
def encode (capacity : Nat) (s : String) : Bytes :=
  let text := (Utf8.encode s).take (capacity - 1)
  text ++ Write.zeros (capacity - text.length)

/-- The text in front of the first zero byte of a field. -/
def decode (field : Bytes) : String := Utf8.decode (field.takeWhile (· ≠ 0))

/-- Reads a field of `capacity` bytes. -/
def read (capacity : Nat) : Reader String := decode <$> Reader.bytes capacity

/-- A text takes up the whole of its field. -/
@[simp] theorem length_encode (capacity : Nat) (s : String) :
    (encode capacity s).length = capacity := by
  simp only [encode, List.length_append, List.length_take, Write.length_zeros]
  omega

end Southbound.FixedText
