import Southbound.Wire.Reader

/-!
# The elements of a hello

The body of a hello is a sequence of elements: a type, a length that counts these four bytes, the
payload, and padding up to a multiple of eight. The version bitmap is the element of type 1: bit
`b` of its word `w` stands for version `32 * w + b`.

The last element may lack padding, and up to three bytes may follow it.
-/

namespace Southbound.Hello

structure Element where
  kind : Nat
  payload : Bytes
deriving DecidableEq

/-- The type of the version bitmap. -/
def bitmapKind : Nat := 1

/-- Bytes to fill up to a multiple of eight. -/
def padding (n : Nat) : Nat := (8 - n % 8) % 8

/-- The elements of a body in order. -/
def elements : Bytes → Except WireError (List Element)
  | t1 :: t0 :: l1 :: l0 :: tail =>
    let length := BigEndian.toNat [l1, l0]
    if length < 4 then .error (.unexpectedValue (toString length) "element length" "Hello")
    else
      let payload := tail.take (length - 4)
      if payload.length < length - 4 then .error (.truncated (length - 4) tail.length)
      else do
        -- the last element may lack its padding, so dropping more than there is does no harm
        let more ← elements (tail.drop (length - 4 + padding length))
        return ⟨BigEndian.toNat [t1, t0], payload⟩ :: more
  -- fewer bytes than an element has in front
  | _ => .ok []
termination_by bs => bs.length
decreasing_by
  simp only [List.length_drop, List.length_cons]
  omega

/-- The versions that word number `w` of a bitmap stands for; a word cut short counts as the
number its bytes form. -/
def wordVersions (word : Bytes) (w : Nat) : List Version :=
  ((List.range 32).filter fun b =>
    (BigEndian.toNat word).testBit b && decide (32 * w + b ≤ 255)).map fun b =>
      UInt8.ofNat (32 * w + b)

/-- The versions of a bitmap in ascending order. -/
def bitmapVersions (payload : Bytes) : List Version :=
  (chunks 4 payload).zipIdx.flatMap fun (word, w) => wordVersions word w

/-- The versions an element lists: none unless it is a version bitmap. -/
def Element.versions (e : Element) : List Version :=
  if e.kind = bitmapKind then bitmapVersions e.payload else []

/-- The versions listed by a body, in order of appearance. -/
def read (body : Bytes) : Except WireError (List Version) :=
  (fun es => es.flatMap Element.versions) <$> elements body

/-- Word number `w` of the bitmap of `versions`. -/
def word (versions : List Version) (w : Nat) : Nat :=
  (List.range 32).foldl (fun n b =>
    if versions.any (fun v => v.toNat = 32 * w + b) then n + 1 <<< b else n) 0

/-- The number of words the bitmap of `versions` needs. -/
def wordCount (versions : List Version) : Nat :=
  versions.foldl (fun n v => max n v.toNat) 0 / 32 + 1

/-- The body that lists `versions`: nothing at all if there are none, otherwise one bitmap. -/
def write (versions : List Version) : Bytes :=
  if versions.isEmpty then []
  else
    let words := wordCount versions
    let length := 4 + 4 * words
    BigEndian.ofNat 2 bitmapKind ++ BigEndian.ofNat 2 length ++
      (List.range words).flatMap (fun w => BigEndian.ofNat 4 (word versions w)) ++
      Write.zeros (padding length)

end Southbound.Hello
