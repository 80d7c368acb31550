/-!
# SipHash-1-3

A keyed hash of 64-bit words: one mixing round per word, three at the end. The message of a single
word is its eight bytes, least significant first.
-/

namespace Southbound.SipHash

structure State where
  v0 : UInt64
  v1 : UInt64
  v2 : UInt64
  v3 : UInt64

def rotateLeft (x n : UInt64) : UInt64 := (x <<< n) ||| (x >>> (64 - n))

/-- The state for a key of two words. -/
def init (k0 k1 : UInt64) : State :=
  ⟨k0 ^^^ 0x736f6d6570736575, k1 ^^^ 0x646f72616e646f6d, k0 ^^^ 0x6c7967656e657261,
    k1 ^^^ 0x7465646279746573⟩

/-- One mixing round. -/
def round (s : State) : State :=
  let a0 := s.v0 + s.v1
  let a1 := rotateLeft s.v1 13 ^^^ a0
  let b0 := rotateLeft a0 32
  let a2 := s.v2 + s.v3
  let a3 := rotateLeft s.v3 16 ^^^ a2
  let c0 := b0 + a3
  let c3 := rotateLeft a3 21 ^^^ c0
  let c2 := a2 + a1
  let c1 := rotateLeft a1 17 ^^^ c2
  ⟨c0, c1, rotateLeft c2 32, c3⟩

/-- Takes in one word. -/
def absorb (s : State) (word : UInt64) : State :=
  let t := round { s with v3 := s.v3 ^^^ word }
  { t with v0 := t.v0 ^^^ word }

/-- The last word of a message of whole words holds nothing but its length in bytes. -/
def lastWord (words : List UInt64) : UInt64 := UInt64.ofNat (8 * words.length % 256) <<< 56

/-- The hash of a message of whole words. -/
def hash (k0 k1 : UInt64) (words : List UInt64) : UInt64 :=
  let s := absorb (words.foldl absorb (init k0 k1)) (lastWord words)
  -- the finalization of SipHash-1-3
  let t := round (round (round { s with v2 := s.v2 ^^^ 0xff }))
  t.v0 ^^^ t.v1 ^^^ t.v2 ^^^ t.v3

end Southbound.SipHash
