import Southbound.Wire.Reader

/-!
# Headers

The eight bytes in front of every message: version, type, length of the whole message, and
transaction id. `decode_encode` says that the reader undoes the writer.
-/

namespace Southbound

structure Header where
  version : Version := 0
  /-- The number of the message type in that version. -/
  type : UInt8 := 0
  /-- The length of the message with this header. -/
  length : UInt16 := 0
  xid : Xid := 0
deriving DecidableEq

namespace Header

/-- The length of a header. -/
def size : Nat := 8

def encode (h : Header) : Bytes :=
  Write.u8 h.version ++ Write.u8 h.type ++ Write.u16 h.length ++ Write.u32 h.xid

/-- Reads the header from the front of a message; what follows is not looked at. -/
def decode : Bytes → Except WireError Header
  | v :: t :: l1 :: l0 :: x3 :: x2 :: x1 :: x0 :: _ =>
    .ok ⟨v, t, UInt16.ofNat (BigEndian.toNat [l1, l0]),
      UInt32.ofNat (BigEndian.toNat [x3, x2, x1, x0])⟩
  | bs => .error (.truncated size bs.length)

/-- The length of the body that the header announces. -/
def bodyLength (h : Header) : Nat := h.length.toNat - size

@[simp] theorem length_encode (h : Header) : h.encode.length = size := by simp [encode, size]

/-- A header is read back whatever follows it. -/
theorem decode_encode (h : Header) (body : Bytes) : decode (h.encode ++ body) = .ok h := by
  obtain ⟨version, type, length, xid⟩ := h
  have h16 := BigEndian.toNat_ofNat_of_lt (w := 2) (UInt16.toNat_lt length)
  have h32 := BigEndian.toNat_ofNat_of_lt (w := 4) (UInt32.toNat_lt xid)
  simp only [BigEndian.ofNat, List.nil_append, List.cons_append] at h16 h32
  simp only [encode, Write.u8, Write.u16, Write.u32, BigEndian.ofNat, List.nil_append,
    List.cons_append, decode, h16, h32, UInt16.ofNat_toNat, UInt32.ofNat_toNat]

end Header

end Southbound
