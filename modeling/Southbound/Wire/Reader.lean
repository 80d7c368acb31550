import Southbound.Bytes.Chunks
import Southbound.OpenFlow.Port
import Southbound.Wire.Error

/-!
# Readers

A reader takes what it needs from the front of a body. Each primitive has an equation for input
that begins with what the matching writer produces: `number_append`, `bytes_append`, `skip_append`
and so on. Structures are read by running such readers one after the other.
-/

namespace Southbound

/-- Reads a value from the front of a body, or says why it cannot. -/
abbrev Reader := StateT Bytes (Except WireError)

namespace Reader

variable {α : Type}

def fail (e : WireError) : Reader α := fun _ => .error e

/-- A big-endian number of `width` bytes. -/
def number (width : Nat) : Reader Nat := fun bs =>
  if (bs.take width).length = width then .ok (BigEndian.toNat (bs.take width), bs.drop width)
  -- a plain number does not say how many bytes it needed
  else .error (.truncated 0 0)

def u8 : Reader UInt8 := UInt8.ofNat <$> number 1

def u16 : Reader UInt16 := UInt16.ofNat <$> number 2

def u32 : Reader UInt32 := UInt32.ofNat <$> number 4

def u64 : Reader UInt64 := UInt64.ofNat <$> number 8

/-- Makes sure that `n` bytes are left. -/
def need (n : Nat) : Reader Unit := fun bs =>
  if (bs.take n).length = n then .ok ((), bs) else .error (.truncated n bs.length)

/-- The next `n` bytes. -/
def bytes (n : Nat) : Reader Bytes := fun bs =>
  if (bs.take n).length = n then .ok (bs.take n, bs.drop n)
  else .error (.truncated n bs.length)

/-- Passes over `n` bytes. -/
def skip (n : Nat) : Reader Unit := fun bs =>
  if (bs.take n).length = n then .ok ((), bs.drop n) else .error (.truncated n bs.length)

/-- All that is left. -/
def rest : Reader Bytes := fun bs => .ok (bs, [])

/-- A hardware address. -/
def mac : Reader MacAddress := do
  need 6
  return ⟨← u8, ← u8, ← u8, ← u8, ← u8, ← u8⟩

/-- The value that a number stands for, if it stands for one. -/
def expect (o : Option α) (value field owner : String) : Reader α :=
  match o with
  | some a => pure a
  | none => fail (.unexpectedValue value field owner)

/-- Runs a reader on a whole body and drops what it leaves. -/
def run (r : Reader α) (body : Bytes) : Except WireError α := (·.1) <$> r body

/-- Reads all that is left as items of `size` bytes each; the last piece may be too short for
one. -/
def each (size : Nat) (item : Reader α) : Reader (List α) := fun bs =>
  (·, []) <$> (chunks size bs).mapM item.run

/-- One reader after the other. -/
theorem bind_of_ok {β : Type} {r : Reader α} {f : α → Reader β} {bs rest : Bytes} {a : α}
    (h : r bs = .ok (a, rest)) : (r >>= f) bs = f a rest := by
  show (Except.bind (r bs) fun p => f p.1 p.2) = f a rest
  rw [h]
  rfl

/-- A number that fits is read back, and nothing behind it is touched. -/
theorem number_append (width n : Nat) (h : n < BigEndian.count width) (tail : Bytes) :
    number width (BigEndian.ofNat width n ++ tail) = .ok (n, tail) := by
  simp [number, BigEndian.toNat_ofNat_of_lt h]

/-- As many bytes as asked for are read, and nothing behind them is touched. -/
theorem bytes_append (n : Nat) (bs tail : Bytes) (h : bs.length = n) :
    bytes n (bs ++ tail) = .ok (bs, tail) := by
  subst h
  simp [bytes]

/-- As many bytes as asked for are skipped, and nothing behind them is touched. -/
theorem skip_append (n : Nat) (bs tail : Bytes) (h : bs.length = n) :
    skip n (bs ++ tail) = .ok ((), tail) := by
  subst h
  simp [skip]

/-- Looking whether there are enough bytes takes none of them. -/
theorem need_append (n : Nat) (bs tail : Bytes) (h : bs.length = n) :
    need n (bs ++ tail) = .ok ((), bs ++ tail) := by
  subst h
  simp [need]

@[simp] theorem rest_apply (bs : Bytes) : rest bs = .ok (bs, []) := rfl

end Reader

/-! ## Writing numbers -/

namespace Write

def u8 (n : UInt8) : Bytes := [n]

def u16 (n : UInt16) : Bytes := BigEndian.ofNat 2 n.toNat

def u32 (n : UInt32) : Bytes := BigEndian.ofNat 4 n.toNat

def u64 (n : UInt64) : Bytes := BigEndian.ofNat 8 n.toNat

/-- Bytes that carry nothing. -/
def zeros (n : Nat) : Bytes := List.replicate n 0

@[simp] theorem length_u8 (n : UInt8) : (u8 n).length = 1 := rfl
@[simp] theorem length_u16 (n : UInt16) : (u16 n).length = 2 := by simp [u16]
@[simp] theorem length_u32 (n : UInt32) : (u32 n).length = 4 := by simp [u32]
@[simp] theorem length_u64 (n : UInt64) : (u64 n).length = 8 := by simp [u64]
@[simp] theorem length_zeros (n : Nat) : (zeros n).length = n := by simp [zeros]

end Write

namespace Reader

/-- A number is read back as what stands for it. -/
private theorem map_number_append (f : Nat → α) (width n : Nat) (h : n < BigEndian.count width)
    (tail : Bytes) : (f <$> number width) (BigEndian.ofNat width n ++ tail) = .ok (f n, tail) := by
  show StateT.map f (number width) _ = _
  rw [StateT.map, number_append width n h]
  rfl

@[simp] theorem u8_append (n : UInt8) (tail : Bytes) :
    u8 (Write.u8 n ++ tail) = .ok (n, tail) := by
  have h : Write.u8 n = BigEndian.ofNat 1 n.toNat := by simp [Write.u8, BigEndian.ofNat]
  rw [h, u8, map_number_append _ _ _ (UInt8.toNat_lt n), UInt8.ofNat_toNat]

@[simp] theorem u16_append (n : UInt16) (tail : Bytes) :
    u16 (Write.u16 n ++ tail) = .ok (n, tail) := by
  rw [Write.u16, u16, map_number_append _ _ _ (UInt16.toNat_lt n), UInt16.ofNat_toNat]

@[simp] theorem u32_append (n : UInt32) (tail : Bytes) :
    u32 (Write.u32 n ++ tail) = .ok (n, tail) := by
  rw [Write.u32, u32, map_number_append _ _ _ (UInt32.toNat_lt n), UInt32.ofNat_toNat]

@[simp] theorem u64_append (n : UInt64) (tail : Bytes) :
    u64 (Write.u64 n ++ tail) = .ok (n, tail) := by
  rw [Write.u64, u64, map_number_append _ _ _ (UInt64.toNat_lt n), UInt64.ofNat_toNat]

/-- A hardware address is read back, and nothing behind it is touched. -/
@[simp] theorem mac_append (a : MacAddress) (tail : Bytes) :
    mac (a.toBytes ++ tail) = .ok (a, tail) := by
  obtain ⟨b0, b1, b2, b3, b4, b5⟩ := a
  have hu (b : UInt8) (t : Bytes) : u8 (b :: t) = .ok (b, t) := u8_append b t
  have h6 : need 6 ([b0, b1, b2, b3, b4, b5] ++ tail) =
      .ok ((), b0 :: b1 :: b2 :: b3 :: b4 :: b5 :: tail) :=
    need_append 6 [b0, b1, b2, b3, b4, b5] tail rfl
  rw [mac, MacAddress.toBytes, bind_of_ok h6, bind_of_ok (hu _ _), bind_of_ok (hu _ _),
    bind_of_ok (hu _ _), bind_of_ok (hu _ _), bind_of_ok (hu _ _), bind_of_ok (hu _ _)]
  rfl

end Reader

end Southbound
