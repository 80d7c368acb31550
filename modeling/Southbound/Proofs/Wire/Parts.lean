import Southbound.Wire.V13

/-!
# Reading what was written: the parts of messages

Every part of a message is read back from the front of whatever begins with it. A text comes back
as `FixedText.kept`, a buffer number as `keptBuffer`, a match as `FlowMatch.kept`; all other parts
come back as they are.
-/

namespace Southbound

namespace Reader

variable {α β : Type}

/-- Running one reader after the other. -/
theorem bind_apply (r : Reader α) (f : α → Reader β) (bs : Bytes) :
    (r >>= f) bs = match r bs with
      | .ok (a, rest) => f a rest
      | .error e => .error e := by
  show (Except.bind (r bs) fun p => f p.1 p.2) = _
  cases r bs <;> rfl

theorem pure_apply (a : α) (bs : Bytes) : (pure a : Reader α) bs = .ok (a, bs) := rfl

/-- What is done with the result leaves the bytes and the errors alone. -/
theorem map_apply (f : α → β) (r : Reader α) (bs : Bytes) :
    (f <$> r) bs = match r bs with
      | .ok (a, rest) => .ok (f a, rest)
      | .error e => .error e := by
  show (Except.bind (r bs) fun p => Except.ok (f p.1, p.2)) = _
  cases r bs <;> rfl

/-- Padding is skipped. -/
theorem skip_zeros_append (n : Nat) (tail : Bytes) :
    skip n (Write.zeros n ++ tail) = .ok ((), tail) :=
  skip_append n (Write.zeros n) tail (Write.length_zeros n)

theorem expect_some (a : α) (value field owner : String) (bs : Bytes) :
    expect (some a) value field owner bs = .ok (a, bs) := rfl

/-- A body is read if its reader reads it, whatever is left of it. -/
theorem run_of_ok {r : Reader α} {body rest : Bytes} {a : α} (h : r body = .ok (a, rest)) :
    r.run body = .ok a := by
  rw [run, h]
  rfl

end Reader

/-! ## Texts -/

namespace FixedText

/-- What a field of `capacity` bytes keeps of a text. -/
def kept (capacity : Nat) (s : String) : String :=
  Utf8.decode (((Utf8.encode s).take (capacity - 1)).takeWhile (· ≠ 0))

/-- What is read from a field is what was kept of the text. -/
private theorem decode_encode {capacity : Nat} (h : 0 < capacity) (s : String) :
    decode (encode capacity s) = kept capacity s := by
  -- there is a zero behind the text, and reading stops there if not before
  obtain ⟨n, hn⟩ : ∃ n, capacity - ((Utf8.encode s).take (capacity - 1)).length = n + 1 := by
    rw [List.length_take]
    exact ⟨capacity - min (capacity - 1) (Utf8.encode s).length - 1, by omega⟩
  rw [decode, encode, kept, hn, Write.zeros, List.replicate_succ, List.takeWhile_append]
  split
  · next hall =>
    have hself := (List.takeWhile_prefix _).eq_of_length hall
    rw [List.takeWhile_cons_of_neg (by decide), List.append_nil, hself]
  · rfl

/-- A text is read back as far as it was kept. -/
theorem read_append {capacity : Nat} (h : 0 < capacity) (s : String) (tail : Bytes) :
    read capacity (encode capacity s ++ tail) = .ok (kept capacity s, tail) := by
  rw [read, Reader.map_apply, Reader.bytes_append _ _ _ (length_encode capacity s)]
  exact congrArg (fun t => Except.ok (t, tail)) (decode_encode h s)

end FixedText

/-! ## Numbers, buffers, ports -/

/-- A buffer number, unless it is the one that says that there is no buffer. -/
def keptBuffer (b : Option UInt32) : Option UInt32 := b.filter (· ≠ noBuffer)

namespace Reader

/-- A buffer id is read back, unless it is the number that stands for none. -/
theorem buffer_append (b : Option UInt32) (tail : Bytes) :
    buffer (Write.buffer b ++ tail) = .ok (keptBuffer b, tail) := by
  rw [buffer, Write.buffer, bind_of_ok (u32_append _ _), pure_apply]
  cases b with
  | none => rfl
  | some n =>
    by_cases hn : n = noBuffer
    · simp [keptBuffer, Option.filter, hn]
    · simp [keptBuffer, Option.filter, hn]

/-- A length that fits into its field. -/
theorem length_append {n : Nat} (h : n < 65536) (tail : Bytes) :
    (UInt16.toNat <$> u16) (BigEndian.ofNat 2 n ++ tail) = .ok (n, tail) := by
  have hn : (UInt16.ofNat n).toNat = n := by
    rw [UInt16.toNat_ofNat']
    omega
  have hu : BigEndian.ofNat 2 n = Write.u16 (UInt16.ofNat n) := by rw [Write.u16, hn]
  simp only [hu, map_apply, u16_append, hn]

/-- A descriptor is read back with its texts as far as they were kept. -/
theorem deviceDescriptor_append (d : DeviceDescriptor) (tail : Bytes) :
    deviceDescriptor (Write.deviceDescriptor d ++ tail) = .ok ({
      manufacturer := FixedText.kept 256 d.manufacturer
      hardware := FixedText.kept 256 d.hardware
      software := FixedText.kept 256 d.software
      serialNumber := FixedText.kept 32 d.serialNumber
      description := FixedText.kept 256 d.description }, tail) := by
  have h256 := FixedText.read_append (show 0 < 256 by decide)
  have h32 := FixedText.read_append (show 0 < 32 by decide)
  simp only [deviceDescriptor, Write.deviceDescriptor, List.append_assoc, bind_apply, h256, h32,
    pure_apply]

/-- An error is read back with all its data. -/
theorem errorMessage_run (e : ErrorMessage) :
    errorMessage.run (Write.errorMessage e) = .ok e := by
  simp only [errorMessage, Write.errorMessage, List.append_assoc, run, bind_apply, u16_append,
    rest_apply, pure_apply]
  rfl

/-- A configuration is read back. -/
theorem switchConfig_run (c : SwitchConfig) :
    switchConfig.run (Write.switchConfig c) = .ok c := by
  rw [← List.append_nil (Write.switchConfig c)]
  simp only [switchConfig, Write.switchConfig, List.append_assoc, run, bind_apply, u16_append,
    pure_apply]
  rfl

/-- A reason is read back, and nothing behind it is touched. -/
theorem portReason_append (r : PortReason) (tail : Bytes) :
    portReason (Write.u8 r.toWire ++ tail) = .ok (r, tail) := by
  simp only [portReason, bind_apply, u8_append, PortReason.ofWire?_toWire, expect_some]

end Reader

end Southbound
