import Southbound.Proofs.Wire.Hello
import Southbound.Wire.Codec

/-!
# What OpenFlow 1.3 keeps of a message

Reading a message that was written gives `Message.kept` of it, and the message can be written if and
only if it is not too long with its header:

* `V13.read_write`           a body of less than 65536 bytes is read back
* `Codec.decode_encode_v13`  the same for a whole message with its header
-/

namespace Southbound

/-! ## What is kept -/

def FlowMatch.kept : FlowMatch → FlowMatch
  | .raw [] => .all
  | m => m

/-- The match fields in wire form. -/
def FlowMatch.fields : FlowMatch → Bytes
  | .all => []
  | .raw bytes => bytes

def Port.kept (p : Port) : Port := { p with name := FixedText.kept 16 p.name }

def DeviceDescriptor.kept (d : DeviceDescriptor) : DeviceDescriptor where
  manufacturer := FixedText.kept 256 d.manufacturer
  hardware := FixedText.kept 256 d.hardware
  software := FixedText.kept 256 d.software
  serialNumber := FixedText.kept 32 d.serialNumber
  description := FixedText.kept 256 d.description

/-- Only OpenFlow 1.0 lists actions and ports with the features. -/
def SwitchFeatures.kept (f : SwitchFeatures) : SwitchFeatures :=
  { f with actions := 0, ports := [] }

/-- The ingress port becomes the one that the match holds. -/
def PacketIn.kept (p : PacketIn) : PacketIn :=
  { p with
    buffer := keptBuffer p.buffer
    inPort := (Oxm.inPort? p.flowMatch.fields).getD PortNumber.any
    flowMatch := p.flowMatch.kept }

def FlowRemoved.kept (r : FlowRemoved) : FlowRemoved := { r with flowMatch := r.flowMatch.kept }

def PortStatus.kept (s : PortStatus) : PortStatus := { s with port := s.port.kept }

def PacketOut.kept (p : PacketOut) : PacketOut := { p with buffer := keptBuffer p.buffer }

def FlowMod.kept (f : FlowMod) : FlowMod :=
  { f with
    version := some Version.v13
    buffer := keptBuffer f.buffer
    flowMatch := f.flowMatch.kept }

def MultipartBody.kept : MultipartBody → MultipartBody
  | .desc d => .desc d.kept
  | .ports ps => .ports (ps.map Port.kept)
  | .raw bytes => .raw bytes

/-- The body is one that belongs to its kind. -/
def MultipartBody.Fits : MultipartBody → MultipartKind → Prop
  | .desc _, k => k = .desc
  | .ports _, k => k = .portDesc
  | .raw _, k => k ≠ .desc ∧ k ≠ .portDesc

namespace V13
open Reader

/-- A match whose length fits 16 bits is read back as it is kept. -/
private theorem readMatch_append (m : FlowMatch) (h : 4 + m.fields.length < 65536) (tail : Bytes) :
    readMatch (writeMatch m ++ tail) = .ok (m.kept, tail) := by
  have hsub : 4 + m.fields.length - 4 = m.fields.length := by omega
  have hlt : ¬ 4 + m.fields.length < 4 := by omega
  have hwrite : writeMatch m = BigEndian.ofNat 2 1 ++ BigEndian.ofNat 2 (4 + m.fields.length) ++
      m.fields ++ Write.zeros (Hello.padding (4 + m.fields.length)) := by
    cases m <;> rfl
  have hkind (tail : Bytes) : u16 (BigEndian.ofNat 2 1 ++ tail) = .ok (1, tail) := u16_append 1 tail
  simp only [readMatch, hwrite, List.append_assoc, bind_apply, hkind, ne_eq, not_true_eq_false,
    ↓reduceIte, pure_apply, length_append h, hlt, hsub, bytes_append _ _ _ rfl, skip_zeros_append]
  -- no fields are read as a match of everything
  cases m with
  | all => rfl
  | raw fields => cases fields <;> rfl

/-- A port is read back with its texts as far as they are kept. -/
private theorem readPort_append (p : Port) (tail : Bytes) :
    readPort (writePort p ++ tail) = .ok (p.kept, tail) := by
  have hlength : (writePort p).length = portSize := by simp [writePort, portSize]
  have hname := FixedText.read_append (show 0 < 16 by decide) p.name
  rw [readPort, bind_of_ok (need_append _ _ _ hlength)]
  simp only [writePort, List.append_assoc, bind_apply, u32_append, skip_zeros_append, mac_append,
    hname, pure_apply]
  rfl

/-- Features are read back without actions and ports, which 1.3 does not send with them. -/
private theorem readFeatures_run (f : SwitchFeatures) :
    readFeatures.run (writeFeatures f) = .ok f.kept := by
  rw [← List.append_nil (writeFeatures f)]
  simp only [readFeatures, writeFeatures, List.append_assoc, run, bind_apply, u64_append,
    u32_append, u8_append, skip_zeros_append, pure_apply]
  rfl

/-- A packet from a switch is read back as it is kept, if the length of its match fits. -/
private theorem readPacketIn_run (p : PacketIn) (h : 4 + p.flowMatch.fields.length < 65536) :
    readPacketIn.run (writePacketIn p) = .ok p.kept := by
  -- a match without fields is written like the match of everything, and names no port either way
  have hinPort : (match p.flowMatch.kept with
      | .all => none
      | .raw fields => Oxm.inPort? fields) = Oxm.inPort? p.flowMatch.fields := by
    cases p.flowMatch with
    | all => exact Oxm.inPort?_nil.symm
    | raw fields =>
      cases fields with
      | nil => exact Oxm.inPort?_nil.symm
      | cons => rfl
  simp only [readPacketIn, writePacketIn, List.append_assoc, run, bind_apply, buffer_append,
    u64_append, u16_append, u8_append, readMatch_append _ h, skip_zeros_append, rest_apply,
    pure_apply]
  rw [PacketIn.kept, ← hinPort]
  rfl

/-- The removal of a flow is read back as it is kept, if the length of its match fits. -/
private theorem readFlowRemoved_run (r : FlowRemoved) (h : 4 + r.flowMatch.fields.length < 65536) :
    readFlowRemoved.run (writeFlowRemoved r) = .ok r.kept := by
  rw [← List.append_nil (writeFlowRemoved r)]
  simp only [readFlowRemoved, writeFlowRemoved, List.append_assoc, run, bind_apply, u64_append,
    u32_append, u16_append, u8_append, readMatch_append _ h, pure_apply]
  rfl

/-- A change of a port is read back as it is kept. -/
private theorem readPortStatus_run (s : PortStatus) :
    readPortStatus.run (writePortStatus s) = .ok s.kept := by
  rw [← List.append_nil (writePortStatus s)]
  simp only [readPortStatus, writePortStatus, List.append_assoc, run, bind_apply, portReason_append,
    skip_zeros_append, readPort_append, pure_apply]
  rfl

/-- A packet for a switch is read back as it is kept, if the length of its actions fits. -/
private theorem readPacketOut_run (p : PacketOut) (h : p.actions.length < 65536) :
    readPacketOut.run (writePacketOut p) = .ok p.kept := by
  simp only [readPacketOut, writePacketOut, List.append_assoc, run, bind_apply, buffer_append,
    u32_append, length_append h, skip_zeros_append, bytes_append _ _ _ rfl, rest_apply, pure_apply]
  rfl

/-- A change of a flow is read back as it is kept, if the length of its match fits. -/
private theorem readFlowMod_run (f : FlowMod) (h : 4 + f.flowMatch.fields.length < 65536) :
    readFlowMod.run (writeFlowMod f) = .ok f.kept := by
  -- one byte is enough for the number of every command
  have hcommand : FlowCommand.ofWire? f.command.toWire.toUInt8.toUInt16 = some f.command := by
    cases f.command <;> rfl
  simp only [readFlowMod, writeFlowMod, List.append_assoc, run, bind_apply, buffer_append,
    u64_append, u32_append, u16_append, u8_append, hcommand, expect_some, readMatch_append _ h,
    skip_zeros_append, rest_apply, pure_apply]
  rfl

/-- A change of a port's configuration is read back. -/
private theorem readPortMod_run (m : PortMod) : readPortMod.run (writePortMod m) = .ok m := by
  rw [← List.append_nil (writePortMod m)]
  simp only [readPortMod, writePortMod, List.append_assoc, run, bind_apply, u32_append,
    mac_append, skip_zeros_append, pure_apply]
  rfl

/-- A kind is read back, and nothing behind it is touched. -/
private theorem readMultipartKind_append (k : MultipartKind) (tail : Bytes) :
    readMultipartKind (Write.u16 k.toWire13 ++ tail) = .ok (k, tail) := by
  simp only [readMultipartKind, bind_apply, u16_append, MultipartKind.ofWire13?_toWire13,
    expect_some]

/-- A multipart request is read back. -/
private theorem readMultipartRequest_run (r : MultipartRequest) :
    readMultipartRequest.run (write (.multipartRequest r)) = .ok r := by
  simp only [readMultipartRequest, write, List.append_assoc, run, bind_apply,
    readMultipartKind_append, u16_append, skip_zeros_append, rest_apply, pure_apply]
  rfl

/-- Ports are found by their length. -/
theorem each_readPort (ps : List Port) :
    each portSize readPort (ps.flatMap writePort) = .ok (ps.map Port.kept, []) := by
  have hlength (p : Port) : (writePort p).length = portSize := by simp [writePort, portSize]
  have hrun (p : Port) : readPort.run (writePort p) = .ok p.kept := by
    rw [← List.append_nil (writePort p)]
    exact run_of_ok (readPort_append p [])
  have hmap (ps : List Port) : (ps.map writePort).mapM readPort.run = .ok (ps.map Port.kept) := by
    induction ps with
    | nil => rfl
    | cons p ps ih =>
      rw [List.map_cons, List.mapM_cons, hrun, ih]
      rfl
  rw [each, chunks_flatMap (by decide) hlength, hmap]
  rfl

/-- A body that fits its kind is read back as that kind. -/
private theorem readMultipartBody_apply {b : MultipartBody} {k : MultipartKind} (h : b.Fits k) :
    readMultipartBody k (writeMultipartBody b) = .ok (b.kept, []) := by
  cases b with
  | desc d =>
    obtain rfl : k = .desc := h
    rw [writeMultipartBody, ← List.append_nil (Write.deviceDescriptor d), readMultipartBody,
      map_apply, deviceDescriptor_append]
    rfl
  | ports ps =>
    obtain rfl : k = .portDesc := h
    rw [writeMultipartBody, readMultipartBody, map_apply, each_readPort]
    rfl
  | raw bytes =>
    -- bytes are read as bytes only under a kind that is not parsed
    obtain ⟨hdesc, hports⟩ := h
    cases k with
    | desc => exact absurd rfl hdesc
    | portDesc => exact absurd rfl hports
    | _ => rfl

/-- A multipart reply is read back if its body fits its kind. -/
private theorem readMultipartReply_run (r : MultipartReply) (h : r.body.Fits r.kind) :
    readMultipartReply.run (write (.multipartReply r)) = .ok { r with body := r.body.kept } := by
  simp only [readMultipartReply, write, List.append_assoc, run, bind_apply,
    readMultipartKind_append, u16_append, skip_zeros_append, readMultipartBody_apply h, pure_apply]
  rfl

end V13

/-! ## Whole messages -/

namespace Message

/-- What OpenFlow 1.3 keeps of a message. -/
def kept : Message → Message
  | .hello versions => .hello (Hello.kept versions)
  | .featuresReply f => .featuresReply f.kept
  | .packetIn p => .packetIn p.kept
  | .flowRemoved r => .flowRemoved r.kept
  | .portStatus s => .portStatus s.kept
  | .packetOut p => .packetOut p.kept
  | .flowMod f => .flowMod f.kept
  | .multipartReply r => .multipartReply { r with body := r.body.kept }
  | m => m

/-- A multipart reply has a body that belongs to its kind. -/
def BodyFits : Message → Prop
  | .multipartReply r => r.body.Fits r.kind
  | _ => True

/-- The lengths that are written into fields of 16 bits within the body. -/
def innerLengths : Message → List Nat
  | .hello versions => if versions.isEmpty then [] else [4 + 4 * Hello.wordCount versions]
  | .packetIn p => [4 + p.flowMatch.fields.length]
  | .flowRemoved r => [4 + r.flowMatch.fields.length]
  | .flowMod f => [4 + f.flowMatch.fields.length]
  | .packetOut p => [p.actions.length]
  | _ => []

end Message

namespace V13
open Reader

/-- A match takes up its length field and its fields, and padding perhaps. -/
private theorem length_writeMatch (m : FlowMatch) :
    4 + m.fields.length ≤ (writeMatch m).length := by
  cases m <;> simp [writeMatch, FlowMatch.fields] <;> omega

/-- What a length counts is part of the body. -/
theorem innerLengths_le {m : Message} {n : Nat} (h : n ∈ m.innerLengths) :
    n ≤ (write m).length := by
  -- only these five bodies hold a length field; each counts a part of the body
  cases m with
  | hello versions =>
    -- without versions there is no bitmap, hence no element
    by_cases hempty : versions = []
    · subst hempty
      cases h
    · rw [Message.innerLengths, if_neg (by simpa using hempty), List.mem_singleton] at h
      have hlength := Hello.length_bitmap versions
      rw [write, Hello.write_of_ne_nil hempty]
      simp only [List.length_append, BigEndian.length_ofNat]
      omega
  | packetIn p =>
    obtain rfl := List.mem_singleton.1 h
    have hle := length_writeMatch p.flowMatch
    simp only [write, writePacketIn, List.length_append]
    omega
  | flowRemoved r =>
    obtain rfl := List.mem_singleton.1 h
    have hle := length_writeMatch r.flowMatch
    simp only [write, writeFlowRemoved, List.length_append]
    omega
  | flowMod f =>
    obtain rfl := List.mem_singleton.1 h
    have hle := length_writeMatch f.flowMatch
    simp only [write, writeFlowMod, List.length_append]
    omega
  | packetOut p =>
    obtain rfl := List.mem_singleton.1 h
    simp only [write, writePacketOut, List.length_append]
    omega
  | _ => cases h

/-- A body that is not too long is read back. -/
theorem read_write (m : Message) (hfits : m.BodyFits) (hlength : (write m).length < 65536) :
    read m.type (write m) = .ok m.kept := by
  -- what a length counts is within a body that is not too long, so none of them wraps around
  have hinner {n : Nat} (h : n ∈ m.innerLengths) : n < 65536 :=
    Nat.lt_of_le_of_lt (innerLengths_le h) hlength
  cases m with
  | hello versions => exact congrArg (Message.hello <$> ·) (Hello.read_write versions)
  | error e => exact congrArg (Message.error <$> ·) (errorMessage_run e)
  | featuresReply f => exact congrArg (Message.featuresReply <$> ·) (readFeatures_run f)
  | getConfigReply c => exact congrArg (Message.getConfigReply <$> ·) (switchConfig_run c)
  | setConfig c => exact congrArg (Message.setConfig <$> ·) (switchConfig_run c)
  | packetIn p =>
    exact congrArg (Message.packetIn <$> ·) (readPacketIn_run p (hinner List.mem_cons_self))
  | flowRemoved r =>
    exact congrArg (Message.flowRemoved <$> ·) (readFlowRemoved_run r (hinner List.mem_cons_self))
  | portStatus s => exact congrArg (Message.portStatus <$> ·) (readPortStatus_run s)
  | packetOut p =>
    exact congrArg (Message.packetOut <$> ·) (readPacketOut_run p (hinner List.mem_cons_self))
  | flowMod f =>
    exact congrArg (Message.flowMod <$> ·) (readFlowMod_run f (hinner List.mem_cons_self))
  | portMod m => exact congrArg (Message.portMod <$> ·) (readPortMod_run m)
  | multipartRequest r =>
    exact congrArg (Message.multipartRequest <$> ·) (readMultipartRequest_run r)
  | multipartReply r =>
    exact congrArg (Message.multipartReply <$> ·) (readMultipartReply_run r hfits)
  | _ => rfl

end V13

namespace Codec

/-- Every message has a type number in OpenFlow 1.3. -/
theorem exists_toWire? (t : MessageType) : ∃ n, t.toWire? Version.v13 = some n := by
  cases t <;> exact ⟨_, rfl⟩

/-- Encoding in OpenFlow 1.3, spelled out. -/
theorem encode_v13 {m : Message} {number : UInt8} (hn : m.type.toWire? Version.v13 = some number)
    (xid : Xid) :
    encode Version.v13 xid m =
      if Header.size + (V13.write m).length > maxLength
      then .error (.tooLong m.type (Header.size + (V13.write m).length))
      else .ok ((Header.mk Version.v13 number
        (UInt16.ofNat (Header.size + (V13.write m).length)) xid).encode ++ V13.write m) := by
  rw [encode, hn]
  rfl

/-- A body of the length that its header announces is read in the version of the header. -/
theorem decode_of_length {v : Version} {t : MessageType} {number : UInt8} {length : UInt16}
    {xid : Xid} {body : Bytes} {m : Message} (hn : t.toWire? v = some number)
    (hlength : (Header.mk v number length xid).bodyLength = body.length)
    (hread : readBody v t body = .ok m) :
    decode (Header.mk v number length xid) body = .ok m := by
  have htype : typeOf (Header.mk v number length xid) = .ok t := by
    rw [typeOf, MessageType.ofWire?_toWire? hn]
  rw [decode, htype, hlength]
  show (if (body.take body.length).length < body.length then _
    else readBody v t (body.take body.length)) = _
  rw [List.take_length, if_neg (Nat.lt_irrefl _), hread]

/-- A message that is too long is refused, and any other is encoded: its header says what it is and
how long, its content is read back as what OpenFlow 1.3 keeps of it, and no length within it
wraps around. -/
theorem decode_encode_v13 (m : Message) (hfits : m.BodyFits) (xid : Xid) :
    (maxLength < Header.size + (V13.write m).length → encode Version.v13 xid m =
      .error (.tooLong m.type (Header.size + (V13.write m).length))) ∧
    (Header.size + (V13.write m).length ≤ maxLength → ∃ wire h,
      encode Version.v13 xid m = .ok wire ∧
      wire.length = Header.size + (V13.write m).length ∧
      Header.decode wire = .ok h ∧
      h.version = Version.v13 ∧ m.type.toWire? Version.v13 = some h.type ∧
      h.length.toNat = wire.length ∧ h.xid = xid ∧
      decode h (wire.drop Header.size) = .ok m.kept ∧
      ∀ n ∈ m.innerLengths, BigEndian.toNat (BigEndian.ofNat 2 n) = n) := by
  obtain ⟨number, hn⟩ := exists_toWire? m.type
  rw [encode_v13 hn]
  refine ⟨fun hlong => if_pos hlong, fun hshort => ?_⟩
  rw [if_neg (Nat.not_lt.2 hshort)]
  have hsize : Header.size = 8 := rfl
  have hmax : maxLength = 65535 := rfl
  -- the length field holds the whole length because it fits 16 bits
  have htoNat : (UInt16.ofNat (Header.size + (V13.write m).length)).toNat =
      Header.size + (V13.write m).length := by
    rw [UInt16.toNat_ofNat']
    omega
  refine ⟨_, _, rfl, ?_, Header.decode_encode _ _, rfl, hn, ?_, rfl, ?_, ?_⟩
  · rw [List.length_append, Header.length_encode]
  · rw [htoNat, List.length_append, Header.length_encode]
  · rw [List.drop_left' (Header.length_encode _)]
    exact decode_of_length hn (by rw [Header.bodyLength, htoNat]; omega)
      (V13.read_write m hfits (by omega))
  · intro n hmem
    refine BigEndian.toNat_ofNat_of_lt ?_
    -- an inner length counts a part of what fits, so it is not cut either
    have hle := V13.innerLengths_le hmem
    have hcount : BigEndian.count 2 = 65536 := rfl
    omega

/-- A reply with statistics, whose kind takes any bytes. -/
theorem decode_encode_statistics :
    ∃ wire h, encode Version.v13 7 (.multipartReply { kind := .table, body := .raw [1, 2, 3] }) =
        .ok wire ∧
      wire.length = 19 ∧ Header.decode wire = .ok h ∧ h.xid = 7 ∧
      decode h (wire.drop Header.size) =
        .ok (.multipartReply { kind := .table, body := .raw [1, 2, 3] }) := by
  have hfits : MultipartBody.Fits (.raw [1, 2, 3]) .table := ⟨by decide, by decide⟩
  obtain ⟨wire, h, hwire, hlength, hheader, -, -, -, hxid, hdecode, -⟩ :=
    (decode_encode_v13 (.multipartReply { kind := .table, body := .raw [1, 2, 3] }) hfits 7).2
      (by decide)
  exact ⟨wire, h, hwire, hlength, hheader, hxid, hdecode⟩

end Codec

end Southbound
