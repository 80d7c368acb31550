import Southbound.Proofs.Wire.V13

/-!
# What OpenFlow 1.0 keeps of a message

This version has no form for some messages. `Message.IsV10` says which ones have a form, and
`Message.length10` how long it is. Such a message is written and read back as `Message.kept10`:

* `V10.read_write`            a body that has a form is written, and read back
* `V10.isV10_of_write`        no other body is written
* `Codec.decode_encode_v10`   the same for a whole message with its header
-/

namespace Southbound

/-! ## What has a form -/

/-- Port numbers of 16 bits stand for the numbers below the reserved ones and for the last 256. -/
def PortNumber.IsShort (n : PortNumber) : Prop := n.toNat < 0xff00 ∨ 0xffffff00 ≤ n.toNat

/-- A match of OpenFlow 1.0 has one length. -/
def FlowMatch.IsV10 : FlowMatch → Prop
  | .all => True
  | .raw bytes => bytes.length = matchLength10

/-- Only a description is more than bytes, and only a description is asked for as one. -/
def MultipartBody.Fits10 : MultipartBody → MultipartKind → Prop
  | .desc _, k => k = .desc
  | .raw _, k => k ≠ .desc
  | .ports _, _ => False

namespace Message

/-- A multipart reply has a body that belongs to its kind. -/
def BodyFits10 : Message → Prop
  | .multipartReply r => r.body.Fits10 r.kind
  | _ => True

/-- The messages that have a form in OpenFlow 1.0. -/
def IsV10 : Message → Prop
  | .groupMod _ => False
  | .featuresReply f => ∀ p ∈ f.ports, p.number.IsShort
  | .packetIn p => p.inPort.IsShort
  | .flowRemoved r => r.flowMatch.IsV10
  | .portStatus s => s.port.number.IsShort
  | .packetOut p => p.inPort.IsShort
  | .flowMod f => f.flowMatch.IsV10 ∧ f.outPort.IsShort
  | .portMod m => m.number.IsShort
  | .multipartRequest r => r.kind.isStats10 = true
  | .multipartReply r => r.kind.isStats10 = true
  | _ => True

/-- The length of the body. -/
def length10 : Message → Nat
  | .error e => 4 + e.data.length
  | .echoRequest data | .echoReply data | .experimenter data => data.length
  | .featuresReply f => 24 + V10.portSize * f.ports.length
  | .getConfigReply _ | .setConfig _ => 4
  | .packetIn p => 10 + p.data.length
  | .flowRemoved _ => matchLength10 + 40
  | .portStatus _ => 8 + V10.portSize
  | .packetOut p => 8 + p.actions.length + p.data.length
  | .flowMod f => matchLength10 + 24 + f.instructions.length
  | .portMod _ => 24
  | .multipartRequest r => 4 + r.body.length
  | .multipartReply r =>
    match r.body with
    | .desc _ => 4 + 1056
    | .raw bytes => 4 + bytes.length
    | .ports _ => 4
  | _ => 0

end Message

/-! ## What is kept -/

/-- All wildcards together have a name. -/
def FlowMatch.kept10 : FlowMatch → FlowMatch
  | .all => .all
  | .raw bytes => if bytes = V10.wildcards then .all else .raw bytes

def Port.kept10 (p : Port) : Port := { p.kept with currentSpeed := 0, maxSpeed := 0 }

def SwitchFeatures.kept10 (f : SwitchFeatures) : SwitchFeatures :=
  { f with auxiliaryId := 0, ports := f.ports.map Port.kept10 }

def PacketIn.kept10 (p : PacketIn) : PacketIn :=
  { p with buffer := keptBuffer p.buffer, table := 0, cookie := 0, flowMatch := .all }

def FlowRemoved.kept10 (r : FlowRemoved) : FlowRemoved :=
  { r with table := 0, hardTimeout := 0, flowMatch := r.flowMatch.kept10 }

def PortStatus.kept10 (s : PortStatus) : PortStatus := { s with port := s.port.kept10 }

/-- A deletion that selects by subset applies to every table, and anything else to the first. -/
def FlowMod.kept10 (f : FlowMod) : FlowMod :=
  { f with
    version := some Version.v10
    cookieMask := 0
    table := if f.command = .delete then allTables else 0
    buffer := keptBuffer f.buffer
    outGroup := anyGroup
    flowMatch := f.flowMatch.kept10 }

/-- What OpenFlow 1.0 keeps of a message. -/
def Message.kept10 : Message → Message
  | .hello _ => .hello []
  | .featuresReply f => .featuresReply f.kept10
  | .packetIn p => .packetIn p.kept10
  | .flowRemoved r => .flowRemoved r.kept10
  | .portStatus s => .portStatus s.kept10
  | .packetOut p => .packetOut p.kept
  | .flowMod f => .flowMod f.kept10
  | .multipartReply r => .multipartReply { r with body := r.body.kept }
  | m => m

namespace V10
open Reader

/-! ## Port numbers -/

/-- A port number that was 16 bits wide can be expressed in 16 bits. -/
theorem isShort_widenPort (k : UInt16) : (widenPort k).IsShort := by
  have hk : k.toNat < 65536 := UInt16.toNat_lt k
  unfold PortNumber.IsShort widenPort reservedPort
  split
  · rw [UInt32.toNat_ofNat']
    omega
  · rw [UInt16.toNat_toUInt32]
    omega

/-- Narrowing takes back what widening gives, and nothing else. -/
theorem narrowPort?_eq_some_iff {n : PortNumber} {k : UInt16} :
    narrowPort? n = some k ↔ widenPort k = n := by
  constructor
  · intro h
    have hn : n.toNat < 4294967296 := UInt32.toNat_lt n
    apply UInt32.toNat_inj.1
    unfold narrowPort? reservedPort at h
    unfold widenPort reservedPort
    split at h
    · next hhigh =>
      -- a reserved number: only its lower half is sent
      obtain rfl := Option.some.inj h
      rw [UInt16.toNat_ofNat', if_pos (by omega), UInt32.toNat_ofNat']
      omega
    · split at h
      · next hlow =>
        -- an ordinary number that 16 bits can hold
        obtain rfl := Option.some.inj h
        rw [UInt16.toNat_ofNat', if_neg (by omega), UInt16.toNat_toUInt32, UInt16.toNat_ofNat']
        omega
      · cases h
  · rintro rfl
    exact narrowPort?_widenPort k

/-- A port number can be expressed in 16 bits if it can be narrowed to them. -/
theorem isShort_iff {n : PortNumber} : n.IsShort ↔ ∃ k, narrowPort? n = some k := by
  constructor
  · intro h
    unfold narrowPort? reservedPort
    rcases h with hlow | hhigh
    · exact ⟨_, by rw [if_neg (by omega), if_pos hlow]⟩
    · exact ⟨_, by rw [if_pos (by omega)]⟩
  · rintro ⟨k, hk⟩
    rw [← narrowPort?_eq_some_iff.1 hk]
    exact isShort_widenPort k

/-- Only a port number that 16 bits can express is written. -/
private theorem isShort_of_write {n : PortNumber} {bs : Bytes} (h : writePortNumber n = .ok bs) :
    n.IsShort := by
  unfold writePortNumber at h
  split at h
  · next k hk => exact isShort_iff.2 ⟨k, hk⟩
  · cases h

/-- Such a port number is written in 2 bytes, from which it is read back. -/
private theorem portNumber_written {n : PortNumber} (h : n.IsShort) :
    ∃ bs, writePortNumber n = .ok bs ∧ bs.length = 2 ∧
      ∀ tail, readPortNumber (bs ++ tail) = .ok (n, tail) := by
  obtain ⟨k, hk⟩ := isShort_iff.1 h
  refine ⟨Write.u16 k, by rw [writePortNumber, hk], Write.length_u16 k, fun tail => ?_⟩
  rw [readPortNumber, map_apply, u16_append]
  exact congrArg (fun n => Except.ok (n, tail)) (narrowPort?_eq_some_iff.1 hk)

/-! ## Parts -/

/-- Only a match that 1.0 can express is written. -/
private theorem isV10_of_writeMatch {m : FlowMatch} {bs : Bytes} (h : writeMatch m = .ok bs) :
    m.IsV10 := by
  cases m with
  | all => trivial
  | raw bytes =>
    rw [writeMatch] at h
    split at h
    · next hlength => exact hlength
    · cases h

/-- Such a match is written in 40 bytes, from which it is read as it is kept. -/
theorem match_written {m : FlowMatch} (h : m.IsV10) :
    ∃ bs, writeMatch m = .ok bs ∧ bs.length = matchLength10 ∧
      ∀ tail, readMatch (bs ++ tail) = .ok (m.kept10, tail) := by
  have hread (bs tail : Bytes) (hbs : bs.length = matchLength10) :
      readMatch (bs ++ tail) = .ok (if bs = wildcards then .all else .raw bs, tail) := by
    rw [readMatch, bind_of_ok (bytes_append _ _ _ hbs), pure_apply]
  cases m with
  | all => exact ⟨wildcards, rfl, rfl, fun tail => hread wildcards tail rfl⟩
  | raw bytes => exact ⟨bytes, if_pos h, h, fun tail => hread bytes tail h⟩

/-- A port with a short number is written in 48 bytes, from which it is read as it is kept. -/
private theorem port_written {p : Port} (h : p.number.IsShort) :
    ∃ bs, writePort p = .ok bs ∧ bs.length = portSize ∧
      ∀ tail, readPort (bs ++ tail) = .ok (p.kept10, tail) := by
  obtain ⟨number, hnumber, hlength, hread⟩ := portNumber_written h
  have hname := FixedText.read_append (show 0 < 16 by decide) p.name
  refine ⟨_, by rw [writePort, hnumber]; rfl, ?_, fun tail => ?_⟩
  · simp only [List.length_append, hlength, MacAddress.length_toBytes, FixedText.length_encode,
      Write.length_u32, portSize]
  · rw [readPort, bind_of_ok (need_append _ _ _ ?_)]
    · simp only [List.append_assoc, bind_apply, hread, mac_append, hname, u32_append, pure_apply]
      rfl
    · simp only [List.length_append, hlength, MacAddress.length_toBytes, FixedText.length_encode,
        Write.length_u32, portSize]

/-- One port in front of others. -/
theorem each_append {α : Type} {size : Nat} {item : Reader α} {piece rest : Bytes} {a : α}
    {as : List α} (hsize : 0 < size) (hlength : piece.length = size) (ha : item.run piece = .ok a)
    (has : each size item rest = .ok (as, [])) :
    each size item (piece ++ rest) = .ok (a :: as, []) := by
  -- reading the rest succeeded, so each of its pieces was read
  have hmap : (chunks size rest).mapM item.run = .ok as := by
    rw [each] at has
    cases hrest : (chunks size rest).mapM item.run with
    | ok bs =>
      rw [hrest] at has
      exact congrArg Except.ok (Prod.mk.inj (Except.ok.inj has)).1
    | error e =>
      rw [hrest] at has
      cases has
  rw [each, chunks_append hsize hlength, List.mapM_cons, ha, hmap]
  rfl

/-- Ports with short numbers are written one after the other, and are read back so. -/
private theorem ports_written {ps : List Port} (h : ∀ p ∈ ps, p.number.IsShort) :
    ∃ bss, ps.mapM writePort = .ok bss ∧ bss.flatten.length = portSize * ps.length ∧
      each portSize readPort bss.flatten = .ok (ps.map Port.kept10, []) := by
  induction ps with
  | nil => exact ⟨[], rfl, rfl, by rw [List.flatten_nil, each, chunks_nil]; rfl⟩
  | cons p ps ih =>
    obtain ⟨bs, hbs, hlength, hread⟩ := port_written (h p List.mem_cons_self)
    obtain ⟨bss, hbss, hlengths, hreads⟩ := ih fun q hq => h q (List.mem_cons_of_mem p hq)
    -- a port is 48 bytes whatever is in it, so the cut after each 48 falls between two ports
    have hrun : readPort.run bs = .ok p.kept10 := by
      have := hread []
      rw [List.append_nil] at this
      exact run_of_ok this
    refine ⟨bs :: bss, by rw [List.mapM_cons, hbs, hbss]; rfl, ?_, ?_⟩
    · rw [List.flatten_cons, List.length_append, hlength, hlengths, List.length_cons,
        Nat.mul_succ, Nat.add_comm]
    · rw [List.flatten_cons, List.map_cons]
      exact each_append (by decide) hlength hrun hreads

/-! ## Bodies -/

/-- Features whose ports have short numbers are written and read back. -/
private theorem features_written {f : SwitchFeatures} (h : ∀ p ∈ f.ports, p.number.IsShort) :
    ∃ bs, writeFeatures f = .ok bs ∧ bs.length = 24 + portSize * f.ports.length ∧
      readFeatures.run bs = .ok f.kept10 := by
  obtain ⟨ports, hports, hlength, hread⟩ := ports_written h
  refine ⟨_, by rw [writeFeatures, hports]; rfl, ?_, ?_⟩
  · simp only [List.length_append, Write.length_u64, Write.length_u32, Write.length_u8,
      Write.length_zeros, hlength]
  · simp only [readFeatures, List.append_assoc, run, bind_apply, u64_append, u32_append, u8_append,
      skip_zeros_append, hread, pure_apply]
    rfl

/-- A packet that came in at a short port is written and read back. -/
private theorem packetIn_written {p : PacketIn} (h : p.inPort.IsShort) :
    ∃ bs, writePacketIn p = .ok bs ∧ bs.length = 10 + p.data.length ∧
      readPacketIn.run bs = .ok p.kept10 := by
  obtain ⟨inPort, hinPort, hlength, hread⟩ := portNumber_written h
  refine ⟨_, by rw [writePacketIn, hinPort]; rfl, ?_, ?_⟩
  · simp only [List.length_append, Write.buffer, Write.length_u32, Write.length_u16,
      Write.length_u8, Write.length_zeros, hlength]
  · simp only [readPacketIn, List.append_assoc, run, bind_apply, buffer_append, u16_append,
      u8_append, hread, skip_zeros_append, rest_apply, pure_apply]
    rfl

/-- The removal of a flow is written and read back if 1.0 can express its match. -/
private theorem flowRemoved_written {r : FlowRemoved} (h : r.flowMatch.IsV10) :
    ∃ bs, writeFlowRemoved r = .ok bs ∧ bs.length = matchLength10 + 40 ∧
      readFlowRemoved.run bs = .ok r.kept10 := by
  obtain ⟨flowMatch, hmatch, hlength, hread⟩ := match_written h
  refine ⟨_, by rw [writeFlowRemoved, hmatch]; rfl, ?_, ?_⟩
  · simp only [List.length_append, Write.length_u64, Write.length_u32, Write.length_u16,
      Write.length_u8, Write.length_zeros, hlength]
  · rw [← List.append_nil (_ ++ Write.u64 r.byteCount)]
    simp only [readFlowRemoved, List.append_assoc, run, bind_apply, hread, u64_append, u32_append,
      u16_append, u8_append, skip_zeros_append, pure_apply]
    rfl

/-- A change of a port with a short number is written and read back. -/
private theorem portStatus_written {s : PortStatus} (h : s.port.number.IsShort) :
    ∃ bs, writePortStatus s = .ok bs ∧ bs.length = 8 + portSize ∧
      readPortStatus.run bs = .ok s.kept10 := by
  obtain ⟨port, hport, hlength, hread⟩ := port_written h
  refine ⟨_, by rw [writePortStatus, hport]; rfl, ?_, ?_⟩
  · simp only [List.length_append, Write.length_u8, Write.length_zeros, hlength]
  · rw [← List.append_nil (_ ++ port)]
    simp only [readPortStatus, List.append_assoc, run, bind_apply, portReason_append,
      skip_zeros_append, hread, pure_apply]
    rfl

/-- A packet for a switch is written, and read back if the length of its actions fits. -/
private theorem packetOut_written {p : PacketOut} (h : p.inPort.IsShort) :
    ∃ bs, writePacketOut p = .ok bs ∧ bs.length = 8 + p.actions.length + p.data.length ∧
      (p.actions.length < 65536 → readPacketOut.run bs = .ok p.kept) := by
  obtain ⟨inPort, hinPort, hlength, hread⟩ := portNumber_written h
  refine ⟨_, by rw [writePacketOut, hinPort]; rfl, ?_, fun hactions => ?_⟩
  · simp only [List.length_append, Write.buffer, Write.length_u32, BigEndian.length_ofNat, hlength]
  · simp only [readPacketOut, List.append_assoc, run, bind_apply, buffer_append, hread,
      length_append hactions, bytes_append _ _ _ rfl, rest_apply, pure_apply]
    rfl

/-- A change of a flow is written and read back if 1.0 can express its match and its port. -/
theorem flowMod_written {f : FlowMod} (hmatch : f.flowMatch.IsV10) (hport : f.outPort.IsShort) :
    ∃ bs, writeFlowMod f = .ok bs ∧
      bs.length = matchLength10 + 24 + f.instructions.length ∧
      readFlowMod.run bs = .ok f.kept10 := by
  obtain ⟨flowMatch, hwriteMatch, hmatchLength, hreadMatch⟩ := match_written hmatch
  obtain ⟨outPort, hwritePort, hportLength, hreadPort⟩ := portNumber_written hport
  refine ⟨_, by rw [writeFlowMod, hwriteMatch, hwritePort]; rfl, ?_, ?_⟩
  · simp only [List.length_append, Write.buffer, Write.length_u64, Write.length_u32,
      Write.length_u16, hmatchLength, hportLength]
  · simp only [readFlowMod, List.append_assoc, run, bind_apply, hreadMatch, buffer_append,
      u64_append, u16_append, hreadPort, FlowCommand.ofWire?_toWire, expect_some, rest_apply,
      pure_apply]
    rfl

/-- A change of the configuration of a port with a short number is written and read back. -/
private theorem portMod_written {m : PortMod} (h : m.number.IsShort) :
    ∃ bs, writePortMod m = .ok bs ∧ bs.length = 24 ∧ readPortMod.run bs = .ok m := by
  obtain ⟨number, hnumber, hlength, hread⟩ := portNumber_written h
  refine ⟨_, by rw [writePortMod, hnumber]; rfl, ?_, ?_⟩
  · simp only [List.length_append, MacAddress.length_toBytes, Write.length_u32,
      Write.length_zeros, hlength]
  · rw [← List.append_nil (_ ++ Write.zeros 4)]
    simp only [readPortMod, List.append_assoc, run, bind_apply, hread, mac_append, u32_append,
      skip_zeros_append, pure_apply]
    rfl

/-- A kind of statistics is written in 2 bytes, from which it is read back. -/
private theorem multipartKind_written {k : MultipartKind} (h : k.isStats10 = true) :
    ∃ bs, writeMultipartKind k = .ok bs ∧ bs.length = 2 ∧
      ∀ tail, readMultipartKind (bs ++ tail) = .ok (k, tail) := by
  have hk : k.toWire10? = some k.toWire13 := if_pos h
  refine ⟨Write.u16 k.toWire13, by rw [writeMultipartKind, hk], Write.length_u16 _,
    fun tail => ?_⟩
  simp only [readMultipartKind, bind_apply, u16_append, MultipartKind.ofWire10?_toWire10? hk,
    expect_some]

/-- Only kinds that 1.0 knows are written. -/
private theorem isStats10_of_write {k : MultipartKind} {bs : Bytes}
    (h : writeMultipartKind k = .ok bs) :
    k.isStats10 = true := by
  by_contra hk
  have hnone : k.toWire10? = none := if_neg hk
  rw [writeMultipartKind, hnone] at h
  cases h

/-- A request for statistics is written and read back. -/
private theorem multipartRequest_written {r : MultipartRequest} (h : r.kind.isStats10 = true) :
    ∃ bs, write (.multipartRequest r) = .ok bs ∧ bs.length = 4 + r.body.length ∧
      readMultipartRequest.run bs = .ok r := by
  obtain ⟨kind, hkind, hlength, hread⟩ := multipartKind_written h
  refine ⟨_, by rw [write, hkind]; rfl, ?_, ?_⟩
  · simp only [List.length_append, hlength, Write.length_u16]
  · simp only [readMultipartRequest, List.append_assoc, run, bind_apply, hread, u16_append,
      rest_apply, pure_apply]
    rfl

/-- A reply whose body fits its kind of statistics is written and read back. -/
private theorem multipartReply_written {r : MultipartReply} (h : r.kind.isStats10 = true)
    (hfits : r.body.Fits10 r.kind) :
    ∃ bs, write (.multipartReply r) = .ok bs ∧
      bs.length = (Message.multipartReply r).length10 ∧
      readMultipartReply.run bs = .ok { r with body := r.body.kept } := by
  obtain ⟨k, flags, body⟩ := r
  obtain ⟨kind, hkind, hlength, hread⟩ := multipartKind_written h
  cases body with
  | desc d =>
    obtain rfl : k = .desc := hfits
    refine ⟨_, by rw [write, hkind]; rfl, ?_, ?_⟩
    · simp only [Message.length10, List.length_append, hlength, Write.length_u16,
        Write.deviceDescriptor, FixedText.length_encode]
    -- the descriptor reads only what is its own, whatever follows
    · rw [← List.append_nil (_ ++ Write.deviceDescriptor d)]
      simp only [readMultipartReply, List.append_assoc, run, bind_apply, hread, u16_append,
        readMultipartBody, map_apply, deviceDescriptor_append, pure_apply]
      rfl
  | raw bytes =>
    refine ⟨_, by rw [write, hkind]; rfl, ?_, ?_⟩
    · simp only [Message.length10, List.length_append, hlength, Write.length_u16]
    · -- whatever the kind asks for, it is not a description
      have hbody : readMultipartBody k = MultipartBody.raw <$> rest := by
        cases k with
        | desc => exact absurd rfl hfits
        | _ => rfl
      simp only [readMultipartReply, List.append_assoc, run, bind_apply, hread, u16_append, hbody,
        map_apply, rest_apply, pure_apply]
      rfl
  | ports ps => cases hfits

/-! ## All bodies -/

/-- A body that is read back whatever its length. -/
theorem read_of_written {m : Message} {α : Type} (f : α → Message) {r : Reader α} {a : α}
    (hread : ∀ bs, read m.type bs = f <$> r.run bs) (hkept : m.kept10 = f a)
    (hwritten : ∃ bs, write m = .ok bs ∧ bs.length = m.length10 ∧ r.run bs = .ok a) :
    ∃ bs, write m = .ok bs ∧ bs.length = m.length10 ∧
      (bs.length < 65536 → read m.type bs = .ok m.kept10) := by
  obtain ⟨bs, hbs, hlength, hrun⟩ := hwritten
  exact ⟨bs, hbs, hlength, fun _ => by rw [hread, hrun, hkept]; rfl⟩

/-- A body that has a form is written, and what is written is read back if it is not too long. -/
theorem read_write {m : Message} (hfits : m.BodyFits10) (h : m.IsV10) :
    ∃ bs, write m = .ok bs ∧ bs.length = m.length10 ∧
      (bs.length < 65536 → read m.type bs = .ok m.kept10) := by
  cases m with
  | error e =>
    refine read_of_written .error (fun _ => rfl) rfl ⟨_, rfl, ?_, errorMessage_run e⟩
    simp only [Write.errorMessage, List.length_append, Write.length_u16, Message.length10]
  | featuresReply f => exact read_of_written .featuresReply (fun _ => rfl) rfl (features_written h)
  | getConfigReply c =>
    exact read_of_written .getConfigReply (fun _ => rfl) rfl ⟨_, rfl, rfl, switchConfig_run c⟩
  | setConfig c =>
    exact read_of_written .setConfig (fun _ => rfl) rfl ⟨_, rfl, rfl, switchConfig_run c⟩
  | packetIn p => exact read_of_written .packetIn (fun _ => rfl) rfl (packetIn_written h)
  | flowRemoved r => exact read_of_written .flowRemoved (fun _ => rfl) rfl (flowRemoved_written h)
  | portStatus s => exact read_of_written .portStatus (fun _ => rfl) rfl (portStatus_written h)
  -- the length of the actions stands in the body, and holds only if the body fits
  | packetOut p =>
    obtain ⟨bs, hbs, hlength, hread⟩ := packetOut_written h
    refine ⟨bs, hbs, hlength, fun hlt => ?_⟩
    exact congrArg (Message.packetOut <$> ·) (hread (by omega))
  | flowMod f => exact read_of_written .flowMod (fun _ => rfl) rfl (flowMod_written h.1 h.2)
  | portMod m => exact read_of_written .portMod (fun _ => rfl) rfl (portMod_written h)
  | multipartRequest r =>
    exact read_of_written .multipartRequest (fun _ => rfl) rfl (multipartRequest_written h)
  | multipartReply r =>
    exact read_of_written .multipartReply (fun _ => rfl) rfl (multipartReply_written h hfits)
  | groupMod data => cases h
  | _ => exact ⟨_, rfl, rfl, fun _ => rfl⟩

/-- The first of two steps that both succeed. -/
theorem ok_of_bind {α β : Type} {x : Except WireError α} {f : α → Except WireError β} {b : β}
    (h : x >>= f = .ok b) : ∃ a, x = .ok a ∧ f a = .ok b := by
  cases x with
  | ok a => exact ⟨a, rfl, h⟩
  | error e => cases h

/-- Only a port with a short number is written. -/
private theorem isShort_of_writePort {p : Port} {bs : Bytes} (h : writePort p = .ok bs) :
    p.number.IsShort := by
  obtain ⟨_, hnumber, -⟩ := ok_of_bind h
  exact isShort_of_write hnumber

/-- Ports are written only if all of them have short numbers. -/
private theorem isShort_of_writePorts {ps : List Port} {bss : List Bytes}
    (h : ps.mapM writePort = .ok bss) : ∀ p ∈ ps, p.number.IsShort := by
  induction ps generalizing bss with
  | nil => intro p hp; cases hp
  | cons p ps ih =>
    rw [List.mapM_cons] at h
    obtain ⟨_, hfirst, h⟩ := ok_of_bind h
    obtain ⟨_, hrest, -⟩ := ok_of_bind h
    intro q hq
    rcases List.mem_cons.1 hq with rfl | hq
    · exact isShort_of_writePort hfirst
    · exact ih hrest q hq

/-- What has no form is not written. -/
theorem isV10_of_write {m : Message} {bs : Bytes} (h : write m = .ok bs) : m.IsV10 := by
  -- writing fails exactly where a port number or a kind has no counterpart, so success says there
  -- is one
  cases m with
  | featuresReply f =>
    obtain ⟨_, hports, -⟩ := ok_of_bind h
    exact isShort_of_writePorts hports
  | packetIn p =>
    obtain ⟨_, hport, -⟩ := ok_of_bind h
    exact isShort_of_write hport
  | flowRemoved r =>
    obtain ⟨_, hmatch, -⟩ := ok_of_bind h
    exact isV10_of_writeMatch hmatch
  | portStatus s =>
    obtain ⟨_, hport, -⟩ := ok_of_bind h
    exact isShort_of_writePort hport
  | packetOut p =>
    obtain ⟨_, hport, -⟩ := ok_of_bind h
    exact isShort_of_write hport
  | flowMod f =>
    obtain ⟨_, hmatch, h⟩ := ok_of_bind h
    obtain ⟨_, hport, -⟩ := ok_of_bind h
    exact ⟨isV10_of_writeMatch hmatch, isShort_of_write hport⟩
  | portMod m =>
    obtain ⟨_, hport, -⟩ := ok_of_bind h
    exact isShort_of_write hport
  | multipartRequest r =>
    obtain ⟨_, hkind, -⟩ := ok_of_bind h
    exact isStats10_of_write hkind
  | multipartReply r =>
    obtain ⟨_, hkind, -⟩ := ok_of_bind h
    exact isStats10_of_write hkind
  | groupMod data => cases h
  | _ => trivial

end V10

/-! ## Whole messages -/

namespace Codec

/-- Every message that has a form has a type number. -/
theorem exists_toWire10? {m : Message} (h : m.IsV10) :
    ∃ n, m.type.toWire? Version.v10 = some n := by
  cases m with
  | groupMod => cases h
  | _ => exact ⟨_, rfl⟩

/-- Encoding in OpenFlow 1.0 succeeds if the body has a form and is not too long. -/
theorem encode_v10_eq_ok_iff {m : Message} {xid : Xid} {wire : Bytes} :
    encode Version.v10 xid m = .ok wire ↔ ∃ number body,
      m.type.toWire? Version.v10 = some number ∧ V10.write m = .ok body ∧
      Header.size + body.length ≤ maxLength ∧
      wire = (Header.mk Version.v10 number
        (UInt16.ofNat (Header.size + body.length)) xid).encode ++ body := by
  have hbody : writeBody Version.v10 m = V10.write m := rfl
  rw [encode, hbody]
  constructor
  -- three things can fail, in this order: the type, the body, the length
  · intro h
    split at h
    · cases h
    · next number hnumber =>
      obtain ⟨body, hwrite, h⟩ := V10.ok_of_bind h
      dsimp only at h
      split at h
      · cases h
      · next hshort =>
        exact ⟨number, body, hnumber, hwrite, Nat.not_lt.1 hshort, (Except.ok.inj h).symm⟩
  · rintro ⟨number, body, hnumber, hwrite, hshort, rfl⟩
    simp only [hnumber, hwrite]
    exact if_neg (Nat.not_lt.2 hshort)

/-- A message is encoded if and only if it has a form and is not too long with its header. The
header says what it is and how long, and its content is read back as what OpenFlow 1.0 keeps
of it. -/
theorem decode_encode_v10 (m : Message) (hfits : m.BodyFits10) (xid : Xid) :
    ((∃ wire, encode Version.v10 xid m = .ok wire) ↔
      m.IsV10 ∧ Header.size + m.length10 ≤ maxLength) ∧
    ∀ wire, encode Version.v10 xid m = .ok wire → ∃ h,
      wire.length = Header.size + m.length10 ∧
      Header.decode wire = .ok h ∧
      h.version = Version.v10 ∧ m.type.toWire? Version.v10 = some h.type ∧
      h.length.toNat = wire.length ∧ h.xid = xid ∧
      decode h (wire.drop Header.size) = .ok m.kept10 := by
  have hsize : Header.size = 8 := rfl
  have hmax : maxLength = 65535 := rfl
  refine ⟨⟨?_, ?_⟩, ?_⟩
  · rintro ⟨wire, hwire⟩
    obtain ⟨_, body, -, hbody, hshort, -⟩ := encode_v10_eq_ok_iff.1 hwire
    have h := V10.isV10_of_write hbody
    obtain ⟨bs, hbs, hlength, -⟩ := V10.read_write hfits h
    obtain rfl := Except.ok.inj (hbody.symm.trans hbs)
    exact ⟨h, hlength ▸ hshort⟩
  · rintro ⟨h, hshort⟩
    obtain ⟨number, hnumber⟩ := exists_toWire10? h
    obtain ⟨body, hbody, hlength, -⟩ := V10.read_write hfits h
    exact ⟨_, encode_v10_eq_ok_iff.2 ⟨number, body, hnumber, hbody, hlength ▸ hshort, rfl⟩⟩
  · intro wire hwire
    obtain ⟨number, body, hnumber, hbody, hshort, rfl⟩ := encode_v10_eq_ok_iff.1 hwire
    obtain ⟨bs, hbs, hlength, hread⟩ := V10.read_write hfits (V10.isV10_of_write hbody)
    obtain rfl := Except.ok.inj (hbody.symm.trans hbs)
    -- the length field holds the whole length because it fits 16 bits
    have htoNat : (UInt16.ofNat (Header.size + body.length)).toNat =
        Header.size + body.length := by
      rw [UInt16.toNat_ofNat']
      omega
    refine ⟨_, ?_, Header.decode_encode _ _, rfl, hnumber, ?_, rfl, ?_⟩
    · rw [List.length_append, Header.length_encode, hlength]
    · rw [htoNat, List.length_append, Header.length_encode]
    · rw [List.drop_left' (Header.length_encode _)]
      exact decode_of_length hnumber (by rw [Header.bodyLength, htoNat]; omega)
        (hread (by omega))

/-- A deletion for the last port, with a buffer that is none and a match of all wildcards. -/
theorem decode_encode_deletion :
    ∃ wire h, encode Version.v10 7 (.flowMod { FlowMod.deleteAll with
        buffer := some 0xffffffff, outPort := 0xfffffffd, flowMatch := .raw V10.wildcards }) =
        .ok wire ∧
      wire.length = 72 ∧ Header.decode wire = .ok h ∧ h.xid = 7 ∧
      decode h (wire.drop Header.size) = .ok (.flowMod { FlowMod.deleteAll with
        version := some Version.v10, outPort := 0xfffffffd }) := by
  obtain ⟨hiff, hwire⟩ := decode_encode_v10 (.flowMod { FlowMod.deleteAll with
    buffer := some 0xffffffff, outPort := 0xfffffffd, flowMatch := .raw V10.wildcards }) trivial 7
  obtain ⟨wire, hok⟩ := hiff.2 ⟨⟨rfl, .inr (by decide)⟩, by decide⟩
  obtain ⟨h, hlength, hheader, -, -, -, hxid, hdecode⟩ := hwire wire hok
  exact ⟨wire, h, hok, hlength, hheader, hxid, hdecode⟩

end Codec

end Southbound
