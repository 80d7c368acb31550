import Southbound.Proofs.Wire.V10

/-!
# What the check of a flow leaves open

`FlowMod.validate` looks at the version, the table and the match of a flow. Whether the flow can be
encoded depends on two more things, `FlowMod.Travels`: in OpenFlow 1.0 the number of the output port
has to have a form, and in every version the whole message has a greatest length.

* `FlowMod.validate_eq_ok_iff`  what is checked
* `Codec.encode_validated`      what encoding makes of a flow that has passed
-/

namespace Southbound

/-! ## What is checked -/

namespace FlowMod

/-- The flow is written for version `v`, for a table it can be for, and with a match of the
version. -/
structure IsFor (f : FlowMod) (v : Version) : Prop where
  built : ∀ w, f.version = some w → w = v
  table : f.command.isWrite = true → f.table ≠ allTables
  flowMatch : checkMatch v f.flowMatch = .ok ()

/-- The later checks are those of the table and of the match. -/
private theorem rest_eq_ok_iff {f : FlowMod} {v : Version} :
    validate.rest f v = .ok () ↔
      (f.command.isWrite = true → f.table ≠ allTables) ∧ checkMatch v f.flowMatch = .ok () := by
  unfold validate.rest
  split
  · next h => exact ⟨fun hok => (by cases hok), fun hok => absurd h.2 (hok.1 h.1)⟩
  · next h => exact ⟨fun hok => ⟨fun hwrite htable => h ⟨hwrite, htable⟩, hok⟩, And.right⟩

/-- A flow passes if and only if nothing is wrong with its version, its table and its match. -/
theorem validate_eq_ok_iff {f : FlowMod} {v : Version} : f.validate v = .ok () ↔ f.IsFor v := by
  -- the version is asked only of a match that was built for one
  unfold validate
  split
  · next built hbuilt =>
    split
    · next hspoken =>
      rw [rest_eq_ok_iff]
      refine ⟨fun ⟨htable, hmatch⟩ => ⟨fun w hw => ?_, htable, hmatch⟩,
        fun h => ⟨h.table, h.flowMatch⟩⟩
      exact Option.some.inj (hw.symm.trans hbuilt) ▸ hspoken
    · next hspoken =>
      exact ⟨fun hok => (by cases hok), fun h => absurd (h.built _ hbuilt) hspoken⟩
  · next hnone =>
    rw [rest_eq_ok_iff]
    refine ⟨fun ⟨htable, hmatch⟩ => ⟨fun w hw => ?_, htable, hmatch⟩,
      fun h => ⟨h.table, h.flowMatch⟩⟩
    rw [hnone] at hw
    cases hw

/-- In OpenFlow 1.0 a match passes if and only if it has a form. -/
theorem checkMatch_v10_iff {m : FlowMatch} : checkMatch Version.v10 m = .ok () ↔ m.IsV10 := by
  cases m with
  | all => exact ⟨fun _ => trivial, fun _ => rfl⟩
  | raw bytes =>
    rw [checkMatch, if_pos rfl]
    split
    · next hlength => exact ⟨fun _ => hlength, fun _ => rfl⟩
    · next hlength => exact ⟨fun hok => (by cases hok), fun h => absurd h hlength⟩

/-! ## What is not checked -/

/-- The length of the whole message in version `v`: a match of OpenFlow 1.0 has one length, and one
of OpenFlow 1.3 is padded. -/
def wireLength (f : FlowMod) (v : Version) : Nat :=
  let matchLength := 4 + f.flowMatch.fields.length
  if v = Version.v10 then Header.size + (matchLength10 + 24 + f.instructions.length)
  else Header.size + (40 + matchLength + Hello.padding matchLength + f.instructions.length)

/-- The number of the output port has a form in version `v`. -/
def PortFits (f : FlowMod) (v : Version) : Prop := v = Version.v10 → f.outPort.IsShort

/-- The part of being encodable that the check does not look at. -/
def Travels (f : FlowMod) (v : Version) : Prop :=
  f.PortFits v ∧ f.wireLength v ≤ Codec.maxLength

end FlowMod

/-! ## Encoding what has passed -/

namespace Codec

/-- A flow takes up its length in 1.3. -/
private theorem length_flow_v13 (f : FlowMod) :
    Header.size + (V13.write (.flowMod f)).length = f.wireLength Version.v13 := by
  have hmatch : (V13.writeMatch f.flowMatch).length =
      4 + f.flowMatch.fields.length + Hello.padding (4 + f.flowMatch.fields.length) := by
    cases f.flowMatch <;>
      simp only [V13.writeMatch, FlowMatch.fields, List.length_append, BigEndian.length_ofNat,
        Write.length_zeros]
  have hwire : f.wireLength Version.v13 = Header.size + (40 + (4 + f.flowMatch.fields.length) +
      Hello.padding (4 + f.flowMatch.fields.length) + f.instructions.length) := rfl
  rw [hwire]
  simp only [V13.write, V13.writeFlowMod, List.length_append, hmatch, Write.buffer,
    Write.length_u64, Write.length_u32, Write.length_u16, Write.length_u8, Write.length_zeros]
  omega

/-- In 1.3 it is written unless it is too long. -/
private theorem encode_flow_v13 (f : FlowMod) (xid : Xid) :
    (f.Travels Version.v13 → ∃ wire, encode Version.v13 xid (.flowMod f) = .ok wire) ∧
    (maxLength < f.wireLength Version.v13 → encode Version.v13 xid (.flowMod f) =
      .error (.tooLong .flowMod (f.wireLength Version.v13))) := by
  obtain ⟨number, hnumber⟩ := exists_toWire? (Message.flowMod f).type
  rw [encode_v13 hnumber, length_flow_v13]
  exact ⟨fun h => ⟨_, if_neg (Nat.not_lt.2 h.2)⟩, fun hlong => if_pos hlong⟩

/-- A body that is written is refused for its length only. -/
theorem encode_v10_of_write {m : Message} {body : Bytes} (hform : m.IsV10)
    (hwrite : V10.write m = .ok body) (xid : Xid) :
    (Header.size + body.length ≤ maxLength → ∃ wire, encode Version.v10 xid m = .ok wire) ∧
    (maxLength < Header.size + body.length → encode Version.v10 xid m =
      .error (.tooLong m.type (Header.size + body.length))) := by
  obtain ⟨number, hnumber⟩ := exists_toWire10? hform
  refine ⟨fun hshort => ⟨_, encode_v10_eq_ok_iff.2 ⟨_, _, hnumber, hwrite, hshort, rfl⟩⟩,
    fun hlong => ?_⟩
  have hbody : writeBody Version.v10 m = V10.write m := rfl
  rw [encode, hnumber, hbody, hwrite]
  exact if_pos hlong

/-- In 1.0 it is written unless its port has no form or it is too long. -/
private theorem encode_flow_v10 {f : FlowMod} (hmatch : f.flowMatch.IsV10) (xid : Xid) :
    (f.Travels Version.v10 → ∃ wire, encode Version.v10 xid (.flowMod f) = .ok wire) ∧
    (¬ f.outPort.IsShort → encode Version.v10 xid (.flowMod f) =
      .error (.unexpectedValue ("0x" ++ Hex.ofNat f.outPort.toNat) "port number" "1.0 port")) ∧
    (f.outPort.IsShort → maxLength < f.wireLength Version.v10 →
      encode Version.v10 xid (.flowMod f) =
        .error (.tooLong .flowMod (f.wireLength Version.v10))) := by
  -- with a short port the body can be written, and only its length may be too much
  have hwritten (hport : f.outPort.IsShort) : ∃ body, V10.write (.flowMod f) = .ok body ∧
      Header.size + body.length = f.wireLength Version.v10 := by
    obtain ⟨body, hbody, hlength, -⟩ := V10.flowMod_written hmatch hport
    exact ⟨body, hbody, by rw [hlength]; rfl⟩
  refine ⟨fun h => ?_, fun hport => ?_, fun hport hlong => ?_⟩
  · obtain ⟨body, hbody, hlength⟩ := hwritten (h.1 rfl)
    exact (encode_v10_of_write (m := .flowMod f) ⟨hmatch, h.1 rfl⟩ hbody xid).1 (hlength ▸ h.2)
  · -- the match is written, and then the port number is what fails
    obtain ⟨flowMatch, hwriteMatch, -⟩ := V10.match_written hmatch
    have hnone : V10.narrowPort? f.outPort = none := by
      cases hnarrow : V10.narrowPort? f.outPort with
      | none => rfl
      | some k => exact absurd (V10.isShort_iff.2 ⟨k, hnarrow⟩) hport
    have hbody : writeBody Version.v10 (.flowMod f) = V10.writeFlowMod f := rfl
    have hnumber : (Message.flowMod f).type.toWire? Version.v10 = some 14 := rfl
    rw [encode, hnumber, hbody, V10.writeFlowMod, hwriteMatch, V10.writePortNumber, hnone]
    rfl
  · obtain ⟨body, hbody, hlength⟩ := hwritten hport
    have hform : (Message.flowMod f).IsV10 := ⟨hmatch, hport⟩
    have hrefused := (encode_v10_of_write hform hbody xid).2 (hlength ▸ hlong)
    rwa [hlength] at hrefused

/-- A flow for the version it is sent in is encoded if it travels, and otherwise refused for the
output port or for the length. -/
theorem encode_flow {f : FlowMod} {v : Version} (hv : v = Version.v10 ∨ v = Version.v13)
    (hf : f.IsFor v) (xid : Xid) :
    (f.Travels v → ∃ wire, encode v xid (.flowMod f) = .ok wire) ∧
    (¬ f.PortFits v → encode v xid (.flowMod f) =
      .error (.unexpectedValue ("0x" ++ Hex.ofNat f.outPort.toNat) "port number" "1.0 port")) ∧
    (f.PortFits v → maxLength < f.wireLength v →
      encode v xid (.flowMod f) = .error (.tooLong .flowMod (f.wireLength v))) := by
  rcases hv with rfl | rfl
  · obtain ⟨hok, hport, hlong⟩ := encode_flow_v10 (FlowMod.checkMatch_v10_iff.1 hf.flowMatch) xid
    exact ⟨hok, fun h => hport fun hshort => h fun _ => hshort, fun h => hlong (h rfl)⟩
  · obtain ⟨hok, hlong⟩ := encode_flow_v13 f xid
    have hfits : f.PortFits Version.v13 := fun h => absurd h (by decide)
    exact ⟨hok, fun h => absurd hfits h, fun _ => hlong⟩

/-- A flow that passes the check is written if it travels. -/
private theorem exists_encode_flow_iff {f : FlowMod} {v : Version}
    (hv : v = Version.v10 ∨ v = Version.v13) (hf : f.IsFor v) (xid : Xid) :
    (∃ wire, encode v xid (.flowMod f) = .ok wire) ↔ f.Travels v := by
  obtain ⟨hok, hport, hlong⟩ := encode_flow hv hf xid
  refine ⟨?_, hok⟩
  rintro ⟨wire, hwire⟩
  -- success excludes both ways to fail
  have hfits : f.PortFits v := by
    by_contra h
    rw [hport h] at hwire
    cases hwire
  refine ⟨hfits, Nat.not_lt.1 fun h => ?_⟩
  rw [hlong hfits h] at hwire
  cases hwire

/-- What encoding makes of a flow that has passed the check: it succeeds if and only if the flow
travels, and otherwise fails for the output port or for the length, the port first. -/
theorem encode_validated {f : FlowMod} {v : Version} (hv : v = Version.v10 ∨ v = Version.v13)
    (hvalid : f.validate v = .ok ()) (xid : Xid) :
    ((∃ wire, encode v xid (.flowMod f) = .ok wire) ↔ f.Travels v) ∧
    (¬ f.PortFits v → encode v xid (.flowMod f) =
      .error (.unexpectedValue ("0x" ++ Hex.ofNat f.outPort.toNat) "port number" "1.0 port")) ∧
    (f.PortFits v → maxLength < f.wireLength v →
      encode v xid (.flowMod f) = .error (.tooLong .flowMod (f.wireLength v))) := by
  have hf := FlowMod.validate_eq_ok_iff.1 hvalid
  exact ⟨exists_encode_flow_iff hv hf xid, (encode_flow hv hf xid).2⟩

/-- A flow for the last of the reserved ports. -/
theorem encode_validated_output : ∃ wire,
    encode Version.v10 7 (.flowMod { outPort := 0xfffffffd, priority := 10 }) = .ok wire :=
  (encode_validated (.inl rfl) (by decide) 7).1.2 ⟨fun _ => .inr (by decide), by decide⟩

/-- A flow that passes the check of OpenFlow 1.0 and that no transaction id makes encodable: the
number of its output port has no form. -/
theorem validated_not_encoded :
    FlowMod.validate { priority := 10, outPort := 0xff00 } Version.v10 = .ok () ∧
    ∀ xid, encode Version.v10 xid (.flowMod { priority := 10, outPort := 0xff00 }) =
      .error (.unexpectedValue "0xff00" "port number" "1.0 port") :=
  ⟨by decide, fun xid => by rfl⟩

end Codec

end Southbound
