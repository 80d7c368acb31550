import Southbound.Proofs.Wire.Texts

/-!
# What can be read

A message that was read has a form in its version that is no longer than what it was read from,
and apart from its texts and the versions of a hello that form is read as the message itself:

* `Reader.Yields`    what holds of whatever a reader reads and of how many bytes it took
* `V13.isRead_read`  the same of a body of OpenFlow 1.3
* `V10.isRead_read`  and of one of OpenFlow 1.0
-/

namespace Southbound

namespace Reader

variable {α β : Type} {Q : α → Nat → Prop} {R : β → Nat → Prop}

/-- Whatever the reader reads, `Q` holds of it and of the number of bytes that it took. -/
def Yields (r : Reader α) (Q : α → Nat → Prop) : Prop :=
  ∀ bs a rest, r bs = .ok (a, rest) → ∃ n, bs.length = n + rest.length ∧ Q a n

/-- What holds of whatever a reader yields holds of what is read from a body. -/
private theorem Yields.run {r : Reader α} (h : Yields r Q) {body : Bytes} {a : α}
    (hrun : r.run body = .ok a) : ∃ n ≤ body.length, Q a n := by
  rw [Reader.run] at hrun
  cases hread : r body with
  | error e =>
    rw [hread] at hrun
    cases hrun
  | ok p =>
    rw [hread] at hrun
    obtain rfl := Except.ok.inj hrun
    obtain ⟨n, hn, hQ⟩ := h body p.1 p.2 hread
    exact ⟨n, by omega, hQ⟩

/-- Nothing is read for what is known already. -/
private theorem yields_pure {a : α} (h : Q a 0) : Yields (pure a) Q := by
  intro bs b rest hread
  obtain ⟨rfl, rfl⟩ := Prod.mk.inj (Except.ok.inj hread)
  exact ⟨0, (Nat.zero_add _).symm, h⟩

/-- A reader that fails yields nothing. -/
private theorem yields_fail {e : WireError} : Yields (fail e : Reader α) Q :=
  fun _ _ _ hread => nomatch hread

/-- The bytes of two readers add up. -/
private theorem yields_bind {r : Reader α} {f : α → Reader β}
    (h : Yields r fun a n => Yields (f a) fun b k => R b (n + k)) : Yields (r >>= f) R := by
  intro bs b rest hread
  rw [bind_apply] at hread
  split at hread
  · next a mid hfirst =>
    obtain ⟨n, hn, hnext⟩ := h bs a mid hfirst
    obtain ⟨k, hk, hR⟩ := hnext mid b rest hread
    exact ⟨n + k, by omega, hR⟩
  · cases hread

/-- What is done with the result takes no bytes. -/
private theorem yields_map {r : Reader α} {f : α → β} (h : Yields r fun a n => R (f a) n) :
    Yields (f <$> r) R := by
  intro bs b rest hread
  rw [map_apply] at hread
  split at hread
  · next a rest' hfirst =>
    obtain ⟨rfl, rfl⟩ := Prod.mk.inj (Except.ok.inj hread)
    exact h bs a rest' hfirst
  · cases hread

/-- A check that refuses. -/
theorem yields_guard {c : Prop} [Decidable c] {e : WireError} {r : Reader α}
    (h : ¬ c → Yields r Q) :
    Yields (if c then (fail e : Reader PUnit) >>= fun _ => r else r) Q := by
  split
  · exact yields_bind yields_fail
  · next hc => exact h hc

/-- A reader that makes something of the next `n` bytes, if there are so many. -/
private theorem yields_take {n : Nat} (value : Bytes → α) (fault : Bytes → WireError)
    (h : ∀ piece, piece.length = n → Q (value piece) n) :
    Yields (fun bs => if (bs.take n).length = n then .ok (value (bs.take n), bs.drop n)
      else .error (fault bs)) Q := by
  intro bs a rest hread
  dsimp only at hread
  split at hread
  · next hlength =>
    obtain ⟨rfl, rfl⟩ := Prod.mk.inj (Except.ok.inj hread)
    refine ⟨n, ?_, h _ hlength⟩
    rw [List.length_take] at hlength
    rw [List.length_drop]
    omega
  · cases hread

/-- As many bytes are read as were asked for. -/
private theorem yields_bytes {n : Nat} {Q : Bytes → Nat → Prop} (h : ∀ bs, bs.length = n → Q bs n) :
    Yields (bytes n) Q :=
  yields_take id (fun bs => .truncated n bs.length) h

/-- As many bytes are skipped as were asked for. -/
private theorem yields_skip {n : Nat} {Q : Unit → Nat → Prop} (h : Q () n) : Yields (skip n) Q :=
  yields_take (fun _ => ()) (fun bs => .truncated n bs.length) fun _ _ => h

/-- Looking whether there are enough bytes takes none of them. -/
private theorem yields_need {n : Nat} {Q : Unit → Nat → Prop} (h : Q () 0) : Yields (need n) Q := by
  intro bs a rest hread
  rw [need] at hread
  split at hread
  · obtain ⟨rfl, rfl⟩ := Prod.mk.inj (Except.ok.inj hread)
    exact ⟨0, (Nat.zero_add _).symm, h⟩
  · cases hread

/-- All bytes that are left are read. -/
private theorem yields_rest {Q : Bytes → Nat → Prop} (h : ∀ bs, Q bs bs.length) :
    Yields rest Q := by
  intro bs a tail hread
  obtain ⟨rfl, rfl⟩ := Prod.mk.inj (Except.ok.inj hread)
  exact ⟨bs.length, rfl, h bs⟩

/-- A number takes as many bytes as it is wide. -/
private theorem yields_number {width : Nat} {Q : Nat → Nat → Prop} (h : ∀ n, Q n width) :
    Yields (number width) Q :=
  yields_take BigEndian.toNat (fun _ => .truncated 0 0) fun _ _ => h _

private theorem yields_u8 {Q : UInt8 → Nat → Prop} (h : ∀ n, Q n 1) : Yields u8 Q :=
  yields_map (yields_number fun _ => h _)

private theorem yields_u16 {Q : UInt16 → Nat → Prop} (h : ∀ n, Q n 2) : Yields u16 Q :=
  yields_map (yields_number fun _ => h _)

private theorem yields_u32 {Q : UInt32 → Nat → Prop} (h : ∀ n, Q n 4) : Yields u32 Q :=
  yields_map (yields_number fun _ => h _)

private theorem yields_u64 {Q : UInt64 → Nat → Prop} (h : ∀ n, Q n 8) : Yields u64 Q :=
  yields_map (yields_number fun _ => h _)

/-- A hardware address takes 6 bytes. -/
private theorem yields_mac {Q : MacAddress → Nat → Prop} (h : ∀ a, Q a 6) : Yields mac Q := by
  refine yields_bind (yields_need ?_)
  refine yields_bind (yields_u8 fun b0 => ?_)
  refine yields_bind (yields_u8 fun b1 => ?_)
  refine yields_bind (yields_u8 fun b2 => ?_)
  refine yields_bind (yields_u8 fun b3 => ?_)
  refine yields_bind (yields_u8 fun b4 => ?_)
  refine yields_bind (yields_u8 fun b5 => ?_)
  exact yields_pure (h _)

/-- Only a known value gets through, and that takes no bytes. -/
private theorem yields_expect {o : Option α} {value field owner : String}
    (h : ∀ a, o = some a → Q a 0) :
    Yields (expect o value field owner) Q := by
  cases o with
  | none => exact yields_fail
  | some a => exact yields_pure (h a rfl)

/-- A text takes up its field, and there is no NUL in it. -/
private theorem yields_text {capacity : Nat} {Q : String → Nat → Prop}
    (h : ∀ s, FixedText.NulFree s → Q s capacity) : Yields (FixedText.read capacity) Q :=
  yields_map (yields_bytes fun field _ => h _ (FixedText.nulFree_decode field))

/-- No buffer has the number that says so. -/
theorem yields_buffer {Q : Option UInt32 → Nat → Prop} (h : ∀ b, keptBuffer b = b → Q b 4) :
    Yields buffer Q := by
  refine yields_bind (yields_u32 fun n => yields_pure (h _ ?_))
  split
  · rfl
  · next hn => simp [keptBuffer, Option.filter, hn]

/-- A reason takes 1 byte. -/
private theorem yields_portReason {Q : PortReason → Nat → Prop} (h : ∀ r, Q r 1) :
    Yields portReason Q :=
  yields_bind (yields_u8 fun _ => yields_expect fun r _ => h r)

/-- Each item takes at least as many bytes as its piece may have. -/
theorem yields_each {size : Nat} {item : Reader α} {P : α → Prop} {Q : List α → Nat → Prop}
    (hitem : Yields item fun a n => P a ∧ size ≤ n)
    (h : ∀ as n, (∀ a ∈ as, P a) → size * as.length ≤ n → Q as n) : Yields (each size item) Q := by
  -- the reader cuts first and reads each piece on its own, so the induction is on the pieces
  have hpieces (pieces : List Bytes) (as : List α) (hread : pieces.mapM item.run = .ok as) :
      (∀ a ∈ as, P a) ∧ size * as.length ≤ pieces.flatten.length := by
    induction pieces generalizing as with
    | nil =>
      obtain rfl := Except.ok.inj hread
      exact ⟨List.forall_mem_nil _, Nat.le_refl _⟩
    | cons piece pieces ih =>
      rw [List.mapM_cons] at hread
      obtain ⟨a, ha, hread⟩ := V10.ok_of_bind hread
      obtain ⟨as', has, hread⟩ := V10.ok_of_bind hread
      obtain rfl := Except.ok.inj hread
      obtain ⟨n, hn, hP, hsize⟩ := hitem.run ha
      obtain ⟨hPs, hsizes⟩ := ih as' has
      refine ⟨List.forall_mem_cons.2 ⟨hP, hPs⟩, ?_⟩
      rw [List.length_cons, Nat.mul_succ, List.flatten_cons, List.length_append]
      omega
  intro bs as rest hread
  obtain ⟨as', has, hread⟩ := V10.ok_of_bind hread
  obtain ⟨rfl, rfl⟩ := Prod.mk.inj (Except.ok.inj hread)
  obtain ⟨hP, hsize⟩ := hpieces _ _ has
  -- the pieces put together are what was there, so the bound on them is one on the input
  rw [flatten_chunks] at hsize
  exact ⟨bs.length, rfl, h _ _ hP hsize⟩

/-- An error takes 4 bytes and its data. -/
private theorem yields_errorMessage {Q : ErrorMessage → Nat → Prop}
    (h : ∀ e, Q e (4 + e.data.length)) :
    Yields errorMessage Q := by
  refine yields_bind (yields_u16 fun kind => ?_)
  refine yields_bind (yields_u16 fun code => ?_)
  refine yields_bind (yields_rest fun data => yields_pure ?_)
  rw [show 2 + (2 + (data.length + 0)) = 4 + data.length by omega]
  exact h ⟨kind, code, data⟩

/-- A configuration takes 4 bytes. -/
private theorem yields_switchConfig {Q : SwitchConfig → Nat → Prop} (h : ∀ c, Q c 4) :
    Yields switchConfig Q := by
  refine yields_bind (yields_u16 fun flags => ?_)
  exact yields_bind (yields_u16 fun missSendLength => yields_pure (h _))

/-- A descriptor takes 1056 bytes, and there is no NUL in its texts. -/
private theorem yields_deviceDescriptor {Q : DeviceDescriptor → Nat → Prop}
    (h : ∀ d, (∀ t ∈ d.texts, FixedText.NulFree t.2) → Q d 1056) : Yields deviceDescriptor Q := by
  refine yields_bind (yields_text fun manufacturer h1 => ?_)
  refine yields_bind (yields_text fun hardware h2 => ?_)
  refine yields_bind (yields_text fun software h3 => ?_)
  refine yields_bind (yields_text fun serialNumber h4 => ?_)
  refine yields_bind (yields_text fun description h5 => ?_)
  refine yields_pure (h _ ?_)
  simpa [DeviceDescriptor.texts] using ⟨h1, h2, h3, h4, h5⟩

/-- What holds of whatever a reader reads holds of the message made of it. -/
theorem Yields.message {P : Message → Nat → Prop} {f : α → Message} {r : Reader α}
    (hr : Yields r fun a n => P (f a) n) (hmono : ∀ m n k, n ≤ k → P m n → P m k)
    {body : Bytes} {m : Message} (h : f <$> r.run body = .ok m) : P m body.length := by
  cases hrun : r.run body with
  | error e =>
    rw [hrun] at h
    cases h
  | ok a =>
    rw [hrun] at h
    obtain rfl := Except.ok.inj h
    obtain ⟨n, hn, hP⟩ := hr.run hrun
    exact hmono _ n _ hn hP

end Reader

/-- A message after it was written and read: other texts, and the versions of a hello in order. -/
def Message.relayed : Message → Message
  | .hello versions => .hello (Hello.kept versions)
  | m => m.mapTexts FixedText.kept

/-! ## OpenFlow 1.3 -/

namespace V13
open Reader

/-- A message as it can be read from a body of `n` bytes. -/
structure IsRead (m : Message) (n : Nat) : Prop where
  fits : m.BodyFits
  /-- The bitmap of a hello may be longer than what it was read from. -/
  length_le : (write m).length ≤ max n 44
  kept : m.kept = m.relayed
  nulFree : ∀ t ∈ m.texts, FixedText.NulFree t.2

/-- A message that can be read from some bytes can be read from more. -/
theorem IsRead.mono {m : Message} {n k : Nat} (hle : n ≤ k) (h : IsRead m n) : IsRead m k :=
  ⟨h.fits, h.length_le.trans (by omega), h.kept, h.nulFree⟩

/-- The padding of a match has to be there, so what is written of it is no longer. -/
theorem yields_match {Q : FlowMatch → Nat → Prop}
    (h : ∀ m n, m.kept = m → (writeMatch m).length ≤ n → Q m n) : Yields readMatch Q := by
  refine yields_bind (yields_u16 fun kind => ?_)
  dsimp only
  refine yields_guard fun _ => ?_
  refine yields_bind (yields_map (yields_u16 fun length => ?_))
  refine yields_guard fun hlength => ?_
  refine yields_bind (yields_bytes fun fields hfields => ?_)
  refine yields_bind (yields_skip (yields_pure (h _ _ ?_ ?_)))
  -- what is read has no empty field list, hence is its own kept form
  · cases fields <;> rfl
  -- the length field counts the four bytes before the fields, not the padding after them
  · have hsum : 4 + fields.length = length.toNat := by omega
    have hwritten : (writeMatch (if fields.isEmpty then .all else .raw fields)).length =
        4 + fields.length + Hello.padding (4 + fields.length) := by
      cases fields <;> simp [writeMatch] <;> omega
    rw [hwritten, hsum]
    omega

/-- A port takes 64 bytes, and there is no NUL in its name. -/
theorem yields_port {Q : Port → Nat → Prop} (h : ∀ p, FixedText.NulFree p.name → Q p 64) :
    Yields readPort Q := by
  refine yields_bind (yields_need ?_)
  refine yields_bind (yields_u32 fun number => ?_)
  refine yields_bind (yields_skip ?_)
  refine yields_bind (yields_mac fun address => ?_)
  refine yields_bind (yields_skip ?_)
  refine yields_bind (yields_text fun name hname => ?_)
  refine yields_bind (yields_u32 fun config => ?_)
  refine yields_bind (yields_u32 fun state => ?_)
  refine yields_bind (yields_u32 fun current => ?_)
  refine yields_bind (yields_u32 fun advertised => ?_)
  refine yields_bind (yields_u32 fun supported => ?_)
  refine yields_bind (yields_u32 fun peer => ?_)
  refine yields_bind (yields_u32 fun currentSpeed => ?_)
  refine yields_bind (yields_u32 fun maxSpeed => ?_)
  exact yields_pure (h _ hname)

/-- A port is written in 64 bytes. -/
private theorem length_writePort (p : Port) : (writePort p).length = portSize := by
  simp [writePort, portSize]

/-- Features that were read can be written again. -/
theorem yields_features : Yields readFeatures fun f n => IsRead (.featuresReply f) n := by
  refine yields_bind (yields_u64 fun datapathId => ?_)
  refine yields_bind (yields_u32 fun numBuffers => ?_)
  refine yields_bind (yields_u8 fun numTables => ?_)
  refine yields_bind (yields_u8 fun auxiliaryId => ?_)
  refine yields_bind (yields_skip ?_)
  refine yields_bind (yields_u32 fun capabilities => ?_)
  refine yields_bind (yields_skip ?_)
  refine yields_pure ⟨trivial, ?_, rfl, List.forall_mem_nil _⟩
  simp [write, writeFeatures]

/-- A packet from a switch that was read can be written again. -/
theorem yields_packetIn : Yields readPacketIn fun p n => IsRead (.packetIn p) n := by
  refine yields_bind (yields_buffer fun buffer hbuffer => ?_)
  refine yields_bind (yields_u16 fun totalLength => ?_)
  refine yields_bind (yields_u8 fun reason => ?_)
  refine yields_bind (yields_u8 fun table => ?_)
  refine yields_bind (yields_u64 fun cookie => ?_)
  refine yields_bind (yields_match fun flowMatch n hmatch hlength => ?_)
  refine yields_bind (yields_skip ?_)
  refine yields_bind (yields_rest fun data => ?_)
  refine yields_pure ⟨trivial, ?_, ?_, List.forall_mem_nil _⟩
  · simp only [write, writePacketIn, Write.buffer, List.length_append, Write.length_u64,
      Write.length_u32, Write.length_u16, Write.length_u8, Write.length_zeros]
    omega
  -- the port comes from the fields as they were read; of an empty match there is none
  · cases flowMatch with
    | all =>
      simp only [Message.kept, PacketIn.kept, hbuffer, FlowMatch.fields, Oxm.inPort?_nil]
      rfl
    | raw fields =>
      simp only [Message.kept, PacketIn.kept, hbuffer, hmatch]
      rfl

/-- The removal of a flow that was read can be written again. -/
theorem yields_flowRemoved : Yields readFlowRemoved fun r n => IsRead (.flowRemoved r) n := by
  refine yields_bind (yields_u64 fun cookie => ?_)
  refine yields_bind (yields_u16 fun priority => ?_)
  refine yields_bind (yields_u8 fun reason => ?_)
  refine yields_bind (yields_u8 fun table => ?_)
  refine yields_bind (yields_u32 fun durationSec => ?_)
  refine yields_bind (yields_u32 fun durationNsec => ?_)
  refine yields_bind (yields_u16 fun idleTimeout => ?_)
  refine yields_bind (yields_u16 fun hardTimeout => ?_)
  refine yields_bind (yields_u64 fun packetCount => ?_)
  refine yields_bind (yields_u64 fun byteCount => ?_)
  refine yields_bind (yields_match fun flowMatch n hmatch hlength => ?_)
  refine yields_pure ⟨trivial, ?_, ?_, List.forall_mem_nil _⟩
  · simp only [write, writeFlowRemoved, List.length_append, Write.length_u64, Write.length_u32,
      Write.length_u16, Write.length_u8]
    omega
  · simp only [Message.kept, FlowRemoved.kept, hmatch]
    rfl

/-- A change of a port that was read can be written again. -/
theorem yields_portStatus : Yields readPortStatus fun s n => IsRead (.portStatus s) n := by
  refine yields_bind (yields_portReason fun reason => ?_)
  refine yields_bind (yields_skip ?_)
  refine yields_bind (yields_port fun port hname => ?_)
  refine yields_pure ⟨trivial, ?_, rfl, List.forall_mem_singleton.2 hname⟩
  simp [write, writePortStatus, length_writePort, portSize]

/-- A packet for a switch that was read can be written again. -/
theorem yields_packetOut : Yields readPacketOut fun p n => IsRead (.packetOut p) n := by
  refine yields_bind (yields_buffer fun buffer hbuffer => ?_)
  refine yields_bind (yields_u32 fun inPort => ?_)
  refine yields_bind (yields_map (yields_u16 fun length => ?_))
  refine yields_bind (yields_skip ?_)
  refine yields_bind (yields_bytes fun actions hactions => ?_)
  refine yields_bind (yields_rest fun data => ?_)
  refine yields_pure ⟨trivial, ?_, ?_, List.forall_mem_nil _⟩
  · simp only [write, writePacketOut, Write.buffer, List.length_append, Write.length_u32,
      BigEndian.length_ofNat, Write.length_zeros]
    omega
  · simp only [Message.kept, PacketOut.kept, hbuffer]
    rfl

/-- A change of a flow that was read can be written again. -/
theorem yields_flowMod : Yields readFlowMod fun f n => IsRead (.flowMod f) n := by
  refine yields_bind (yields_u64 fun cookie => ?_)
  refine yields_bind (yields_u64 fun cookieMask => ?_)
  refine yields_bind (yields_u8 fun table => ?_)
  refine yields_bind (yields_u8 fun number => ?_)
  refine yields_bind (yields_expect fun command hcommand => ?_)
  refine yields_bind (yields_u16 fun idleTimeout => ?_)
  refine yields_bind (yields_u16 fun hardTimeout => ?_)
  refine yields_bind (yields_u16 fun priority => ?_)
  refine yields_bind (yields_buffer fun buffer hbuffer => ?_)
  refine yields_bind (yields_u32 fun outPort => ?_)
  refine yields_bind (yields_u32 fun outGroup => ?_)
  refine yields_bind (yields_u16 fun flags => ?_)
  refine yields_bind (yields_skip ?_)
  refine yields_bind (yields_match fun flowMatch n hmatch hlength => ?_)
  refine yields_bind (yields_rest fun instructions => ?_)
  -- what is written again is no longer than what was read, because nothing is added on the way
  refine yields_pure ⟨trivial, ?_, ?_, List.forall_mem_nil _⟩
  · simp only [write, writeFlowMod, Write.buffer, List.length_append, Write.length_u64,
      Write.length_u32, Write.length_u16, Write.length_u8, Write.length_zeros]
    omega
  · simp only [Message.kept, FlowMod.kept, hbuffer, hmatch]
    rfl

/-- A change of a port's configuration that was read can be written again. -/
theorem yields_portMod : Yields readPortMod fun m n => IsRead (.portMod m) n := by
  refine yields_bind (yields_u32 fun number => ?_)
  refine yields_bind (yields_skip ?_)
  refine yields_bind (yields_mac fun address => ?_)
  refine yields_bind (yields_skip ?_)
  refine yields_bind (yields_u32 fun config => ?_)
  refine yields_bind (yields_u32 fun mask => ?_)
  refine yields_bind (yields_u32 fun advertise => ?_)
  refine yields_bind (yields_skip ?_)
  refine yields_pure ⟨trivial, ?_, rfl, List.forall_mem_nil _⟩
  simp [write, writePortMod]

/-- A kind takes 2 bytes. -/
theorem yields_multipartKind {Q : MultipartKind → Nat → Prop} (h : ∀ k, Q k 2) :
    Yields readMultipartKind Q :=
  yields_bind (yields_u16 fun _ => yields_expect fun k _ => h k)

/-- A multipart request that was read can be written again. -/
theorem yields_multipartRequest :
    Yields readMultipartRequest fun r n => IsRead (.multipartRequest r) n := by
  refine yields_bind (yields_multipartKind fun kind => ?_)
  refine yields_bind (yields_u16 fun flags => ?_)
  refine yields_bind (yields_skip ?_)
  refine yields_bind (yields_rest fun body => ?_)
  refine yields_pure ⟨trivial, ?_, rfl, List.forall_mem_nil _⟩
  simp only [write, List.length_append, Write.length_u16, Write.length_zeros]
  omega

/-- A body that was read fits its kind, and is not written in more bytes. -/
private theorem yields_multipartBody {kind : MultipartKind} {Q : MultipartBody → Nat → Prop}
    (h : ∀ b n, b.Fits kind → (∀ t ∈ b.texts, FixedText.NulFree t.2) →
      (writeMultipartBody b).length ≤ n → Q b n) : Yields (readMultipartBody kind) Q := by
  -- every kind but these two is handed on as bytes
  have hraw (hkind : kind ≠ .desc ∧ kind ≠ .portDesc) : Yields (MultipartBody.raw <$> rest) Q :=
    yields_map (yields_rest fun bs => h _ _ hkind (List.forall_mem_nil _) (Nat.le_refl _))
  cases kind with
  | desc =>
    refine yields_map (yields_deviceDescriptor fun d hd => h _ _ rfl hd ?_)
    simp [writeMultipartBody, Write.deviceDescriptor]
  | portDesc =>
    have hport : Yields readPort fun p n => FixedText.NulFree p.name ∧ portSize ≤ n :=
      yields_port fun p hp => ⟨hp, Nat.le_refl _⟩
    refine yields_map (yields_each hport fun ps n hps hlength => h _ _ rfl ?_ ?_)
    · exact List.forall_mem_map.2 hps
    · rw [writeMultipartBody, List.length_flatMap]
      simpa [length_writePort, Nat.mul_comm] using hlength
  | _ => exact hraw ⟨by decide, by decide⟩

/-- A multipart reply that was read can be written again. -/
theorem yields_multipartReply :
    Yields readMultipartReply fun r n => IsRead (.multipartReply r) n := by
  refine yields_bind (yields_multipartKind fun kind => ?_)
  refine yields_bind (yields_u16 fun flags => ?_)
  refine yields_bind (yields_skip ?_)
  refine yields_bind (yields_multipartBody fun body n hfits htexts hlength => ?_)
  refine yields_pure ⟨hfits, ?_, ?_, htexts⟩
  · simp only [write, List.length_append, Write.length_u16, Write.length_zeros]
    omega
  · cases body <;> rfl

/-- A hello can be written again whichever versions were found in it. -/
private theorem isRead_hello (versions : List Version) (n : Nat) : IsRead (.hello versions) n := by
  refine ⟨trivial, ?_, rfl, List.forall_mem_nil _⟩
  by_cases hempty : versions = []
  · subst hempty
    exact Nat.zero_le _
  -- at most eight words, whatever the versions are, so the hello is short
  · have hcount := Hello.wordCount_le versions
    have hlength := Hello.length_bitmap versions
    rw [write, Hello.write_of_ne_nil hempty, hlength]
    simp only [List.length_append, BigEndian.length_ofNat, Write.length_zeros, hlength,
      Hello.padding]
    omega

/-- A message that is written as its data can be read from that many bytes. -/
theorem isRead_bytes {f : Bytes → Message} {data : Bytes} (hfits : (f data).BodyFits)
    (hwrite : write (f data) = data) (hkept : (f data).kept = (f data).relayed)
    (htexts : (f data).texts = []) : IsRead (f data) data.length := by
  refine ⟨hfits, ?_, hkept, fun t ht => ?_⟩
  · rw [hwrite]
    omega
  · rw [htexts] at ht
    cases ht

/-- Whatever is read from a body fits into one of that length again. -/
theorem isRead_read {t : MessageType} {body : Bytes} {m : Message} (h : read t body = .ok m) :
    IsRead m body.length := by
  -- a body may hold more than was read of it, and the bound may only grow
  have hmono : ∀ m n k, n ≤ k → IsRead m n → IsRead m k := fun _ _ _ hle hm => hm.mono hle
  cases t with
  | hello =>
    rw [read] at h
    -- a hello is read element by element, hence not by the calculus
    cases hversions : Hello.read body with
    | error e =>
      rw [hversions] at h
      cases h
    | ok versions =>
      rw [hversions] at h
      obtain rfl := Except.ok.inj h
      exact isRead_hello versions _
  | error =>
    refine (yields_errorMessage fun e => ?_).message hmono h
    refine ⟨trivial, ?_, rfl, List.forall_mem_nil _⟩
    simp only [write, Write.errorMessage, List.length_append, Write.length_u16]
    omega
  -- these take the whole body as it is
  | echoRequest | echoReply | experimenter | groupMod =>
    obtain rfl := Except.ok.inj h
    exact isRead_bytes trivial rfl rfl rfl
  | featuresRequest | getConfigRequest | barrierRequest | barrierReply =>
    obtain rfl := Except.ok.inj h
    exact ⟨trivial, Nat.zero_le _, rfl, List.forall_mem_nil _⟩
  | featuresReply => exact yields_features.message hmono h
  | getConfigReply | setConfig =>
    refine (yields_switchConfig fun c => ?_).message hmono h
    exact ⟨trivial, by simp [write, Write.switchConfig], rfl, List.forall_mem_nil _⟩
  | packetIn => exact yields_packetIn.message hmono h
  | flowRemoved => exact yields_flowRemoved.message hmono h
  | portStatus => exact yields_portStatus.message hmono h
  | packetOut => exact yields_packetOut.message hmono h
  | flowMod => exact yields_flowMod.message hmono h
  | portMod => exact yields_portMod.message hmono h
  | multipartRequest => exact yields_multipartRequest.message hmono h
  | multipartReply => exact yields_multipartReply.message hmono h
  | tableMod | queueConfigRequest | queueConfigReply | roleRequest | roleReply => cases h

end V13

/-! ## OpenFlow 1.0 -/

namespace V10
open Reader

/-- A message as it can be read from a body of `n` bytes. -/
structure IsRead (m : Message) (n : Nat) : Prop where
  isV10 : m.IsV10
  fits : m.BodyFits10
  length_le : m.length10 ≤ n
  kept : m.kept10 = m.relayed
  nulFree : ∀ t ∈ m.texts, FixedText.NulFree t.2

/-- A message that can be read from some bytes can be read from more. -/
theorem IsRead.mono {m : Message} {n k : Nat} (hle : n ≤ k) (h : IsRead m n) : IsRead m k :=
  ⟨h.isV10, h.fits, h.length_le.trans hle, h.kept, h.nulFree⟩

theorem yields_match {Q : FlowMatch → Nat → Prop}
    (h : ∀ m, m.IsV10 → m.kept10 = m → Q m matchLength10) : Yields readMatch Q := by
  refine yields_bind (yields_bytes fun raw hraw => yields_pure (h _ ?_ ?_))
  · split
    · trivial
    · exact hraw
  · split
    · rfl
    · next hne => exact if_neg hne

/-- A port number takes 2 bytes, and is one that 1.0 can express. -/
private theorem yields_portNumber {Q : PortNumber → Nat → Prop} (h : ∀ n, n.IsShort → Q n 2) :
    Yields readPortNumber Q :=
  yields_map (yields_u16 fun n => h _ (isShort_widenPort n))

/-- A port takes 48 bytes; 1.0 can express its number, and there is no NUL in its name. -/
theorem yields_port {Q : Port → Nat → Prop}
    (h : ∀ p, p.number.IsShort → p.kept10 = p.kept → FixedText.NulFree p.name → Q p portSize) :
    Yields readPort Q := by
  refine yields_bind (yields_need ?_)
  refine yields_bind (yields_portNumber fun number hnumber => ?_)
  refine yields_bind (yields_mac fun address => ?_)
  refine yields_bind (yields_text fun name hname => ?_)
  refine yields_bind (yields_u32 fun config => ?_)
  refine yields_bind (yields_u32 fun state => ?_)
  refine yields_bind (yields_u32 fun current => ?_)
  refine yields_bind (yields_u32 fun advertised => ?_)
  refine yields_bind (yields_u32 fun supported => ?_)
  refine yields_bind (yields_u32 fun peer => ?_)
  exact yields_pure (h _ hnumber rfl hname)

/-- Features that were read can be written again. -/
theorem yields_features : Yields readFeatures fun f n => IsRead (.featuresReply f) n := by
  -- each port is 48 bytes and has its number in 16 bits, so it can be written again
  have hport : Yields readPort fun p n =>
      (p.number.IsShort ∧ p.kept10 = p.kept ∧ FixedText.NulFree p.name) ∧ portSize ≤ n :=
    yields_port fun p hnumber hkept hname => ⟨⟨hnumber, hkept, hname⟩, Nat.le_refl _⟩
  refine yields_bind (yields_u64 fun datapathId => ?_)
  refine yields_bind (yields_u32 fun numBuffers => ?_)
  refine yields_bind (yields_u8 fun numTables => ?_)
  refine yields_bind (yields_skip ?_)
  refine yields_bind (yields_u32 fun capabilities => ?_)
  refine yields_bind (yields_u32 fun actions => ?_)
  refine yields_bind (yields_each hport fun ports n hports hlength => ?_)
  refine yields_pure ⟨fun p hp => (hports p hp).1, trivial, ?_, ?_, ?_⟩
  · simp only [Message.length10]
    omega
  · have hkept : ports.map Port.kept10 = ports.map (Port.mapTexts FixedText.kept) :=
      List.map_congr_left fun p hp => (hports p hp).2.1
    simp only [Message.kept10, SwitchFeatures.kept10, hkept]
    rfl
  · exact List.forall_mem_map.2 fun p hp => (hports p hp).2.2

/-- A packet from a switch that was read can be written again. -/
theorem yields_packetIn : Yields readPacketIn fun p n => IsRead (.packetIn p) n := by
  refine yields_bind (yields_buffer fun buffer hbuffer => ?_)
  refine yields_bind (yields_u16 fun totalLength => ?_)
  refine yields_bind (yields_portNumber fun inPort hport => ?_)
  refine yields_bind (yields_u8 fun reason => ?_)
  refine yields_bind (yields_skip ?_)
  refine yields_bind (yields_rest fun data => ?_)
  refine yields_pure ⟨hport, trivial, ?_, ?_, List.forall_mem_nil _⟩
  · simp only [Message.length10]
    omega
  · simp only [Message.kept10, PacketIn.kept10, hbuffer]
    rfl

/-- The removal of a flow that was read can be written again. -/
theorem yields_flowRemoved : Yields readFlowRemoved fun r n => IsRead (.flowRemoved r) n := by
  refine yields_bind (yields_match fun flowMatch hmatch hkept => ?_)
  refine yields_bind (yields_u64 fun cookie => ?_)
  refine yields_bind (yields_u16 fun priority => ?_)
  refine yields_bind (yields_u8 fun reason => ?_)
  refine yields_bind (yields_skip ?_)
  refine yields_bind (yields_u32 fun durationSec => ?_)
  refine yields_bind (yields_u32 fun durationNsec => ?_)
  refine yields_bind (yields_u16 fun idleTimeout => ?_)
  refine yields_bind (yields_skip ?_)
  refine yields_bind (yields_u64 fun packetCount => ?_)
  refine yields_bind (yields_u64 fun byteCount => ?_)
  refine yields_pure ⟨hmatch, trivial, Nat.le_refl _, ?_, List.forall_mem_nil _⟩
  simp only [Message.kept10, FlowRemoved.kept10, hkept]
  rfl

/-- A change of a port that was read can be written again. -/
theorem yields_portStatus : Yields readPortStatus fun s n => IsRead (.portStatus s) n := by
  refine yields_bind (yields_portReason fun reason => ?_)
  refine yields_bind (yields_skip ?_)
  refine yields_bind (yields_port fun port hnumber hkept hname => ?_)
  refine yields_pure ⟨hnumber, trivial, Nat.le_refl _, ?_, List.forall_mem_singleton.2 hname⟩
  simp only [Message.kept10, PortStatus.kept10, hkept]
  rfl

/-- A packet for a switch that was read can be written again. -/
theorem yields_packetOut : Yields readPacketOut fun p n => IsRead (.packetOut p) n := by
  refine yields_bind (yields_buffer fun buffer hbuffer => ?_)
  refine yields_bind (yields_portNumber fun inPort hport => ?_)
  refine yields_bind (yields_map (yields_u16 fun length => ?_))
  refine yields_bind (yields_bytes fun actions hactions => ?_)
  refine yields_bind (yields_rest fun data => ?_)
  refine yields_pure ⟨hport, trivial, ?_, ?_, List.forall_mem_nil _⟩
  · simp only [Message.length10, hactions]
    omega
  · simp only [Message.kept10, PacketOut.kept, hbuffer]
    rfl

/-- A change of a flow that was read can be written again. -/
theorem yields_flowMod : Yields readFlowMod fun f n => IsRead (.flowMod f) n := by
  refine yields_bind (yields_match fun flowMatch hmatch hkept => ?_)
  refine yields_bind (yields_u64 fun cookie => ?_)
  refine yields_bind (yields_u16 fun number => ?_)
  refine yields_bind (yields_expect fun command hcommand => ?_)
  refine yields_bind (yields_u16 fun idleTimeout => ?_)
  refine yields_bind (yields_u16 fun hardTimeout => ?_)
  refine yields_bind (yields_u16 fun priority => ?_)
  refine yields_bind (yields_buffer fun buffer hbuffer => ?_)
  refine yields_bind (yields_portNumber fun outPort hport => ?_)
  refine yields_bind (yields_u16 fun flags => ?_)
  refine yields_bind (yields_rest fun instructions => ?_)
  refine yields_pure ⟨⟨hmatch, hport⟩, trivial, ?_, ?_, List.forall_mem_nil _⟩
  · simp only [Message.length10]
    omega
  · simp only [Message.kept10, FlowMod.kept10, hbuffer, hkept]
    rfl

/-- A change of a port's configuration that was read can be written again. -/
theorem yields_portMod : Yields readPortMod fun m n => IsRead (.portMod m) n := by
  refine yields_bind (yields_portNumber fun number hnumber => ?_)
  refine yields_bind (yields_mac fun address => ?_)
  refine yields_bind (yields_u32 fun config => ?_)
  refine yields_bind (yields_u32 fun mask => ?_)
  refine yields_bind (yields_u32 fun advertise => ?_)
  refine yields_bind (yields_skip ?_)
  exact yields_pure ⟨hnumber, trivial, Nat.le_refl _, rfl, List.forall_mem_nil _⟩

/-- A kind takes 2 bytes, and is one that 1.0 has a number for. -/
theorem yields_multipartKind {Q : MultipartKind → Nat → Prop}
    (h : ∀ k, k.isStats10 = true → Q k 2) : Yields readMultipartKind Q := by
  refine yields_bind (yields_u16 fun n => yields_expect fun k hk => h k ?_)
  exact (Option.filter_eq_some_iff.1 hk).2

/-- A statistics request that was read can be written again. -/
theorem yields_multipartRequest :
    Yields readMultipartRequest fun r n => IsRead (.multipartRequest r) n := by
  refine yields_bind (yields_multipartKind fun kind hkind => ?_)
  refine yields_bind (yields_u16 fun flags => ?_)
  refine yields_bind (yields_rest fun body => ?_)
  refine yields_pure ⟨hkind, trivial, ?_, rfl, List.forall_mem_nil _⟩
  simp only [Message.length10]
  omega

/-- A statistics reply that was read can be written again. -/
theorem yields_multipartReply :
    Yields readMultipartReply fun r n => IsRead (.multipartReply r) n := by
  refine yields_bind (yields_multipartKind fun kind hkind => ?_)
  refine yields_bind (yields_u16 fun flags => ?_)
  -- in 1.0 only the description is parsed
  have hraw (hne : kind ≠ .desc) (bytes : Bytes) :
      IsRead (.multipartReply ⟨kind, flags, .raw bytes⟩) (2 + (2 + (bytes.length + 0))) :=
    ⟨hkind, hne, by simp only [Message.length10]; omega, rfl, List.forall_mem_nil _⟩
  cases kind with
  | desc =>
    refine yields_bind (yields_map (yields_deviceDescriptor fun d hd => ?_))
    exact yields_pure ⟨hkind, rfl, Nat.le_refl _, rfl, hd⟩
  | _ => exact yields_bind (yields_map (yields_rest fun bytes => yields_pure (hraw (by decide) _)))

/-- A message that is written as its data can be read from that many bytes. -/
theorem isRead_bytes {f : Bytes → Message} {data : Bytes} (hisV10 : (f data).IsV10)
    (hfits : (f data).BodyFits10) (hlength : (f data).length10 = data.length)
    (hkept : (f data).kept10 = (f data).relayed) (htexts : (f data).texts = []) :
    IsRead (f data) data.length := by
  refine ⟨hisV10, hfits, hlength.le, hkept, fun t ht => ?_⟩
  rw [htexts] at ht
  cases ht

/-- Whatever is read from a body fits into one of that length again. -/
theorem isRead_read {t : MessageType} {body : Bytes} {m : Message} (h : read t body = .ok m) :
    IsRead m body.length := by
  -- as for 1.3: more bytes only weaken what is claimed of the length
  have hmono : ∀ m n k, n ≤ k → IsRead m n → IsRead m k := fun _ _ _ hle hm => hm.mono hle
  cases t with
  | hello =>
    -- a hello of 1.0 has no body to read, so no version is listed
    obtain rfl := Except.ok.inj h
    exact ⟨trivial, trivial, Nat.zero_le _, by simp [Message.kept10, Message.relayed, Hello.kept],
      List.forall_mem_nil _⟩
  | error =>
    refine (yields_errorMessage fun e => ?_).message hmono h
    exact ⟨trivial, trivial, Nat.le_refl _, rfl, List.forall_mem_nil _⟩
  | echoRequest | echoReply | experimenter =>
    obtain rfl := Except.ok.inj h
    exact isRead_bytes trivial trivial rfl rfl rfl
  | featuresRequest | getConfigRequest | barrierRequest | barrierReply =>
    obtain rfl := Except.ok.inj h
    exact ⟨trivial, trivial, Nat.zero_le _, rfl, List.forall_mem_nil _⟩
  | featuresReply => exact yields_features.message hmono h
  | getConfigReply | setConfig =>
    refine (yields_switchConfig fun c => ?_).message hmono h
    exact ⟨trivial, trivial, Nat.le_refl _, rfl, List.forall_mem_nil _⟩
  | packetIn => exact yields_packetIn.message hmono h
  | flowRemoved => exact yields_flowRemoved.message hmono h
  | portStatus => exact yields_portStatus.message hmono h
  | packetOut => exact yields_packetOut.message hmono h
  | flowMod => exact yields_flowMod.message hmono h
  | portMod => exact yields_portMod.message hmono h
  | multipartRequest => exact yields_multipartRequest.message hmono h
  | multipartReply => exact yields_multipartReply.message hmono h
  | groupMod | tableMod | queueConfigRequest | queueConfigReply | roleRequest | roleReply => cases h

end V10

end Southbound
