import Southbound.Proofs.Wire.Reading

/-!
# Passing on what was read

A message that was read can be written again in the same version. What is read of it then differs
from it at most in texts that do not fit into their fields and in how the versions of a hello are
listed, and after that nothing changes any more:

* `Codec.carries_relayed`  a message that was read is written, and read back as `Message.relayed`
* `Codec.carries_decoded`  the same in terms of what stays as it is
-/

namespace Southbound

namespace Message

variable {m : Message}

/-- Every text fits into its field. -/
def TextsFit (m : Message) : Prop := ∀ t ∈ m.texts, FixedText.Fits t.1 t.2

/-- The versions of a hello ascend. -/
def VersionsAscend : Message → Prop
  | .hello versions => versions.Pairwise (· < ·)
  | _ => True

/-- A hello lists the same versions, and any other message differs at most in texts that do not fit
into their fields. -/
def Resembles (m' : Message) : Message → Prop
  | .hello versions => ∃ versions', m' = .hello versions' ∧ ∀ v, v ∈ versions' ↔ v ∈ versions
  | m => ∃ f, (∀ t ∈ m.texts, FixedText.Fits t.1 t.2 → f t.1 t.2 = t.2) ∧ m' = m.mapTexts f

end Message

/-- A hello keeps the versions that it lists. -/
private theorem Hello.mem_kept {versions : List Version} {v : Version} :
    v ∈ Hello.kept versions ↔ v ∈ versions := by
  rw [Hello.kept, List.mem_mergeSort, List.mem_dedup]

/-- It keeps them in ascending order. -/
private theorem Hello.pairwise_kept (versions : List Version) :
    (Hello.kept versions).Pairwise (· < ·) := by
  rw [← Hello.bitmapVersions_eq_kept]
  exact Hello.pairwise_bitmapVersions (Hello.bitmap versions)

/-- Versions that ascend are kept as they are. -/
theorem Hello.kept_eq_self {versions : List Version} (h : versions.Pairwise (· < ·)) :
    Hello.kept versions = versions := by
  have hperm : (Hello.kept versions).Perm versions := by
    have hnodup {vs : List Version} (hvs : vs.Pairwise (· < ·)) : vs.Nodup := by
      refine hvs.imp ?_
      rintro u v hlt rfl
      exact UInt8.lt_irrefl u hlt
    rw [List.perm_ext_iff_of_nodup (hnodup (Hello.pairwise_kept versions)) (hnodup h)]
    exact fun v => Hello.mem_kept
  exact hperm.eq_of_pairwise (fun u v _ _ huv hvu => absurd hvu (UInt8.lt_asymm huv))
    (Hello.pairwise_kept versions) h

namespace Message

variable {m : Message}

/-- Passing a message on again changes nothing more. -/
private theorem relayed_relayed (m : Message) : m.relayed.relayed = m.relayed := by
  -- texts are kept once and then stay, and so do the versions of a hello
  have htexts (m : Message) :
      (m.mapTexts FixedText.kept).mapTexts FixedText.kept = m.mapTexts FixedText.kept := by
    rw [mapTexts_mapTexts]
    exact mapTexts_congr fun t _ => FixedText.kept_kept t.1 t.2
  cases m with
  | hello versions => exact congrArg hello (Hello.kept_eq_self (Hello.pairwise_kept versions))
  | featuresReply f => exact htexts (.featuresReply f)
  | portStatus s => exact htexts (.portStatus s)
  | multipartReply r => exact htexts (.multipartReply r)
  | _ => rfl

/-- A message without NUL whose texts fit and whose versions ascend stays as it is. -/
theorem relayed_eq_self (hnul : ∀ t ∈ m.texts, FixedText.NulFree t.2) (htexts : m.TextsFit)
    (hversions : m.VersionsAscend) : m.relayed = m := by
  have hmap : m.mapTexts FixedText.kept = m :=
    mapTexts_eq_self fun t ht => FixedText.kept_eq_self (hnul t ht) (htexts t ht)
  cases m with
  | hello versions => exact congrArg hello (Hello.kept_eq_self hversions)
  | _ => exact hmap

/-- A message that is passed on changes in texts that do not fit, at most. -/
private theorem resembles_relayed (hnul : ∀ t ∈ m.texts, FixedText.NulFree t.2) :
    m.relayed.Resembles m := by
  have hmap : ∀ t ∈ m.texts, FixedText.Fits t.1 t.2 → FixedText.kept t.1 t.2 = t.2 :=
    fun t ht => FixedText.kept_eq_self (hnul t ht)
  cases m with
  | hello versions => exact ⟨_, rfl, fun v => Hello.mem_kept⟩
  | _ => exact ⟨FixedText.kept, hmap, rfl⟩

end Message

namespace Codec

/-- The message `m` can be written in version `v`, and what is written is read as `m'`. -/
def Carries (v : Version) (xid : Xid) (m m' : Message) : Prop :=
  ∃ wire h, encode v xid m = .ok wire ∧ Header.decode wire = .ok h ∧ h.version = v ∧ h.xid = xid ∧
    decode h (wire.drop Header.size) = .ok m'

variable {v : Version} {xid : Xid} {h : Header} {body : Bytes} {m m' : Message}

/-- A message is carried if its body is written, not too long, and read back. -/
private theorem carries_of_body {number : UInt8} (hnumber : m.type.toWire? v = some number)
    (hwrite : writeBody v m = .ok body) (hshort : Header.size + body.length ≤ maxLength)
    (hread : readBody v m.type body = .ok m') : Carries v xid m m' := by
  have hsize : Header.size = 8 := rfl
  have hmax : maxLength = 65535 := rfl
  have htoNat : (UInt16.ofNat (Header.size + body.length)).toNat = Header.size + body.length := by
    rw [UInt16.toNat_ofNat']
    omega
  refine ⟨_, _, ?_, Header.decode_encode (Header.mk v number
    (UInt16.ofNat (Header.size + body.length)) xid) body, rfl, rfl, ?_⟩
  · simp only [encode, hnumber, hwrite]
    exact if_neg (Nat.not_lt.2 hshort)
  · rw [List.drop_left' (Header.length_encode _)]
    exact decode_of_length hnumber (by rw [Header.bodyLength, htoNat]; omega) hread

/-- What was read in 1.3 is carried. -/
private theorem carries_v13 {n : Nat} (hm : V13.IsRead m n) (hn : n ≤ maxLength - Header.size) :
    Carries Version.v13 xid m m.relayed := by
  have hsize : Header.size = 8 := rfl
  have hmax : maxLength = 65535 := rfl
  have hlength := hm.length_le
  obtain ⟨number, hnumber⟩ := exists_toWire? m.type
  have hwrite : writeBody Version.v13 m = .ok (V13.write m) := rfl
  exact carries_of_body hnumber hwrite (by omega)
    (hm.kept ▸ V13.read_write m hm.fits (by omega))

/-- What was read in 1.0 is, too. -/
private theorem carries_v10 {n : Nat} (hm : V10.IsRead m n) (hn : n ≤ maxLength - Header.size) :
    Carries Version.v10 xid m m.relayed := by
  have hsize : Header.size = 8 := rfl
  have hmax : maxLength = 65535 := rfl
  have hle := hm.length_le
  obtain ⟨number, hnumber⟩ := exists_toWire10? hm.isV10
  obtain ⟨body, hwrite, hlength, hread⟩ := V10.read_write hm.fits hm.isV10
  exact carries_of_body hnumber hwrite (by omega) (hm.kept ▸ hread (by omega))

/-- What is read comes from a body that leaves room for a header. -/
theorem exists_readBody (hm : decode h body = .ok m) :
    ∃ t announced, announced.length ≤ maxLength - Header.size ∧
      readBody h.version t announced = .ok m := by
  obtain ⟨t, -, hm⟩ := V10.ok_of_bind hm
  dsimp only at hm
  split at hm
  · cases hm
  -- the length field holds at most what a frame can hold
  · refine ⟨t, _, ?_, hm⟩
    have hlength : h.length.toNat < 65536 := UInt16.toNat_lt _
    have hsize : Header.size = 8 := rfl
    have hmax : maxLength = 65535 := rfl
    rw [List.length_take, Header.bodyLength]
    omega

/-- A message that was read is written, and read back as `Message.relayed`. -/
theorem carries_relayed (hversion : h.version = Version.v10 ∨ h.version = Version.v13)
    (hm : decode h body = .ok m) :
    (∀ t ∈ m.texts, FixedText.NulFree t.2) ∧ ∀ xid, Carries h.version xid m m.relayed := by
  obtain ⟨t, announced, hlength, hread⟩ := exists_readBody hm
  rcases hversion with hv | hv
  · rw [hv] at hread ⊢
    have hread : V10.read t announced = .ok m := hread
    exact ⟨(V10.isRead_read hread).nulFree, fun _ => carries_v10 (V10.isRead_read hread) hlength⟩
  · rw [hv] at hread ⊢
    have hread : V13.read t announced = .ok m := hread
    exact ⟨(V13.isRead_read hread).nulFree, fun _ => carries_v13 (V13.isRead_read hread) hlength⟩

/-- Whatever is read can be passed on: it is written in the same version, and read back as it is
if its texts fit and the versions of a hello ascend. Otherwise it differs in those at most, and
passing it on once more changes nothing. -/
theorem carries_decoded (hversion : h.version = Version.v10 ∨ h.version = Version.v13)
    (hm : decode h body = .ok m) :
    ∃ m', Carries h.version h.xid m m' ∧ (m.TextsFit → m.VersionsAscend → m' = m) ∧
      m'.Resembles m ∧ Carries h.version h.xid m' m' := by
  obtain ⟨hnul, hcarries⟩ := carries_relayed hversion hm
  refine ⟨m.relayed, hcarries h.xid, Message.relayed_eq_self hnul,
    Message.resembles_relayed hnul, ?_⟩
  -- what comes back was read from a header of the same version, so it can be passed on in turn
  obtain ⟨wire, h', -, -, hversion', -, hdecode⟩ := hcarries h.xid
  have hagain := (carries_relayed (hversion'.symm ▸ hversion) hdecode).2 h.xid
  rwa [Message.relayed_relayed, hversion'] at hagain

/-- A port status whose name is sixteen bytes that are no text: it is read as sixteen replacement
characters, which no longer fit. -/
theorem carries_damaged_name :
    let h : Header := ⟨Version.v13, 12, 80, 7⟩
    let body := 2 :: Write.zeros 7 ++ Write.u32 3 ++ Write.zeros 12 ++ List.replicate 16 0xff ++
      Write.zeros 32
    let name := String.ofList (List.replicate 16 Utf8.replacement)
    let m := Message.portStatus ⟨.modify, { number := 3, name }⟩
    h.version = Version.v13 ∧ decode h body = .ok m ∧
      ∃ m', Carries Version.v13 7 m m' ∧ m'.Resembles m ∧ Carries Version.v13 7 m' m' := by
  intro h body name m
  -- each of the sixteen bytes is read as a replacement
  have hname : FixedText.decode (List.replicate 16 0xff) = name := by
    simp [FixedText.decode, Utf8.decode, Utf8.decodeChars, Utf8.lead?, name]
  have hm : decode h body = .ok m := by
    have hport : decode h body = .ok (.portStatus ⟨.modify,
        { number := 3, name := FixedText.decode (List.replicate 16 0xff) }⟩) := rfl
    rw [hport, hname]
  obtain ⟨m', hcarries, -, hresembles, hagain⟩ := carries_decoded (.inr rfl) hm
  exact ⟨rfl, hm, m', hcarries, hresembles, hagain⟩

end Codec

end Southbound
