import Southbound.Bytes.BigEndian

/-!
# Flow matches

A match selects packets. Its content stays in the wire form of its version: the whole 40-byte
structure in OpenFlow 1.0, a string of extensible match fields in OpenFlow 1.3. Such a field is
four header bytes, the last of which is the length of the payload, and the payload.

`Oxm.split` cuts a byte string into the longest run of complete fields from its start and what is
left; `Oxm.join_split` says that nothing is lost.
-/

namespace Southbound

/-- Which packets a flow applies to. -/
inductive FlowMatch where
  /-- Every packet. -/
  | all
  /-- The packets that the wire form selects. -/
  | raw (bytes : Bytes)
deriving DecidableEq

namespace Oxm

/-- One match field: its four header bytes as a number, and its payload. -/
structure Field where
  header : Nat
  payload : Bytes
deriving DecidableEq

/-- The header of the field that holds the ingress port: basic class, first field, no mask,
four bytes of payload. -/
def inPortHeader : Nat := 0x80000004

/-- The first field of `bs`, if it is complete, and the bytes behind it. -/
def next? : Bytes → Option (Field × Bytes)
  | a :: b :: c :: len :: rest =>
    -- the last header byte is the length of the payload
    let payload := rest.take len.toNat
    if payload.length < len.toNat then none
    else some (⟨BigEndian.toNat [a, b, c, len], payload⟩, rest.drop len.toNat)
  | _ => none

/-- A field takes something away from the bytes, so cutting comes to an end. -/
private theorem length_next? {bs rest : Bytes} {f : Field} (h : next? bs = some (f, rest)) :
    rest.length < bs.length := by
  unfold next? at h
  split at h
  · dsimp only at h
    split at h
    · simp at h
    · simp only [Option.some.injEq, Prod.mk.injEq] at h
      rw [← h.2, List.length_drop]
      simp only [List.length_cons]
      omega
  · simp at h

/-- The longest run of complete fields from the start of `bs`, and the bytes behind it. -/
def split (bs : Bytes) : List Field × Bytes :=
  match _h : next? bs with
  | none => ([], bs)
  | some (f, rest) =>
    let r := split rest
    (f :: r.1, r.2)
termination_by bs.length
decreasing_by exact length_next? _h

/-- There is no field where none starts. -/
theorem split_of_none {bs : Bytes} (h : next? bs = none) : split bs = ([], bs) := by
  rw [split]
  split
  · rfl
  · next hsome =>
    rw [h] at hsome
    cases hsome

/-- The first field is followed by those of the bytes behind it. -/
theorem split_of_some {bs rest : Bytes} {f : Field} (h : next? bs = some (f, rest)) :
    split bs = (f :: (split rest).1, (split rest).2) := by
  rw [split]
  split
  · next hnone =>
    rw [h] at hnone
    cases hnone
  · next hsome =>
    rw [h] at hsome
    obtain ⟨rfl, rfl⟩ := Prod.mk.inj (Option.some.inj hsome)
    rfl

/-- Are the bytes fields and nothing else? -/
def wellFormed (bs : Bytes) : Bool := (split bs).2.isEmpty

/-- The ingress port held by the first complete field for it. -/
def inPort? (bs : Bytes) : Option UInt32 :=
  ((split bs).1.find? (fun f => f.header = inPortHeader)).map
    fun f => UInt32.ofNat (BigEndian.toNat f.payload)

/-- No field at all holds no port. -/
theorem inPort?_nil : inPort? [] = none := by
  rw [inPort?, split_of_none rfl]
  rfl

/-- The wire form of a field. -/
def Field.toBytes (f : Field) : Bytes := BigEndian.ofNat 4 f.header ++ f.payload

/-- The bytes are the wire form of their first field and what is behind it. -/
theorem toBytes_next? {bs rest : Bytes} {f : Field} (h : next? bs = some (f, rest)) :
    f.toBytes ++ rest = bs := by
  unfold next? at h
  split at h
  · next a b c len tail =>
    dsimp only at h
    split at h
    · simp at h
    · simp only [Option.some.injEq, Prod.mk.injEq] at h
      have hd := BigEndian.ofNat_toNat [a, b, c, len]
      simp only [List.length_cons, List.length_nil, Nat.zero_add] at hd
      rw [← h.1, ← h.2, Field.toBytes, hd, List.append_assoc, List.take_append_drop]
      rfl
  · simp at h

/-- Nothing is lost. -/
theorem join_split (bs : Bytes) :
    ((split bs).1.flatMap Field.toBytes) ++ (split bs).2 = bs := by
  fun_induction split bs with
  | case1 bs h => simp
  | case2 bs f rest h r ih =>
    rw [List.flatMap_cons, List.append_assoc, ih, toBytes_next? h]

end Oxm

end Southbound
