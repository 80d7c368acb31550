import Mathlib.Data.List.Infix
import Southbound.OpenFlow.Flow

/-!
# Scanning the fields of a match

The fields of an OpenFlow 1.3 match are bytes that somebody else made up. `wellFormed` and `inPort?`
are told by the complete fields from the start of them, `fields`. A scan by positions is a loop that
takes a slice behind each field: `check` and `search`, each with its own reasons to stop, come to
the same, and never read a byte that is not there.

* `isRun_fields`         `fields bs` is the longest run of complete fields
* `wellFormed_iff`       the bytes that pass the check are fields one after the other
* `inPort?_eq_some_iff`  the ingress port is that of the first field for it in the run
* `check_eq`             the loop of the check comes to the same
* `search_eq`            and so does the loop that searches for the port
* `scans_fields`         all of this together
-/

namespace Southbound

namespace Oxm

variable {bs rest : Bytes} {field : Field} {n : Nat}

/-! ## Runs of fields -/

/-- A complete field: four header bytes, the last of which is the length of the payload, and the
payload. -/
def IsField (f : Bytes) : Prop :=
  ∃ a b c len payload, f = a :: b :: c :: len :: payload ∧ payload.length = len.toNat

/-- Complete fields, one after the other from the start of `bs`. -/
structure Leads (bs : Bytes) (fs : List Bytes) : Prop where
  isField : ∀ f ∈ fs, IsField f
  isPrefix : fs.flatten <+: bs

/-- The longest run of complete fields from the start of `bs`. -/
structure IsRun (bs : Bytes) (fs : List Bytes) : Prop where
  leads : Leads bs fs
  longest : ∀ gs, Leads bs gs → gs <+: fs

/-- What a field says. -/
def Field.ofBytes (f : Bytes) : Field := ⟨BigEndian.toNat (f.take 4), f.drop 4⟩

/-- A field has a header. -/
private theorem IsField.length_ge {f : Bytes} (h : IsField f) : 4 ≤ f.length := by
  obtain ⟨a, b, c, len, payload, rfl, -⟩ := h
  simp

/-- Too few bytes are no field. -/
private theorem next?_of_length_lt (h : bs.length < 4) : next? bs = none := by
  unfold next?
  split
  · simp only [List.length_cons] at h
    omega
  · rfl

/-- Behind a header comes as much payload as it says. -/
private theorem next?_cons (a b c len : UInt8) (tail : Bytes) :
    next? (a :: b :: c :: len :: tail) =
      if tail.length < len.toNat then none
      else some (⟨BigEndian.toNat [a, b, c, len], tail.take len.toNat⟩, tail.drop len.toNat) := by
  have hshort : (tail.take len.toNat).length < len.toNat ↔ tail.length < len.toNat := by
    rw [List.length_take]
    omega
  simp only [next?, hshort]

/-- The field in front is read if and only if it is complete. -/
theorem next?_eq_some_iff : next? bs = some (field, rest) ↔
    ∃ f, IsField f ∧ bs = f ++ rest ∧ field = Field.ofBytes f := by
  constructor
  · intro h
    unfold next? at h
    split at h
    · next a b c len tail =>
      dsimp only at h
      split at h
      · cases h
      · next hwhole =>
        -- the field is its four bytes of header and as many as the header tells
        obtain ⟨rfl, rfl⟩ := Prod.mk.inj (Option.some.inj h)
        refine ⟨a :: b :: c :: len :: tail.take len.toNat, ⟨_, _, _, _, _, rfl, ?_⟩, ?_, rfl⟩
        · have hle := List.length_take_le len.toNat tail
          omega
        · simp only [List.cons_append, List.take_append_drop]
    · cases h
  · rintro ⟨_, ⟨a, b, c, len, payload, rfl, hlength⟩, rfl, rfl⟩
    have hle : ¬ (payload ++ rest).length < len.toNat := by
      rw [List.length_append]
      omega
    simp only [List.cons_append]
    rw [next?_cons, if_neg hle, ← hlength, List.take_left, List.drop_left]
    rfl

/-- A field in front is the first. -/
private theorem IsField.next?_append {f : Bytes} (h : IsField f) (rest : Bytes) :
    next? (f ++ rest) = some (Field.ofBytes f, rest) :=
  next?_eq_some_iff.2 ⟨f, h, rfl, rfl⟩

/-- A field is told by its bytes. -/
private theorem IsField.toBytes_ofBytes {f : Bytes} (h : IsField f) :
    (Field.ofBytes f).toBytes = f :=
  List.append_cancel_right (toBytes_next? (h.next?_append []))

/-- The complete fields from the start of `bs`, each as the bytes that it takes up. -/
def fields (bs : Bytes) : List Bytes := (split bs).1.map Field.toBytes

/-- Where no field starts there are none. -/
private theorem fields_of_none (h : next? bs = none) : fields bs = [] := by
  rw [fields, split_of_none h]
  rfl

/-- A field in front comes before the others. -/
private theorem fields_append {f : Bytes} (h : IsField f) (rest : Bytes) :
    fields (f ++ rest) = f :: fields rest := by
  rw [fields, split_of_some (h.next?_append rest), List.map_cons, h.toBytes_ofBytes, fields]

/-- Nothing is lost. -/
theorem flatten_fields (bs : Bytes) : (fields bs).flatten ++ (split bs).2 = bs := by
  have hjoin := join_split bs
  rwa [List.flatMap_def] at hjoin

/-- All of them are complete. -/
private theorem isField_of_mem_fields (bs : Bytes) : ∀ f ∈ fields bs, IsField f := by
  fun_induction split bs with
  | case1 bs hnone =>
    rw [fields_of_none hnone]
    exact List.forall_mem_nil _
  | case2 bs field rest hsome r ih =>
    obtain ⟨f, hf, rfl, -⟩ := next?_eq_some_iff.1 hsome
    rw [fields_append hf]
    exact List.forall_mem_cons.2 ⟨hf, ih⟩

/-- No run of complete fields goes on where the fields end. -/
theorem Leads.isPrefix_fields {fs : List Bytes} (h : Leads bs fs) : fs <+: fields bs := by
  induction fs generalizing bs with
  | nil => exact List.nil_prefix
  | cons f fs ih =>
    obtain ⟨hf, hfs⟩ := List.forall_mem_cons.1 h.isField
    obtain ⟨tail, rfl⟩ := h.isPrefix
    rw [List.flatten_cons, List.append_assoc, fields_append hf, List.cons_prefix_cons]
    exact ⟨rfl, ih ⟨hfs, List.prefix_append _ _⟩⟩

/-- So they are the longest run. -/
theorem isRun_fields (bs : Bytes) : IsRun bs (fields bs) where
  leads := ⟨isField_of_mem_fields bs, ⟨_, flatten_fields bs⟩⟩
  longest := fun _ hgs => hgs.isPrefix_fields

/-! ## What the two loops come to -/

/-- The bytes that pass the check are fields one after the other. -/
theorem wellFormed_iff :
    wellFormed bs = true ↔ ∃ fs : List Bytes, (∀ f ∈ fs, IsField f) ∧ bs = fs.flatten := by
  have hjoin := flatten_fields bs
  rw [wellFormed, List.isEmpty_iff]
  constructor
  · intro hend
    rw [hend, List.append_nil] at hjoin
    exact ⟨fields bs, isField_of_mem_fields bs, hjoin.symm⟩
  · rintro ⟨fs, hfs, rfl⟩
    -- these fields are all in the run, so there is no room for anything behind it
    obtain ⟨more, hmore⟩ := (Leads.mk hfs (List.prefix_refl _)).isPrefix_fields
    have hlength := congrArg List.length hjoin
    rw [← hmore, List.flatten_append, List.length_append, List.length_append] at hlength
    exact List.eq_nil_of_length_eq_zero (by omega)

/-- The header of the field that holds the ingress port. -/
def portHeader : Bytes := [0x80, 0x00, 0x00, 0x04]

/-- The header of the ingress port is told by its number. -/
private theorem toNat_eq_inPortHeader_iff {header : Bytes} (h : header.length = 4) :
    BigEndian.toNat header = inPortHeader ↔ header = portHeader := by
  constructor
  · intro hnumber
    have hbytes := BigEndian.ofNat_toNat header
    rw [h, hnumber] at hbytes
    exact hbytes.symm
  · rintro rfl
    rfl

/-- So a field is for the ingress port if it begins with that header. -/
private theorem IsField.header_iff {f : Bytes} (h : IsField f) :
    (Field.ofBytes f).header = inPortHeader ↔ portHeader <+: f := by
  have hlength : (f.take 4).length = 4 := List.length_take_of_le h.length_ge
  rw [Field.ofBytes, toNat_eq_inPortHeader_iff hlength, List.prefix_iff_eq_take, eq_comm]
  rfl

/-- The header says how long the payload is. -/
theorem IsField.length_payload {payload : Bytes} (h : IsField (portHeader ++ payload)) :
    payload.length = 4 := by
  obtain ⟨a, b, c, len, payload', heq, hlength⟩ := h
  simp only [portHeader, List.cons_append, List.nil_append, List.cons.injEq] at heq
  obtain ⟨-, -, -, rfl, rfl⟩ := heq
  exact hlength

/-- What is split off is what the fields say. -/
private theorem split_fst (bs : Bytes) : (split bs).1 = (fields bs).map Field.ofBytes := by
  fun_induction split bs with
  | case1 bs hnone =>
    rw [fields_of_none hnone]
    rfl
  | case2 bs field rest hsome r ih =>
    obtain ⟨f, hf, rfl, rfl⟩ := next?_eq_some_iff.1 hsome
    rw [fields_append hf, List.map_cons, ← ih]

/-- The ingress port is that of the first field for it in the run. -/
theorem inPort?_eq_some_iff {port : UInt32} : inPort? bs = some port ↔
    ∃ before payload after, fields bs = before ++ (portHeader ++ payload) :: after ∧
      (∀ f ∈ before, ¬ portHeader <+: f) ∧ payload.length = 4 ∧
      port.toNat = BigEndian.toNat payload := by
  -- the scan takes whole fields only, so a header fixes the length of its payload
  have hisField := isField_of_mem_fields bs
  simp only [inPort?, split_fst, List.find?_map, Option.map_eq_some_iff,
    List.find?_eq_some_iff_append, exists_exists_and_eq_and, Function.comp_apply,
    decide_eq_true_eq, Bool.not_eq_true', decide_eq_false_iff_not]
  constructor
  · rintro ⟨f, ⟨hheader, before, after, hfields, hbefore⟩, rfl⟩
    rw [hfields] at hisField
    have hf := hisField f (by simp)
    obtain ⟨payload, rfl⟩ := hf.header_iff.1 hheader
    refine ⟨before, payload, after, hfields, fun g hg hport => ?_, hf.length_payload, ?_⟩
    · exact hbefore g hg ((hisField g (by simp [hg])).header_iff.2 hport)
    · have hlt := BigEndian.toNat_lt payload
      rw [hf.length_payload] at hlt
      exact UInt32.toNat_ofNat_of_lt' hlt
  · rintro ⟨before, payload, after, hfields, hbefore, hlength, hport⟩
    rw [hfields] at hisField
    have hf := hisField (portHeader ++ payload) (by simp)
    refine ⟨portHeader ++ payload, ⟨hf.header_iff.2 (List.prefix_append _ _), before, after,
      hfields, fun g hg hheader => ?_⟩, ?_⟩
    · exact hbefore g hg ((hisField g (by simp [hg])).header_iff.1 hheader)
    · exact UInt32.toNat.inj (by simp [Field.ofBytes, portHeader, ← hport])

/-- There is no ingress port without a field for it. -/
private theorem inPort?_eq_none_iff : inPort? bs = none ↔ ∀ f ∈ fields bs, ¬ portHeader <+: f := by
  have hisField := isField_of_mem_fields bs
  simp only [inPort?, split_fst, List.find?_map, Option.map_eq_none_iff, List.find?_eq_none,
    Function.comp_apply, decide_eq_true_eq]
  exact forall₂_congr fun f hf => not_congr (hisField f hf).header_iff

/-! ## The loops -/

/-- The bytes of `bs` from position `i` up to `j`, if it has them all. -/
def slice? (i j : Nat) (bs : Bytes) : Option Bytes :=
  if i ≤ j ∧ j ≤ bs.length then some ((bs.take j).drop i) else none

/-- The loop of the check, with at most `n` turns behind the first. Nothing if it reads past the end
or if the turns are not enough. -/
def check (n : Nat) (bs : Bytes) : Option Bool :=
  if bs.isEmpty then some true
  else if bs.length < 4 then some false
  else do
    let len ← bs[3]?
    if bs.length < 4 + len.toNat then some false
    else match n with
      | 0 => none
      | n + 1 => check n (← slice? (4 + len.toNat) bs.length bs)

/-- The loop that searches for the ingress port, with at most `n` turns behind the first. Nothing if
it reads past the end or if the turns are not enough. -/
def search (n : Nat) (bs : Bytes) : Option (Option UInt32) :=
  if bs.length < 4 then some none
  else do
    let header ← slice? 0 4 bs
    let len ← bs[3]?
    if bs.length < 4 + len.toNat then some none
    else if BigEndian.toNat header = inPortHeader then
      -- the length of the payload is not looked at here
      let value ← slice? 4 8 bs
      some (some (UInt32.ofNat (BigEndian.toNat value)))
    else match n with
      | 0 => none
      | n + 1 => search n (← slice? (4 + len.toNat) bs.length bs)

/-- A slice within the bytes is there. -/
private theorem slice?_eq_some {i j : Nat} (hi : i ≤ j) (hj : j ≤ bs.length) :
    slice? i j bs = some ((bs.take j).drop i) := if_pos ⟨hi, hj⟩

/-- What is behind a field is there. -/
private theorem slice?_behind (f rest : Bytes) :
    slice? f.length (f ++ rest).length (f ++ rest) = some rest := by
  rw [slice?_eq_some (by simp) (Nat.le_refl _), List.take_length, List.drop_left]

/-- Where bytes are no complete field, they are too few for a header or for what it announces. -/
theorem exists_length_of_none (h : next? bs = none) (hheader : ¬ bs.length < 4) :
    ∃ len, bs[3]? = some len ∧ bs.length < 4 + len.toNat := by
  -- four bytes are there, so the header itself was read
  obtain ⟨a, b, c, len, tail, rfl⟩ : ∃ a b c len tail, bs = a :: b :: c :: len :: tail := by
    rcases bs with _ | ⟨a, _ | ⟨b, _ | ⟨c, _ | ⟨len, tail⟩⟩⟩⟩
    · simp at hheader
    · simp at hheader
    · simp at hheader
    · simp at hheader
    · exact ⟨a, b, c, len, tail, rfl⟩
  rw [next?_cons] at h
  split at h
  · next hshort =>
    refine ⟨len, rfl, ?_⟩
    simp only [List.length_cons]
    omega
  · cases h

/-- The length of a field is there, and so is the whole field. -/
private theorem IsField.exists_length {f : Bytes} (h : IsField f) (rest : Bytes) :
    ∃ len, (f ++ rest)[3]? = some len ∧ 4 + len.toNat = f.length ∧
      ¬ (f ++ rest).length < 4 + len.toNat := by
  obtain ⟨a, b, c, len, payload, rfl, hlength⟩ := h
  refine ⟨len, rfl, ?_, ?_⟩
  · simp only [List.length_cons]
    omega
  · simp only [List.length_append, List.length_cons]
    omega

/-- A field takes up four bytes at least, so that turns are enough. -/
private theorem IsField.length_append_ge {f : Bytes} (h : IsField f) (rest : Bytes) :
    rest.length + 4 ≤ (f ++ rest).length := by
  have hge := h.length_ge
  rw [List.length_append]
  omega

/-! ### The check -/

/-- Without a field the check stops at once. -/
private theorem check_of_none (h : next? bs = none) (n : Nat) : check n bs = some bs.isEmpty := by
  unfold check
  by_cases hempty : bs.isEmpty
  · rw [if_pos hempty, hempty]
  · rw [if_neg hempty, eq_false_of_ne_true hempty]
    by_cases hheader : bs.length < 4
    · rw [if_pos hheader]
    · obtain ⟨len, hlen, hshort⟩ := exists_length_of_none h hheader
      rw [if_neg hheader, hlen]
      exact if_pos hshort

/-- Behind a field it goes on, with one turn less. -/
private theorem check_append {f : Bytes} (h : IsField f) (rest : Bytes) (n : Nat) :
    check (n + 1) (f ++ rest) = check n rest := by
  have hge := h.length_append_ge rest
  have hempty : ¬ (f ++ rest).isEmpty := by
    rw [List.isEmpty_iff_length_eq_zero]
    omega
  obtain ⟨len, hlen, hlength, hwhole⟩ := h.exists_length rest
  rw [check, if_neg hempty, if_neg (by omega), hlen]
  refine (if_neg hwhole).trans ?_
  rw [hlength, slice?_behind]
  rfl

/-- Without a field only nothing is well-formed. -/
private theorem wellFormed_of_none (h : next? bs = none) : wellFormed bs = bs.isEmpty := by
  rw [wellFormed, split_of_none h]

/-- A field in front does not matter. -/
private theorem wellFormed_append {f : Bytes} (h : IsField f) (rest : Bytes) :
    wellFormed (f ++ rest) = wellFormed rest := by
  rw [wellFormed, split_of_some (h.next?_append rest), wellFormed]

/-- The loop of the check comes to its end, after a quarter of the bytes at the latest, and reads
nothing that is not there. -/
theorem check_eq (h : bs.length / 4 ≤ n) : check n bs = some (wellFormed bs) := by
  -- each round takes at least four bytes, so the rounds suffice
  induction n generalizing bs with
  | zero =>
    have hnone : next? bs = none := next?_of_length_lt (by omega)
    rw [check_of_none hnone, wellFormed_of_none hnone]
  | succ n ih =>
    cases hnext : next? bs with
    | none => rw [check_of_none hnext, wellFormed_of_none hnext]
    | some p =>
      obtain ⟨f, hf, rfl, -⟩ := next?_eq_some_iff.1 hnext
      have hge := hf.length_append_ge p.2
      rw [check_append hf, wellFormed_append hf, ih (by omega)]

/-! ### The search -/

/-- Without a field the search stops at once. -/
private theorem search_of_none (h : next? bs = none) (n : Nat) : search n bs = some none := by
  unfold search
  by_cases hheader : bs.length < 4
  · rw [if_pos hheader]
  · obtain ⟨len, hlen, hshort⟩ := exists_length_of_none h hheader
    rw [if_neg hheader, slice?_eq_some (by omega) (by omega), hlen]
    exact if_pos hshort

/-- The header of a field is there. -/
private theorem IsField.slice?_header {f : Bytes} (h : IsField f) (rest : Bytes) :
    slice? 0 4 (f ++ rest) = some (f.take 4) := by
  have hge := h.length_append_ge rest
  rw [slice?_eq_some (by omega) (by omega), List.drop_zero,
    List.take_append_of_le_length h.length_ge]

/-- The four bytes behind the header are there, as the header says so. -/
theorem search_of_port {f : Bytes} (h : IsField f) (hport : portHeader <+: f) (rest : Bytes)
    (n : Nat) :
    search n (f ++ rest) = some (some (UInt32.ofNat (BigEndian.toNat (f.drop 4)))) := by
  obtain ⟨payload, rfl⟩ := hport
  have hlength : (portHeader ++ payload).length = 8 := by
    rw [List.length_append, h.length_payload]
    rfl
  have hge := h.length_append_ge rest
  obtain ⟨len, hlen, -, hwhole⟩ := h.exists_length rest
  -- the value is the four bytes after the header, wherever the field stands
  have hvalue : slice? 4 8 (portHeader ++ payload ++ rest) =
      some ((portHeader ++ payload).drop 4) := by
    rw [slice?_eq_some (by omega) (by rw [List.length_append]; omega), List.take_left' hlength]
  unfold search
  rw [if_neg (by omega), h.slice?_header, hlen]
  refine (if_neg hwhole).trans ?_
  refine (if_pos (h.header_iff.2 (List.prefix_append _ _))).trans ?_
  rw [hvalue]
  rfl

/-- Behind a field that is not for the port the search goes on. -/
private theorem search_append {f : Bytes} (h : IsField f) (hother : ¬ portHeader <+: f)
    (rest : Bytes) (n : Nat) : search (n + 1) (f ++ rest) = search n rest := by
  have hge := h.length_append_ge rest
  obtain ⟨len, hlen, hlength, hwhole⟩ := h.exists_length rest
  rw [search, if_neg (by omega), h.slice?_header, hlen]
  refine (if_neg hwhole).trans ?_
  refine (if_neg (mt h.header_iff.1 hother)).trans ?_
  rw [hlength, slice?_behind]
  rfl

/-- Without a field there is no port. -/
private theorem inPort?_of_none (h : next? bs = none) : inPort? bs = none := by
  rw [inPort?, split_of_none h]
  rfl

/-- A field for the port in front holds it. -/
private theorem inPort?_of_port {f : Bytes} (h : IsField f) (hport : portHeader <+: f)
    (rest : Bytes) :
    inPort? (f ++ rest) = some (UInt32.ofNat (BigEndian.toNat (f.drop 4))) := by
  rw [inPort?, split_fst, fields_append h, List.map_cons,
    List.find?_cons_of_pos (by simpa using h.header_iff.2 hport)]
  rfl

/-- Any other field in front does not matter. -/
private theorem inPort?_append {f : Bytes} (h : IsField f) (hother : ¬ portHeader <+: f)
    (rest : Bytes) :
    inPort? (f ++ rest) = inPort? rest := by
  rw [inPort?, split_fst, fields_append h, List.map_cons,
    List.find?_cons_of_neg (by simpa using mt h.header_iff.1 hother), inPort?, split_fst]

/-- The loop that searches for the ingress port comes to its end, after a quarter of the bytes at
the latest, and reads nothing that is not there. -/
theorem search_eq (h : bs.length / 4 ≤ n) : search n bs = some (inPort? bs) := by
  induction n generalizing bs with
  | zero =>
    have hnone : next? bs = none := next?_of_length_lt (by omega)
    rw [search_of_none hnone, inPort?_of_none hnone]
  | succ n ih =>
    cases hnext : next? bs with
    | none => rw [search_of_none hnext, inPort?_of_none hnext]
    | some p =>
      obtain ⟨f, hf, rfl, -⟩ := next?_eq_some_iff.1 hnext
      -- the first field with the port header ends the search, any other is stepped over
      by_cases hport : portHeader <+: f
      · rw [search_of_port hf hport, inPort?_of_port hf hport]
      · have hge := hf.length_append_ge p.2
        rw [search_append hf hport, inPort?_append hf hport, ih (by omega)]

/-! ## Both scans -/

/-- The bytes that pass the check are a concatenation of fields. The ingress port is the number that
the four bytes of payload form in the first field for it, among the longest run of complete fields
from the start, and there is none if the run has no such field. On any bytes whatever, both loops
come to their end, after a quarter of the bytes at the latest, without reading past it. -/
theorem scans_fields (bs : Bytes) :
    (wellFormed bs = true ↔ ∃ fs : List Bytes, (∀ f ∈ fs, IsField f) ∧ bs = fs.flatten) ∧
    (∃ fs, IsRun bs fs ∧
      (∀ port, inPort? bs = some port ↔
        ∃ before payload after, fs = before ++ (portHeader ++ payload) :: after ∧
          (∀ f ∈ before, ¬ portHeader <+: f) ∧ payload.length = 4 ∧
          port.toNat = BigEndian.toNat payload) ∧
      (inPort? bs = none ↔ ∀ f ∈ fs, ¬ portHeader <+: f)) ∧
    ∀ k, check (bs.length / 4 + k) bs = some (wellFormed bs) ∧
      search (bs.length / 4 + k) bs = some (inPort? bs) := by
  refine ⟨wellFormed_iff, ?_, fun k => ?_⟩
  · exact ⟨fields bs, isRun_fields bs, fun _ => inPort?_eq_some_iff, inPort?_eq_none_iff⟩
  · exact ⟨check_eq (Nat.le_add_right _ _), search_eq (Nat.le_add_right _ _)⟩

/-- A field for the ingress port is found even if the bytes behind it are no field. -/
example : check 4 [0x80, 0, 0, 4, 0, 0, 0, 7, 0x80, 0, 2, 1] = some false ∧
    search 4 [0x80, 0, 0, 4, 0, 0, 0, 7, 0x80, 0, 2, 1] = some (some 7) := by decide

end Oxm

end Southbound
