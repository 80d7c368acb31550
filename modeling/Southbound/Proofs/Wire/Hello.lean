import Mathlib.Algebra.Group.Nat.Defs
import Mathlib.Data.List.Dedup
import Southbound.Proofs.Wire.Parts

/-!
# The version bitmap of a hello

A hello keeps which versions it lists, but neither their order nor how often each was listed:

* `testBit_word`        bit `b` of word `w` says whether version `32 * w + b` is listed
* `mem_bitmapVersions`  the bitmap lists the versions it was written for, and no others
* `read_write`          reading a written hello gives its versions in order, each once
-/

namespace Southbound

/-! ## Pieces of one length -/

/-- A piece of the right length is the first. -/
theorem chunks_append {α : Type} {n : Nat} (hn : 0 < n) {piece : List α} (hp : piece.length = n)
    (rest : List α) : chunks n (piece ++ rest) = piece :: chunks n rest := by
  cases piece with
  | nil => simp only [List.length_nil] at hp; omega
  | cons x xs =>
    have hxs : xs.length = n - 1 := by simp only [List.length_cons] at hp; omega
    rw [List.cons_append, chunks, ← hxs, List.take_left, List.drop_left]

/-- Pieces of one length are found again. -/
theorem chunks_flatMap {α β : Type} {n : Nat} (hn : 0 < n) {f : β → List α}
    (hf : ∀ b, (f b).length = n) (bs : List β) : chunks n (bs.flatMap f) = bs.map f := by
  induction bs with
  | nil => exact chunks_nil n
  | cons b bs ih => rw [List.flatMap_cons, chunks_append hn (hf b), ih, List.map_cons]

namespace Hello

/-! ## Words -/

/-- A number put together from bits has those bits and no others. -/
theorem testBit_foldl_shiftLeft (p : Nat → Bool) (k : Nat) :
    (List.range k).foldl (fun n b => if p b then n + 1 <<< b else n) 0 < 2 ^ k ∧
      ∀ b, ((List.range k).foldl (fun n b => if p b then n + 1 <<< b else n) 0).testBit b =
        (decide (b < k) && p b) := by
  -- the bits that are put in so far are below `k`, so the next one is added and carries nothing
  induction k with
  | zero => simp
  | succ k ih =>
    obtain ⟨hlt, hbit⟩ := ih
    rw [List.range_succ, List.foldl_append, List.foldl_cons, List.foldl_nil, Nat.one_shiftLeft]
    generalize (List.range k).foldl (fun n b => if p b then n + 1 <<< b else n) 0 = n at hlt hbit
    have hpow : 2 ^ (k + 1) = 2 ^ k + 2 ^ k := by omega
    split
    · next hp =>
      refine ⟨by omega, fun b => ?_⟩
      rcases Nat.lt_trichotomy b k with hb | rfl | hb
      · rw [Nat.add_comm, Nat.testBit_two_pow_add_gt hb, hbit]
        simp [hb, Nat.lt_succ_of_lt hb]
      · rw [Nat.add_comm, Nat.testBit_two_pow_add_eq, hbit]
        simp [hp]
      · have hle : 2 ^ (k + 1) ≤ 2 ^ b := Nat.pow_le_pow_right (by decide) hb
        rw [Nat.testBit_lt_two_pow (Nat.lt_of_lt_of_le (by omega) hle), decide_eq_false (by omega),
          Bool.false_and]
    · next hp =>
      refine ⟨by omega, fun b => ?_⟩
      rw [hbit]
      rcases Nat.lt_trichotomy b k with hb | rfl | hb
      · simp [hb, Nat.lt_succ_of_lt hb]
      · simp [hp]
      · have hk : ¬ b < k := by omega
        have hk' : ¬ b < k + 1 := by omega
        simp only [hk, hk', decide_false, Bool.false_and]

variable {versions : List Version}

/-- A word has 32 bits. -/
private theorem word_lt (versions : List Version) (w : Nat) : word versions w < 2 ^ 32 :=
  (testBit_foldl_shiftLeft (fun b => versions.any fun v => v.toNat = 32 * w + b) 32).1

/-- The bits of a word are those of the versions that it is for. -/
theorem testBit_word {w b : Nat} (hb : b < 32) :
    (word versions w).testBit b = true ↔ ∃ v ∈ versions, v.toNat = 32 * w + b := by
  have hbit := (testBit_foldl_shiftLeft
    (fun b => versions.any fun v => v.toNat = 32 * w + b) 32).2 b
  rw [word, hbit]
  simp [hb]

/-- The greatest version is no less than the others, and is a byte. -/
private theorem foldl_max (versions : List Version) (init : Nat) :
    init ≤ versions.foldl (fun n v => max n v.toNat) init ∧
      (∀ v ∈ versions, v.toNat ≤ versions.foldl (fun n v => max n v.toNat) init) ∧
      (init ≤ 255 → versions.foldl (fun n v => max n v.toNat) init ≤ 255) := by
  induction versions generalizing init with
  | nil => simp
  | cons u us ih =>
    obtain ⟨hinit, hmem, hle⟩ := ih (max init u.toNat)
    have hu : u.toNat < 256 := UInt8.toNat_lt u
    rw [List.foldl_cons]
    refine ⟨by omega, ?_, fun _ => hle (by omega)⟩
    intro v hv
    rcases List.mem_cons.1 hv with rfl | hv
    · omega
    · exact hmem v hv

/-- No version is past the last word. -/
theorem div_lt_wordCount {v : Version} (hv : v ∈ versions) : v.toNat / 32 < wordCount versions := by
  have hle := (foldl_max versions 0).2.1 v hv
  rw [wordCount]
  omega

/-- A bitmap has at most eight words. -/
theorem wordCount_le (versions : List Version) : wordCount versions ≤ 8 := by
  have hle := (foldl_max versions 0).2.2 (by omega)
  rw [wordCount]
  omega

/-! ## The bitmap -/

/-- The bitmap of some versions. -/
def bitmap (versions : List Version) : Bytes :=
  (List.range (wordCount versions)).flatMap fun w => BigEndian.ofNat 4 (word versions w)

/-- The versions of a bitmap are read word by word. -/
private theorem bitmapVersions_bitmap (versions : List Version) :
    bitmapVersions (bitmap versions) = (List.range (wordCount versions)).flatMap fun w =>
      wordVersions (BigEndian.ofNat 4 (word versions w)) w := by
  have hzip (n : Nat) (f : Nat → Bytes) :
      ((List.range n).map f).zipIdx = (List.range n).map fun w => (f w, w) :=
    List.ext_getElem (by simp) fun i _ _ => by simp
  rw [bitmapVersions, bitmap, chunks_flatMap (by decide) fun w => BigEndian.length_ofNat 4 _, hzip,
    List.flatMap_map]

/-- A word lists the versions whose bits are set in it. -/
theorem mem_wordVersions {word : Bytes} {w : Nat} {v : Version} :
    v ∈ wordVersions word w ↔
      (BigEndian.toNat word).testBit (v.toNat % 32) = true ∧ v.toNat / 32 = w := by
  have hv : v.toNat < 256 := UInt8.toNat_lt v
  simp only [wordVersions, List.mem_map, List.mem_filter, List.mem_range, Bool.and_eq_true,
    decide_eq_true_eq]
  constructor
  · rintro ⟨b, ⟨hb, hbit, hle⟩, rfl⟩
    -- a version fits eight bits, so word and bit are its quotient and remainder
    have htoNat : (UInt8.ofNat (32 * w + b)).toNat = 32 * w + b := by
      rw [UInt8.toNat_ofNat']
      omega
    rw [htoNat, show (32 * w + b) % 32 = b by omega]
    exact ⟨hbit, by omega⟩
  · rintro ⟨hbit, rfl⟩
    refine ⟨v.toNat % 32, ⟨Nat.mod_lt _ (by decide), hbit, by omega⟩, ?_⟩
    rw [Nat.div_add_mod, UInt8.ofNat_toNat]

/-- The bitmap lists the versions it was written for. -/
theorem mem_bitmapVersions {v : Version} : v ∈ bitmapVersions (bitmap versions) ↔ v ∈ versions := by
  have hcount : BigEndian.count 4 = 2 ^ 32 := by decide
  rw [bitmapVersions_bitmap, List.mem_flatMap]
  simp only [List.mem_range, mem_wordVersions,
    BigEndian.toNat_ofNat_of_lt (hcount ▸ word_lt versions _),
    testBit_word (Nat.mod_lt _ (by decide))]
  constructor
  · rintro ⟨w, -, ⟨u, hu, heq⟩, rfl⟩
    -- word and bit together are the number of the version
    have huv : u = v := UInt8.toNat.inj (by omega)
    exact huv ▸ hu
  · intro hv
    exact ⟨_, div_lt_wordCount hv, ⟨v, hv, (Nat.div_add_mod _ _).symm⟩, rfl⟩

/-- It lists them in ascending order. -/
private theorem pairwise_wordVersions (word : Bytes) (w : Nat) :
    (wordVersions word w).Pairwise (· < ·) := by
  refine List.pairwise_map.2 ?_
  have hsorted := (List.pairwise_lt_range (n := 32)).filter
    fun b => (BigEndian.toNat word).testBit b && decide (32 * w + b ≤ 255)
  refine hsorted.imp_of_mem ?_
  intro a b ha hb hab
  simp only [List.mem_filter, Bool.and_eq_true, decide_eq_true_eq] at ha hb
  rw [UInt8.lt_iff_toNat_lt, UInt8.toNat_ofNat', UInt8.toNat_ofNat']
  omega

/-- The versions of a bitmap ascend. -/
theorem pairwise_bitmapVersions (payload : Bytes) :
    (bitmapVersions payload).Pairwise (· < ·) := by
  rw [bitmapVersions, List.pairwise_flatMap]
  refine ⟨fun p _ => pairwise_wordVersions p.1 p.2, List.pairwise_iff_getElem.2 ?_⟩
  -- all versions of a word are below those of the words behind it
  intro i j hi hj hij u hu v hv
  rw [List.getElem_zipIdx] at hu hv
  have hu' := (mem_wordVersions.1 hu).2
  have hv' := (mem_wordVersions.1 hv).2
  rw [UInt8.lt_iff_toNat_lt]
  omega

/-- The versions in order, each once. -/
def kept (versions : List Version) : List Version := versions.dedup.mergeSort

/-- So a bitmap lists what it was written for in order, each version once. -/
theorem bitmapVersions_eq_kept (versions : List Version) :
    bitmapVersions (bitmap versions) = kept versions := by
  have hsorted := pairwise_bitmapVersions (bitmap versions)
  have hnodup : (bitmapVersions (bitmap versions)).Nodup := by
    refine hsorted.imp ?_
    rintro u v hlt rfl
    exact UInt8.lt_irrefl u hlt
  have hperm : (bitmapVersions (bitmap versions)).Perm versions.dedup := by
    rw [List.perm_ext_iff_of_nodup hnodup versions.nodup_dedup]
    intro v
    rw [mem_bitmapVersions, List.mem_dedup]
  have hmerge : (kept versions).Pairwise (· ≤ ·) := by
    have h := @List.pairwise_mergeSort Version (fun a b => decide (a ≤ b))
      (fun a b c hab hbc => by simpa using UInt8.le_trans (by simpa using hab) (by simpa using hbc))
      (fun a b => by simpa using UInt8.le_total a b) versions.dedup
    simpa only [kept, decide_eq_true_eq] using h
  -- two ascending lists with the same elements are equal
  refine List.Perm.eq_of_pairwise (fun a b _ _ hab hba => UInt8.le_antisymm hab hba)
    (hsorted.imp UInt8.le_of_lt) hmerge ?_
  exact hperm.trans (List.mergeSort_perm _ _).symm

/-! ## The body -/

/-- Fewer than four bytes are no element. -/
theorem elements_short {rest : Bytes} (h : rest.length < 4) : elements rest = .ok [] := by
  rw [elements]
  intro t1 t0 l1 l0 tail heq
  rw [heq] at h
  simp only [List.length_cons] at h
  omega

/-- The first element of a body. -/
theorem elements_append {kind : Nat} (hkind : kind < 65536) {payload : Bytes}
    (hlength : 4 + payload.length < 65536) (tail : Bytes) :
    elements (BigEndian.ofNat 2 kind ++ BigEndian.ofNat 2 (4 + payload.length) ++ payload ++ tail) =
      (⟨kind, payload⟩ :: ·) <$> elements (tail.drop (padding (4 + payload.length))) := by
  have hk := BigEndian.toNat_ofNat_of_lt (w := 2) hkind
  have hl := BigEndian.toNat_ofNat_of_lt (w := 2) hlength
  simp only [BigEndian.ofNat, List.nil_append, List.cons_append] at hk hl
  simp only [BigEndian.ofNat, List.nil_append, List.cons_append]
  -- the length field counts the header of the element
  have hsub : 4 + payload.length - 4 = payload.length := by omega
  have hge : ¬ 4 + payload.length < 4 := by omega
  rw [elements]
  simp only [hk, hl, hsub, hge, ↓reduceIte, List.take_left, Nat.lt_irrefl,
    List.drop_length_add_append]
  cases elements (tail.drop (padding (4 + payload.length))) <;> rfl

/-- A single element that fills the body. -/
theorem elements_single {kind : Nat} (hk : kind < 65536) {payload : Bytes}
    (hp : 4 + payload.length < 65536) (fill : Bytes)
    (hf : fill.length ≤ padding (4 + payload.length)) :
    elements (BigEndian.ofNat 2 kind ++ BigEndian.ofNat 2 (4 + payload.length) ++ payload ++ fill) =
      .ok [⟨kind, payload⟩] := by
  rw [elements_append hk hp, List.drop_eq_nil_of_le hf, elements_short (by decide)]
  rfl

/-- A bitmap has four bytes to a word. -/
theorem length_bitmap (versions : List Version) :
    (bitmap versions).length = 4 * wordCount versions := by
  simp [bitmap, List.length_flatMap, Nat.mul_comm]

/-- A hello that lists versions has one element, with padding. -/
theorem write_of_ne_nil (h : versions ≠ []) :
    write versions = BigEndian.ofNat 2 bitmapKind ++
      BigEndian.ofNat 2 (4 + (bitmap versions).length) ++ bitmap versions ++
      Write.zeros (padding (4 + (bitmap versions).length)) := by
  rw [write, if_neg (by simpa using h), length_bitmap]
  rfl

/-- A hello is read back with its versions in order, each once. -/
theorem read_write (versions : List Version) : read (write versions) = .ok (kept versions) := by
  by_cases hempty : versions = []
  · subst hempty
    simp [read, write, elements, kept]
  · have hle := wordCount_le versions
    have hlength := length_bitmap versions
    have helements := elements_single (show bitmapKind < 65536 by decide)
      (show 4 + (bitmap versions).length < 65536 by omega)
      (Write.zeros (padding (4 + (bitmap versions).length))) (Nat.le_of_eq (Write.length_zeros _))
    rw [read, write_of_ne_nil hempty, helements, ← bitmapVersions_eq_kept]
    simp [Element.versions]

end Hello

end Southbound
