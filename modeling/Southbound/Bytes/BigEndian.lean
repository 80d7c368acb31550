/-!
# Big-endian numbers

A byte string read as a number in base 256, most significant byte first, and the fixed-width
byte string that writes a number. The two undo each other up to the width:

* `toNat_ofNat`  `toNat (ofNat w n) = n % count w`
* `ofNat_toNat`  `ofNat bs.length (toNat bs) = bs`
-/

namespace Southbound

/-- A string of bytes, first byte first. -/
abbrev Bytes := List UInt8

namespace BigEndian

/-- The number whose base-256 digits are `bs`, most significant first. -/
def toNat (bs : Bytes) : Nat := bs.foldl (fun n b => 256 * n + b.toNat) 0

/-- The `width` least significant base-256 digits of `n`, most significant first. -/
def ofNat : (width : Nat) → (n : Nat) → Bytes
  | 0, _ => []
  | w + 1, n => ofNat w (n / 256) ++ [UInt8.ofNat n]

/-- How many byte strings of a width there are. -/
def count : (width : Nat) → Nat
  | 0 => 1
  | w + 1 => 256 * count w

/-- There is a byte string of every width. -/
private theorem count_pos (w : Nat) : 0 < count w := by
  induction w with
  | zero => decide
  | succ w ih =>
    rw [count]
    omega

@[simp] theorem toNat_nil : toNat [] = 0 := rfl

/-- The last byte is the least significant one. -/
@[simp] theorem toNat_concat (bs : Bytes) (b : UInt8) :
    toNat (bs ++ [b]) = 256 * toNat bs + b.toNat := by
  simp [toNat]

/-- A number takes up the width it is written with. -/
@[simp] theorem length_ofNat (w n : Nat) : (ofNat w n).length = w := by
  induction w generalizing n with
  | zero => rfl
  | succ w ih => simp [ofNat, ih]

/-- Writing keeps the low `w` digits. -/
theorem toNat_ofNat (w n : Nat) : toNat (ofNat w n) = n % count w := by
  induction w generalizing n with
  | zero => simp [ofNat, count, Nat.mod_one]
  | succ w ih =>
    have hb : (UInt8.ofNat n).toNat = n % 256 := UInt8.toNat_ofNat'
    rw [ofNat, toNat_concat, ih, hb, count, Nat.mod_mul, Nat.add_comm]

/-- A number that fits its width is read as it was written. -/
theorem toNat_ofNat_of_lt {w n : Nat} (h : n < count w) : toNat (ofNat w n) = n := by
  rw [toNat_ofNat, Nat.mod_eq_of_lt h]

/-- Every byte string is the writing of its number at its own width. -/
theorem ofNat_toNat (bs : Bytes) : ofNat bs.length (toNat bs) = bs := by
  induction h : bs.length generalizing bs with
  | zero => rw [List.length_eq_zero_iff] at h; subst h; rfl
  | succ w ih =>
    have hne : bs ≠ [] := by intro h0; simp [h0] at h
    obtain ⟨init, b, rfl⟩ : ∃ init b, bs = init ++ [b] :=
      ⟨bs.dropLast, bs.getLast hne, (List.dropLast_concat_getLast hne).symm⟩
    have hl : init.length = w := by simpa using h
    -- the last digit is the remainder by 256, and the digits before it are the quotient
    have hb : b.toNat < 256 := UInt8.toNat_lt b
    have hd : (256 * toNat init + b.toNat) / 256 = toNat init := by omega
    have hm : UInt8.ofNat (256 * toNat init + b.toNat) = b := by
      apply UInt8.toNat.inj
      rw [UInt8.toNat_ofNat']
      omega
    rw [toNat_concat, ofNat, hd, hm, ih init hl]

/-- A byte string is read as one of the numbers of its width. -/
theorem toNat_lt (bs : Bytes) : toNat bs < count bs.length := by
  have h := toNat_ofNat bs.length (toNat bs)
  rw [ofNat_toNat] at h
  rw [h]
  exact Nat.mod_lt _ (count_pos _)

end BigEndian

end Southbound
