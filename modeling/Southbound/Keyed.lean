/-!
# Finite maps as lists in key order

A map is a list of pairs. `put` places a new key before the first greater one, so a map built by
`put` and `erase` alone lists its keys in ascending order, which is the order every answer shows.
What `find?` answers after each operation holds of every list of pairs, ordered or not:

* `find?_put`    `(m.put k v).find? j = if j = k then some v else m.find? j`
* `find?_erase`  `(m.erase k).find? j = if j = k then none else m.find? j`
-/

namespace Southbound

/-- A finite map from `κ` to `α`. -/
abbrev Keyed (κ α : Type) := List (κ × α)

namespace Keyed

variable {κ α : Type} [DecidableEq κ]

/-- The value stored under `k`. -/
def find? (k : κ) (m : Keyed κ α) : Option α := (List.find? (fun e => e.1 = k) m).map (·.2)

/-- Is there a value under `k`? -/
def has (k : κ) (m : Keyed κ α) : Bool := (m.find? k).isSome

/-- The map without `k`. -/
def erase (k : κ) (m : Keyed κ α) : Keyed κ α := m.filter (fun e => e.1 ≠ k)

/-- The map with `v` under `k`, in place of what was there. -/
def put [LT κ] [DecidableLT κ] (k : κ) (v : α) : Keyed κ α → Keyed κ α
  | [] => [(k, v)]
  | (j, w) :: m =>
    if j = k then (k, v) :: m
    -- all keys behind `j` are greater still
    else if k < j then (k, v) :: (j, w) :: m
    else (j, w) :: put k v m

/-- The map with `f` applied to the value under `k`, if there is one. -/
def adjust (k : κ) (f : α → α) (m : Keyed κ α) : Keyed κ α :=
  m.map fun e => if e.1 = k then (e.1, f e.2) else e

/-- The keys in the order of the map. -/
def keys (m : Keyed κ α) : List κ := m.map (·.1)

/-- The values in the order of their keys. -/
def values (m : Keyed κ α) : List α := m.map (·.2)

@[simp] theorem find?_nil (k : κ) : find? k ([] : Keyed κ α) = none := rfl

/-- The entry at the head is looked at first. -/
theorem find?_cons (j : κ) (e : κ × α) (m : Keyed κ α) :
    find? j (e :: m) = if e.1 = j then some e.2 else find? j m := by
  by_cases h : e.1 = j <;> simp [find?, h]

/-- A key that was put has its value, and the others have theirs. -/
theorem find?_put [LT κ] [DecidableLT κ] (k j : κ) (v : α) (m : Keyed κ α) :
    find? j (m.put k v) = if j = k then some v else find? j m := by
  induction m with
  | nil => simp [put, find?_cons, eq_comm]
  | cons e m ih =>
    obtain ⟨i, w⟩ := e
    -- put in front of a greater key, in the place of an equal one, or further back
    unfold put
    split
    · subst i
      simp only [find?_cons, eq_comm (a := k)]
      split <;> rfl
    · split
      · simp only [find?_cons, eq_comm (a := k)]
      · simp only [find?_cons, ih]
        grind

/-- A key that was erased has no value, and the others have theirs. -/
theorem find?_erase (k j : κ) (m : Keyed κ α) :
    find? j (m.erase k) = if j = k then none else find? j m := by
  induction m with
  | nil => simp [erase]
  | cons e m ih =>
    rw [erase] at ih
    by_cases h : e.1 = k
    · rw [erase, List.filter_cons_of_neg (by simpa using h), ih, find?_cons, h]
      by_cases hj : j = k
      · simp [hj]
      · simp [hj, Ne.symm hj]
    · rw [erase, List.filter_cons_of_pos (by simpa using h), find?_cons, find?_cons, ih]
      by_cases hj : e.1 = j
      · simp [hj, show j ≠ k from hj ▸ h]
      · simp [hj]

/-- Adjusting a key changes its value, if it has one, and no other. -/
theorem find?_adjust (k j : κ) (f : α → α) (m : Keyed κ α) :
    find? j (m.adjust k f) = if j = k then (find? j m).map f else find? j m := by
  induction m with
  | nil => simp [adjust]
  | cons e m ih =>
    rw [adjust] at ih
    rw [adjust, List.map_cons, find?_cons, find?_cons, ih]
    by_cases h : e.1 = k <;> by_cases hj : e.1 = j <;> simp [h, hj] <;> grind

end Keyed

end Southbound
