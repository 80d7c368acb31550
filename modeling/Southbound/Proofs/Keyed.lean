import Southbound.Keyed

/-!
# Maps whose keys ascend

`put` and `erase` keep the keys of a map in strictly ascending order. In such a map every pair is
the one that `find?` answers for its key, so what is said of `find?` is said of the whole list:

* `mem_iff_find?`    `(k, v) ∈ m ↔ m.find? k = some v`
* `find?_putAll`     many keys put with one value
* `find?_eraseAll`   many keys erased
-/

namespace Southbound.Keyed

variable {κ α : Type} [DecidableEq κ]

/-- The keys ascend, so none occurs twice. -/
def Ordered [LT κ] (m : Keyed κ α) : Prop := m.Pairwise fun a b => a.1 < b.1

/-- What is found is an entry. -/
theorem mem_of_find? {k : κ} {v : α} {m : Keyed κ α} (h : m.find? k = some v) : (k, v) ∈ m := by
  obtain ⟨⟨j, w⟩, hj, rfl⟩ := Option.map_eq_some_iff.1 h
  have hk : j = k := by simpa using List.find?_some hj
  subst hk
  exact List.mem_of_find?_eq_some hj

/-- Every pair added by `put` is the new one or an old one. -/
theorem mem_put [LT κ] [DecidableLT κ] {k : κ} {v : α} {e : κ × α} {m : Keyed κ α}
    (h : e ∈ m.put k v) : e = (k, v) ∨ e ∈ m := by
  induction m with
  | nil => exact .inl (by simpa [put] using h)
  | cons p m ih =>
    obtain ⟨j, w⟩ := p
    -- the entry goes before the first greater key, takes the place of an equal one, or goes further
    -- back
    unfold put at h
    split at h
    · rcases List.mem_cons.1 h with rfl | h
      · exact .inl rfl
      · exact .inr (List.mem_cons_of_mem _ h)
    · split at h
      · exact List.mem_cons.1 h
      · rcases List.mem_cons.1 h with rfl | h
        · exact .inr List.mem_cons_self
        · exact (ih h).imp id (List.mem_cons_of_mem _)

/-- Erasing a key keeps the order of the others. -/
theorem ordered_erase [LT κ] {k : κ} {m : Keyed κ α} (h : m.Ordered) : (m.erase k).Ordered :=
  List.Pairwise.filter _ h

/-- A key is put where it belongs in the order. -/
theorem ordered_put [LT κ] [DecidableLT κ] [@Std.Trichotomous κ (· < ·)]
    [@Trans κ κ κ (· < ·) (· < ·) (· < ·)] (k : κ) (v : α) {m : Keyed κ α} (h : m.Ordered) :
    (m.put k v).Ordered := by
  induction m with
  | nil => exact List.pairwise_singleton _ _
  | cons p m ih =>
    obtain ⟨j, w⟩ := p
    obtain ⟨hj, hm⟩ := List.pairwise_cons.1 h
    unfold put
    split
    · next hjk =>
      subst hjk
      exact List.pairwise_cons.2 ⟨hj, hm⟩
    · next hjk =>
      split
      · next hlt =>
        refine List.pairwise_cons.2 ⟨?_, h⟩
        intro e he
        rcases List.mem_cons.1 he with rfl | he
        · exact hlt
        · exact Trans.trans hlt (hj e he)
      · next hlt =>
        -- the new key is neither `j` nor less, so it comes behind
        have hgt : j < k := Classical.byContradiction fun hn =>
          hjk (Std.Trichotomous.trichotomous j k hn hlt)
        refine List.pairwise_cons.2 ⟨?_, ih hm⟩
        intro e he
        rcases mem_put he with rfl | he
        · exact hgt
        · exact hj e he

/-- As keys do not repeat, every entry is found. -/
theorem mem_iff_find? [LT κ] [@Std.Asymm κ (· < ·)] {k : κ} {v : α} {m : Keyed κ α}
    (h : m.Ordered) : (k, v) ∈ m ↔ m.find? k = some v := by
  refine ⟨fun hm => ?_, mem_of_find?⟩
  induction m with
  | nil => cases hm
  | cons p m ih =>
    obtain ⟨hp, hrest⟩ := List.pairwise_cons.1 h
    rw [find?_cons]
    rcases List.mem_cons.1 hm with rfl | hm
    · exact if_pos rfl
    -- keys increase strictly, so a later entry has another key than the head
    · have hne : p.1 ≠ k := by
        intro heq
        have hlt : p.1 < k := hp _ hm
        rw [heq] at hlt
        exact Std.Asymm.asymm k k hlt hlt
      rw [if_neg hne]
      exact ih hrest hm

/-- The values are those that are found under some key. -/
theorem mem_values [LT κ] [@Std.Asymm κ (· < ·)] {v : α} {m : Keyed κ α} (h : m.Ordered) :
    v ∈ m.values ↔ ∃ k, m.find? k = some v := by
  simp only [values, List.mem_map, Prod.exists, exists_eq_right, mem_iff_find? h]

/-- One value put under many keys. -/
theorem find?_putAll [LT κ] [DecidableLT κ] (ks : List κ) (v : α) (j : κ) (m : Keyed κ α) :
    (ks.foldl (fun m k => m.put k v) m).find? j = if j ∈ ks then some v else m.find? j := by
  induction ks generalizing m with
  | nil => simp
  | cons k ks ih =>
    rw [List.foldl_cons, ih, find?_put]
    by_cases hk : j = k
    · simp [hk]
    · simp [hk]

/-- Keys that were erased one after the other have no value any longer. -/
theorem find?_eraseAll (ks : List κ) (j : κ) (m : Keyed κ α) :
    (ks.foldl (fun m k => m.erase k) m).find? j = if j ∈ ks then none else m.find? j := by
  induction ks generalizing m with
  | nil => simp
  | cons k ks ih =>
    rw [List.foldl_cons, ih, find?_erase]
    by_cases hk : j = k
    · simp [hk]
    · simp [hk]

/-- A key is there if something is found under it. -/
theorem has_iff {k : κ} {m : Keyed κ α} : m.has k = true ↔ ∃ v, m.find? k = some v :=
  Option.isSome_iff_exists

end Southbound.Keyed
