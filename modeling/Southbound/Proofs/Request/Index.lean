import Southbound.Proofs.Keyed
import Southbound.Request.Table

/-!
# The maps of a request table agree

A request table holds three maps: the open requests, the barriers and the further writes. They
describe one set of requests. `RequestTable.Indexed` says so. Opening a request (`Indexed.enroll`)
and taking one out (`Indexed.remove`) keep it, and with them every operation.

From it follows who owns a transaction id (`owner?_eq_some_iff`, `isUsed_iff`) and that the three
maps never share a key (`Indexed.barriers_none`, `Indexed.writes_none`).
-/

namespace Southbound

/-- The transaction ids that an open request occupies, its own first. -/
def OpenRequest.xids (e : OpenRequest) : List Xid := e.xid :: (e.barrier.toList ++ e.writes)

/-- The request that a claim opens. -/
def Claim.opened (c : Claim) (generation : Nat) : OpenRequest where
  ticket := c.ticket
  xid := c.xid
  completion := c.completion
  barrier := c.barrier
  writes := c.writes
  generation := generation

/-! ## Inverse maps -/

namespace Keyed

section Inverts

variable {κ ι α : Type} [DecidableEq κ] [DecidableEq ι] {m m' : Keyed ι κ}
  {entries entries' : Keyed κ α} {R : α → ι → Prop}

/-- `m` leads from everything that an entry has to the key of the entry. -/
def Inverts (m : Keyed ι κ) (entries : Keyed κ α) (R : α → ι → Prop) : Prop :=
  ∀ x k, m.find? x = some k ↔ ∃ e, entries.find? k = some e ∧ R e x

/-- A new entry has nothing that another one has. -/
theorem Inverts.put {k : κ} {e : α} [DecidablePred (R e)] (h : Inverts m entries R)
    (hm : ∀ x, m'.find? x = if R e x then some k else m.find? x)
    (hentries : ∀ j, entries'.find? j = if j = k then some e else entries.find? j)
    (hnew : entries.find? k = none)
    (hfresh : ∀ {j f x}, entries.find? j = some f → R f x → ¬ R e x) : Inverts m' entries' R := by
  intro x j
  rw [hm, hentries]
  -- an id of the new entry leads to it and to no other, because it was fresh
  by_cases hx : R e x
  · rw [if_pos hx]
    constructor
    · intro hk
      rw [← Option.some.inj hk, if_pos rfl]
      exact ⟨e, rfl, hx⟩
    · rintro ⟨f, hf, hfx⟩
      split at hf
      · next hj => rw [hj]
      · exact absurd hx (hfresh hf hfx)
  · rw [if_neg hx, h x j]
    by_cases hj : j = k
    · subst hj
      simp [hnew, hx]
    · rw [if_neg hj]

/-- What an entry that goes had, no other entry has. -/
theorem Inverts.erase {k : κ} {e : α} [DecidablePred (R e)] (h : Inverts m entries R)
    (hm : ∀ x, m'.find? x = if R e x then none else m.find? x)
    (hentries : ∀ j, entries'.find? j = if j = k then none else entries.find? j)
    (he : entries.find? k = some e)
    (hapart : ∀ {j f x}, entries.find? j = some f → R f x → R e x → j = k) :
    Inverts m' entries' R := by
  intro x j
  rw [hm, hentries]
  -- an id of the erased entry led there only
  by_cases hx : R e x
  · rw [if_pos hx]
    refine ⟨nofun, ?_⟩
    rintro ⟨f, hf, hfx⟩
    split at hf
    · cases hf
    · next hj => exact absurd (hapart hf hfx hx) hj
  · rw [if_neg hx, h x j]
    by_cases hj : j = k
    · subst hj
      simp [he, hx]
    · rw [if_neg hj]

/-- An entry makes room for one that has the same. -/
theorem Inverts.replace {k : κ} {e e' : α} (h : Inverts m entries R)
    (hentries : ∀ j, entries'.find? j = if j = k then some e' else entries.find? j)
    (he : entries.find? k = some e) (hsame : ∀ x, R e x ↔ R e' x) : Inverts m entries' R := by
  intro x j
  rw [h x j, hentries]
  by_cases hj : j = k
  · subst hj
    simp [he, hsame]
  · rw [if_neg hj]

end Inverts

end Keyed

namespace RequestTable

/-- The maps describe one set of requests, and no transaction id belongs to two of them or twice
to one. -/
structure Indexed (t : RequestTable) : Prop where
  ordered : t.entries.Ordered
  xid_eq : ∀ {k e}, t.entries.find? k = some e → e.xid = k
  nodup : ∀ {k e}, t.entries.find? k = some e → e.xids.Nodup
  apart : ∀ {k j e f x}, t.entries.find? k = some e → t.entries.find? j = some f →
    x ∈ e.xids → x ∈ f.xids → k = j
  barriers_iff : ∀ {b k}, t.barriers.find? b = some k ↔
    ∃ e, t.entries.find? k = some e ∧ e.barrier = some b
  writes_iff : ∀ {w k}, t.writes.find? w = some k ↔
    ∃ e, t.entries.find? k = some e ∧ w ∈ e.writes

variable {t : RequestTable}

/-- A new table is empty. -/
theorem indexed_new (d : DatapathId) (ageOut : Nat) :
    Indexed { datapath := d, ageOut } where
  ordered := List.Pairwise.nil
  xid_eq h := by simp at h
  nodup h := by simp at h
  apart h := by simp at h
  barriers_iff := by simp
  writes_iff := by simp

/-- Barriers lead to the requests that have them. -/
theorem Indexed.inverts_barriers (h : t.Indexed) :
    Keyed.Inverts t.barriers t.entries fun e b => e.barrier = some b :=
  fun _ _ => h.barriers_iff

/-- Further writes do, too. -/
theorem Indexed.inverts_writes (h : t.Indexed) :
    Keyed.Inverts t.writes t.entries fun e w => w ∈ e.writes :=
  fun _ _ => h.writes_iff

/-! ## Owners -/

/-- The ids of a request are its own, its barrier's and those of its writes. -/
theorem mem_xids {e : OpenRequest} {x : Xid} :
    x ∈ e.xids ↔ x = e.xid ∨ e.barrier = some x ∨ x ∈ e.writes := by
  simp [OpenRequest.xids]

/-- Its own id is one of them. -/
theorem mem_xids_self (e : OpenRequest) : e.xid ∈ e.xids := List.mem_cons_self

/-- The request under its own transaction id is the only one that occupies that id. -/
theorem Indexed.key_of_mem_xids (h : t.Indexed) {k x : Xid} {e f : OpenRequest}
    (he : t.entries.find? k = some e) (hf : t.entries.find? x = some f) (hx : x ∈ e.xids) :
    x = k :=
  h.apart hf he (by rw [← h.xid_eq hf]; exact mem_xids_self f) hx

/-- No barrier has the transaction id of an open request. -/
theorem Indexed.barriers_none (h : t.Indexed) {x : Xid} {e : OpenRequest}
    (he : t.entries.find? x = some e) : t.barriers.find? x = none := by
  cases hb : t.barriers.find? x with
  | none => rfl
  | some k =>
    obtain ⟨f, hf, hbar⟩ := h.barriers_iff.1 hb
    have hk : x = k := h.key_of_mem_xids hf he (mem_xids.2 (.inr (.inl hbar)))
    subst hk
    -- an id cannot be both the request's own and that of its barrier
    have hn := h.nodup hf
    rw [OpenRequest.xids, h.xid_eq hf, hbar] at hn
    simp at hn

/-- No further write has the transaction id of an open request. -/
theorem Indexed.writes_none (h : t.Indexed) {x : Xid} {e : OpenRequest}
    (he : t.entries.find? x = some e) : t.writes.find? x = none := by
  cases hw : t.writes.find? x with
  | none => rfl
  | some k =>
    obtain ⟨f, hf, hmem⟩ := h.writes_iff.1 hw
    have hk : x = k := h.key_of_mem_xids hf he (mem_xids.2 (.inr (.inr hmem)))
    subst hk
    -- nor can it be that of a further write
    have hn := h.nodup hf
    rw [OpenRequest.xids, h.xid_eq hf, List.nodup_cons] at hn
    exact absurd (List.mem_append_right _ hmem) hn.1

/-- The owner of a transaction id is the request that occupies it. -/
theorem Indexed.owner?_eq_some_iff (h : t.Indexed) {x k : Xid} :
    t.owner? x = some k ↔ ∃ e, t.entries.find? k = some e ∧ x ∈ e.xids := by
  constructor
  · intro hk
    unfold owner? at hk
    split at hk
    · next hx =>
      obtain ⟨e, he⟩ := Keyed.has_iff.1 hx
      obtain rfl : x = k := Option.some.inj hk
      exact ⟨e, he, by rw [← h.xid_eq he]; exact mem_xids_self e⟩
    · split at hk
      · next j hb =>
        obtain rfl : j = k := Option.some.inj hk
        obtain ⟨e, he, hbar⟩ := h.barriers_iff.1 hb
        exact ⟨e, he, mem_xids.2 (.inr (.inl hbar))⟩
      · obtain ⟨e, he, hw⟩ := h.writes_iff.1 hk
        exact ⟨e, he, mem_xids.2 (.inr (.inr hw))⟩
  · rintro ⟨e, he, hx⟩
    unfold owner?
    by_cases hown : t.entries.has x
    · obtain ⟨f, hf⟩ := Keyed.has_iff.1 hown
      rw [if_pos hown, h.key_of_mem_xids he hf hx]
    · rw [if_neg hown]
      -- past this point the id is not the own one of any request
      have hne : x ≠ e.xid := by
        intro heq
        exact hown (Keyed.has_iff.2 ⟨e, by rw [heq, h.xid_eq he]; exact he⟩)
      rcases mem_xids.1 hx with heq | hbar | hw
      · exact absurd heq hne
      · rw [h.barriers_iff.2 ⟨e, he, hbar⟩]
      · cases hb : t.barriers.find? x with
        | none => exact h.writes_iff.2 ⟨e, he, hw⟩
        | some j =>
          obtain ⟨f, hf, hfb⟩ := h.barriers_iff.1 hb
          -- the request of the barrier occupies the id as well, so it is this one
          rw [h.apart he hf hx (mem_xids.2 (.inr (.inl hfb)))]

/-- A transaction id is in use if an open request occupies it. -/
theorem Indexed.isUsed_iff (h : t.Indexed) {x : Xid} :
    t.isUsed x = true ↔ ∃ k e, t.entries.find? k = some e ∧ x ∈ e.xids := by
  have howner : t.isUsed x = true ↔ ∃ k, t.owner? x = some k := by
    unfold isUsed owner? Keyed.has
    cases t.entries.find? x <;> cases t.barriers.find? x <;> cases t.writes.find? x <;> simp
  rw [howner]
  exact exists_congr fun k => h.owner?_eq_some_iff

/-! ## Opening a request -/

/-- A claim is in conflict unless its ids are free and differ. -/
theorem conflict?_eq_none_iff {c : Claim} :
    t.conflict? c = none ↔ (∀ x ∈ c.xids, t.isUsed x = false) ∧ c.xids.Nodup := by
  unfold conflict?
  split
  · next x hx =>
    -- a used id is reported before a repeated one
    have hmem := List.mem_of_find?_eq_some hx
    have hused := List.find?_some hx
    constructor
    · intro h; cases h
    · intro h
      rw [h.1 x hmem] at hused
      cases hused
  · next hnone =>
    have hfree : ∀ x ∈ c.xids, t.isUsed x = false := by simpa using List.find?_eq_none.1 hnone
    by_cases hn : c.xids.Nodup
    · simpa [hn] using hfree
    · simp [hn]

theorem entries_enroll (c : Claim) :
    (t.enroll c).entries = t.entries.put c.xid (c.opened (t.generation + 1)) := rfl

/-- The barrier of a new request leads to it. -/
theorem find?_barriers_enroll (c : Claim) (b : Xid) :
    (t.enroll c).barriers.find? b = if c.barrier = some b then some c.xid
      else t.barriers.find? b := by
  show Keyed.find? b (c.barrier.toList.foldl (fun m b => m.put b c.xid) t.barriers) = _
  rw [Keyed.find?_putAll]
  simp only [Option.mem_toList]

/-- Its writes lead to it. -/
theorem find?_writes_enroll (c : Claim) (w : Xid) :
    (t.enroll c).writes.find? w = if w ∈ c.writes then some c.xid else t.writes.find? w :=
  Keyed.find?_putAll c.writes c.xid w t.writes

/-- The ids of a claim that conflicts with nothing are new to the table. -/
theorem Indexed.fresh_of_conflict? (h : t.Indexed) {c : Claim} (hc : t.conflict? c = none)
    {k x : Xid} {e : OpenRequest} (he : t.entries.find? k = some e) (hx : x ∈ e.xids) :
    x ∉ c.xids := by
  intro hmem
  have hfree := (conflict?_eq_none_iff.1 hc).1 x hmem
  rw [h.isUsed_iff.2 ⟨k, e, he, hx⟩] at hfree
  cases hfree

/-- Where a claim is in no conflict there is no request. -/
theorem Indexed.find?_of_conflict? (h : t.Indexed) {c : Claim} (hc : t.conflict? c = none) :
    t.entries.find? c.xid = none := by
  cases he : t.entries.find? c.xid with
  | none => rfl
  | some e =>
    refine absurd List.mem_cons_self (h.fresh_of_conflict? hc he (x := c.xid) ?_)
    rw [← h.xid_eq he]
    exact mem_xids_self e

/-- Entering a request keeps the maps in agreement. -/
theorem Indexed.enroll (h : t.Indexed) {c : Claim} (hc : t.conflict? c = none) :
    (t.enroll c).Indexed := by
  have hnew := h.find?_of_conflict? hc
  have hfind (k : Xid) : (t.enroll c).entries.find? k =
      if k = c.xid then some (c.opened (t.generation + 1)) else t.entries.find? k := by
    rw [entries_enroll, Keyed.find?_put]
  -- two requests share no id, since the ids of the claim are new to those there were
  refine ⟨Keyed.ordered_put _ _ h.ordered, ?_, ?_, ?_, ?_, ?_⟩
  · intro k e he
    rw [hfind] at he
    split at he
    · next hk => rw [← Option.some.inj he, hk]; rfl
    · exact h.xid_eq he
  · intro k e he
    rw [hfind] at he
    split at he
    · rw [← Option.some.inj he]
      exact (conflict?_eq_none_iff.1 hc).2
    · exact h.nodup he
  · intro k j e f x he hf hxe hxf
    rw [hfind] at he hf
    split at he <;> split at hf
    · next hk hj => rw [hk, hj]
    · rw [← Option.some.inj he] at hxe
      exact absurd hxe (h.fresh_of_conflict? hc hf hxf)
    · rw [← Option.some.inj hf] at hxf
      exact absurd hxf (h.fresh_of_conflict? hc he hxe)
    · exact h.apart he hf hxe hxf
  · intro b k
    refine h.inverts_barriers.put (find?_barriers_enroll c) hfind hnew (fun he hbar hb => ?_) b k
    refine h.fresh_of_conflict? hc he (mem_xids.2 (.inr (.inl hbar))) ?_
    exact mem_xids.2 (.inr (.inl hb))
  · intro w k
    refine h.inverts_writes.put (find?_writes_enroll c) hfind hnew (fun he hmem hw => ?_) w k
    refine h.fresh_of_conflict? hc he (mem_xids.2 (.inr (.inr hmem))) ?_
    exact mem_xids.2 (.inr (.inr hw))

/-! ## Taking a request out -/

/-- A request leaves all three maps. -/
theorem remove_of_find? {x : Xid} {e : OpenRequest} (he : t.entries.find? x = some e) :
    t.remove x = ({ t with
      entries := t.entries.erase x
      barriers := e.barrier.toList.foldl (fun m b => m.erase b) t.barriers
      writes := e.writes.foldl (fun m w => m.erase w) t.writes }, some e) := by
  simp only [remove, he]

/-- What is removed is what was there. -/
@[simp] theorem remove_snd (x : Xid) : (t.remove x).2 = t.entries.find? x := by
  unfold remove
  split
  · next h => exact h.symm
  · next e h => exact h.symm

/-- Nothing is left under its id. -/
theorem find?_entries_remove (x k : Xid) :
    (t.remove x).1.entries.find? k = if k = x then none else t.entries.find? k := by
  unfold remove
  split
  · next h =>
    split
    · next hk => rw [hk]; exact h
    · rfl
  · exact Keyed.find?_erase x k t.entries

/-- What is there after a removal was there before, under another id. -/
theorem find?_remove_eq_some {x k : Xid} {e : OpenRequest} :
    (t.remove x).1.entries.find? k = some e ↔ k ≠ x ∧ t.entries.find? k = some e := by
  rw [find?_entries_remove]
  split
  · next hk => simp [hk]
  · next hk => simp [hk]

@[simp] theorem generation_remove (x : Xid) : (t.remove x).1.generation = t.generation := by
  unfold remove; split <;> rfl

@[simp] theorem deadlines_remove (x : Xid) : (t.remove x).1.deadlines = t.deadlines := by
  unfold remove; split <;> rfl

@[simp] theorem ageOut_remove (x : Xid) : (t.remove x).1.ageOut = t.ageOut := by
  unfold remove; split <;> rfl

@[simp] theorem datapath_remove (x : Xid) : (t.remove x).1.datapath = t.datapath := by
  unfold remove; split <;> rfl

/-- Taking a request out keeps the maps in agreement. -/
theorem Indexed.remove (h : t.Indexed) (x : Xid) : (t.remove x).1.Indexed := by
  cases he : t.entries.find? x with
  | none =>
    have heq : t.remove x = (t, none) := by simp only [RequestTable.remove, he]
    rw [heq]
    exact h
  | some e =>
    have hfind := find?_entries_remove (t := t) x
    -- what is left are the other requests, and none of them shares an id with `e`
    have hleft {k : Xid} {f : OpenRequest} (hf : (t.remove x).1.entries.find? k = some f) :
        t.entries.find? k = some f := (find?_remove_eq_some.1 hf).2
    refine ⟨?_, fun hf => h.xid_eq (hleft hf), fun hf => h.nodup (hleft hf),
      fun hf hg => h.apart (hleft hf) (hleft hg), ?_, ?_⟩
    · rw [remove_of_find? he]
      exact Keyed.ordered_erase h.ordered
    · intro b k
      refine h.inverts_barriers.erase (e := e) (fun _ => ?_) hfind he (fun hf hfb hb => ?_) b k
      · rw [remove_of_find? he]
        simp only [Keyed.find?_eraseAll, Option.mem_toList]
      · exact h.apart hf he (mem_xids.2 (.inr (.inl hfb))) (mem_xids.2 (.inr (.inl hb)))
    · intro w k
      refine h.inverts_writes.erase (e := e) (fun _ => ?_) hfind he (fun hf hfw hw => ?_) w k
      · rw [remove_of_find? he]
        simp only [Keyed.find?_eraseAll]
      · exact h.apart hf he (mem_xids.2 (.inr (.inr hfw))) (mem_xids.2 (.inr (.inr hw)))

end RequestTable

end Southbound
