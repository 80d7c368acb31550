import Mathlib.Data.List.Basic
import Southbound.Proofs.Request.Settlement

/-!
# Deadlines

A table lists the deadlines of its requests in the order in which they pass, with those of requests
that have ended left in between. `RequestTable.Scheduled` says what the list still holds: every open
request has its deadline under its generation, and no generation is used twice. Therefore looking at
the front of the list finds exactly the open requests that are due:

* `find?_prune`  an open request stays unless its deadline is at or before `now`
* `prune_snd`    the requests taken out are those of the deadlines that have passed, in order
-/

namespace Southbound

/-! ## The order of deadlines -/

namespace Deadline

/-- Deadlines are ordered by time, and then by generation. -/
theorem precedes_iff {a b : Deadline} :
    a.precedes b = true ↔ a.time < b.time ∨ (a.time = b.time ∧ a.generation < b.generation) := by
  simp [precedes]

/-- That is an order. -/
private theorem precedes_trans {a b c : Deadline} (hab : a.precedes b = true)
    (hbc : b.precedes c = true) :
    a.precedes c = true := by
  rw [precedes_iff] at *
  omega

/-- Of two deadlines one comes first. -/
private theorem precedes_of_not {a b : Deadline} (hne : a.generation ≠ b.generation)
    (h : ¬ a.precedes b = true) : b.precedes a = true := by
  rw [precedes_iff] at *
  omega

/-- Which comes first is not later. -/
private theorem time_le {a b : Deadline} (h : a.precedes b = true) : a.time ≤ b.time := by
  rw [precedes_iff] at h
  omega

end Deadline

namespace RequestTable

variable {t : RequestTable}

/-- A deadline is inserted, and none is lost. -/
theorem insertDeadline_perm (d : Deadline) (ds : List Deadline) :
    (insertDeadline d ds).Perm (d :: ds) := by
  induction ds with
  | nil => exact .refl _
  | cons e ds ih =>
    unfold insertDeadline
    split
    · exact .refl _
    · exact (ih.cons e).trans (.swap d e ds)

/-- So the new one is there, and the others still are. -/
theorem mem_insertDeadline {d e : Deadline} {ds : List Deadline} :
    e ∈ insertDeadline d ds ↔ e = d ∨ e ∈ ds := by
  rw [(insertDeadline_perm d ds).mem_iff, List.mem_cons]

/-- It is inserted where it belongs. -/
private theorem sorted_insertDeadline {d : Deadline} {ds : List Deadline}
    (hs : ds.Pairwise fun a b => a.precedes b = true)
    (hd : ∀ e ∈ ds, e.generation ≠ d.generation) :
    (insertDeadline d ds).Pairwise fun a b => a.precedes b = true := by
  induction ds with
  | nil => exact List.pairwise_singleton _ _
  | cons e ds ih =>
    obtain ⟨he, hds⟩ := List.pairwise_cons.1 hs
    unfold insertDeadline
    split
    · next hlt =>
      refine List.pairwise_cons.2 ⟨?_, hs⟩
      intro f hf
      rcases List.mem_cons.1 hf with rfl | hf
      · exact hlt
      · exact Deadline.precedes_trans hlt (he f hf)
    · next hlt =>
      -- of two deadlines with different generations one precedes the other
      have hed := Deadline.precedes_of_not (hd e List.mem_cons_self).symm hlt
      refine List.pairwise_cons.2 ⟨?_, ih hds fun f hf => hd f (List.mem_cons_of_mem _ hf)⟩
      intro f hf
      rcases mem_insertDeadline.1 hf with rfl | hf
      · exact hed
      · exact he f hf

/-! ## What the list of deadlines holds -/

structure Scheduled (t : RequestTable) : Prop where
  sorted : t.deadlines.Pairwise fun a b => a.precedes b = true
  unique : t.deadlines.Pairwise fun a b => a.generation ≠ b.generation
  deadline_le : ∀ {d}, d ∈ t.deadlines → d.generation ≤ t.generation
  entry_le : ∀ {k e}, t.entries.find? k = some e → e.generation ≤ t.generation
  distinct : ∀ {k j e f}, t.entries.find? k = some e → t.entries.find? j = some f →
    e.generation = f.generation → k = j
  due : ∀ {k e}, t.entries.find? k = some e →
    ∃ d ∈ t.deadlines, d.generation = e.generation ∧ d.xid = k

/-- At first there is nothing to wait for. -/
theorem scheduled_new (d : DatapathId) (ageOut : Nat) :
    Scheduled { datapath := d, ageOut } where
  sorted := List.Pairwise.nil
  unique := List.Pairwise.nil
  deadline_le h := nomatch h
  entry_le h := by simp at h
  distinct h := by simp at h
  due h := by simp at h

/-- Fewer requests and fewer deadlines, as long as every request that is left keeps its own. -/
theorem Scheduled.shrink (h : t.Scheduled) {t' : RequestTable}
    (hgen : t'.generation = t.generation) (hsub : t'.deadlines.Sublist t.deadlines)
    (hfind : ∀ {k e}, t'.entries.find? k = some e →
      ∃ f, t.entries.find? k = some f ∧ f.generation = e.generation)
    (hdue : ∀ {k e d}, t'.entries.find? k = some e → d ∈ t.deadlines →
      d.generation = e.generation → d.xid = k → d ∈ t'.deadlines) : t'.Scheduled where
  sorted := h.sorted.sublist hsub
  unique := h.unique.sublist hsub
  deadline_le hd := hgen ▸ h.deadline_le (hsub.subset hd)
  entry_le he := by
    -- every entry that is left was there before, under the same generation
    obtain ⟨f, hf, hg⟩ := hfind he
    rw [hgen, ← hg]
    exact h.entry_le hf
  distinct he hf heq := by
    obtain ⟨e', he', hge⟩ := hfind he
    obtain ⟨f', hf', hgf⟩ := hfind hf
    exact h.distinct he' hf' (by rw [hge, heq, hgf])
  due he := by
    obtain ⟨f, hf, hg⟩ := hfind he
    obtain ⟨d, hd, hdg, hdx⟩ := h.due hf
    exact ⟨d, hdue he hd (hdg.trans hg) hdx, hdg.trans hg, hdx⟩

/-- The deadline of a request that is removed stays in the list. -/
theorem Scheduled.remove (h : t.Scheduled) (x : Xid) : (t.remove x).1.Scheduled := by
  refine h.shrink (generation_remove x) (deadlines_remove (t := t) x ▸ .refl _) ?_ ?_
  · intro k e he
    exact ⟨e, (find?_remove_eq_some.1 he).2, rfl⟩
  · intro k e d _ hd _ _
    rw [deadlines_remove]
    exact hd

/-- A fragment does not put a deadline off. -/
theorem Scheduled.withFragment (h : t.Scheduled) {x : Xid} {e : OpenRequest}
    (he : t.entries.find? x = some e) (r : MultipartReply) :
    Scheduled { t with entries := t.entries.put x (withFragment e r) } := by
  refine h.shrink rfl (List.Sublist.refl _) ?_ fun _ hd _ _ => hd
  intro k f hf
  rw [Keyed.find?_put] at hf
  split at hf
  · next hk => exact ⟨e, hk ▸ he, by rw [← Option.some.inj hf]; rfl⟩
  · exact ⟨f, hf, rfl⟩

/-- A new request has its deadline under the next generation. -/
theorem Scheduled.enroll (h : t.Scheduled) (c : Claim) : (t.enroll c).Scheduled := by
  -- the new generation is past all others
  have hnew {d : Deadline} (hd : d ∈ t.deadlines) : d.generation ≠ t.generation + 1 := by
    have := h.deadline_le hd
    omega
  have hfind {k : Xid} {e : OpenRequest} (he : (t.enroll c).entries.find? k = some e) :
      (k = c.xid ∧ e = c.opened (t.generation + 1)) ∨ t.entries.find? k = some e := by
    rw [entries_enroll, Keyed.find?_put] at he
    split at he
    · next hk => exact .inl ⟨hk, (Option.some.inj he).symm⟩
    · exact .inr he
  refine ⟨sorted_insertDeadline h.sorted fun d hd => hnew hd, ?_, ?_, ?_, ?_, ?_⟩
  · refine (insertDeadline_perm _ _).symm.pairwise ?_ fun hab => hab.symm
    exact List.pairwise_cons.2 ⟨fun d hd => (hnew hd).symm, h.unique⟩
  · intro d hd
    rcases mem_insertDeadline.1 hd with rfl | hd
    · exact Nat.le_refl _
    · exact Nat.le_succ_of_le (h.deadline_le hd)
  · intro k e he
    rcases hfind he with ⟨-, rfl⟩ | he
    · exact Nat.le_refl _
    · exact Nat.le_succ_of_le (h.entry_le he)
  · intro k j e f he hf heq
    -- the new request has a generation that none of the others has
    rcases hfind he with ⟨rfl, rfl⟩ | he <;> rcases hfind hf with ⟨rfl, rfl⟩ | hf
    · rfl
    · have := h.entry_le hf
      simp only [Claim.opened] at heq
      omega
    · have := h.entry_le he
      simp only [Claim.opened] at heq
      omega
    · exact h.distinct he hf heq
  · intro k e he
    rcases hfind he with ⟨rfl, rfl⟩ | he
    · exact ⟨_, mem_insertDeadline.2 (.inl rfl), rfl, rfl⟩
    · obtain ⟨d, hd, hg, hx⟩ := h.due he
      exact ⟨d, mem_insertDeadline.2 (.inr hd), hg, hx⟩

/-- A cleared table waits for nothing. -/
theorem scheduled_clear (t : RequestTable) : t.clear.1.Scheduled where
  sorted := List.Pairwise.nil
  unique := List.Pairwise.nil
  deadline_le h := nomatch h
  entry_le h := by simp [RequestTable.clear] at h
  distinct h := by simp [RequestTable.clear] at h
  due h := by simp [RequestTable.clear] at h

/-- It has no requests. -/
theorem indexed_clear (t : RequestTable) : t.clear.1.Indexed where
  ordered := List.Pairwise.nil
  xid_eq h := by simp [RequestTable.clear] at h
  nodup h := by simp [RequestTable.clear] at h
  apart h := by simp [RequestTable.clear] at h
  barriers_iff := by simp [RequestTable.clear]
  writes_iff := by simp [RequestTable.clear]

/-! ## Giving up what is due -/

/-- The request of a deadline, if it is still open. -/
def live? (t : RequestTable) (d : Deadline) : Option OpenRequest :=
  (t.entries.find? d.xid).filter fun e => e.generation = d.generation

/-- A deadline is that of a request with its id and its generation. -/
theorem live?_eq_some_iff {d : Deadline} {e : OpenRequest} :
    t.live? d = some e ↔ t.entries.find? d.xid = some e ∧ e.generation = d.generation := by
  simp [live?, Option.filter_eq_some_iff]

/-- Expiry takes out the live request of a deadline and nothing else. -/
theorem expire_eq (d : Deadline) :
    t.expire d = match t.live? d with
      | some e => ((t.remove d.xid).1, some e)
      | none => (t, none) := by
  unfold expire live?
  cases he : t.entries.find? d.xid with
  | none => rfl
  | some e =>
    by_cases hg : e.generation = d.generation
    · simp only [if_pos hg, Option.filter, decide_eq_true hg, ↓reduceIte]
      rw [← he, ← remove_snd]
    · simp only [if_neg hg, Option.filter, decide_eq_false hg, Bool.false_eq_true, ↓reduceIte]

/-- A deadline takes its own request out, and no other. -/
private theorem find?_expire {d : Deadline} {k : Xid} {e : OpenRequest} :
    (t.expire d).1.entries.find? k = some e ↔
      t.entries.find? k = some e ∧ (d.xid = k → d.generation ≠ e.generation) := by
  rw [expire_eq]
  cases hl : t.live? d with
  | none =>
    refine ⟨fun he => ⟨he, ?_⟩, fun h => h.1⟩
    rintro rfl hg
    -- a request with the generation of the deadline would be live
    rw [live?_eq_some_iff.2 ⟨he, hg.symm⟩] at hl
    cases hl
  | some f =>
    obtain ⟨hf, hfg⟩ := live?_eq_some_iff.1 hl
    rw [find?_entries_remove]
    constructor
    · intro he
      split at he
      · cases he
      · next hk => exact ⟨he, fun hdk => absurd hdk.symm hk⟩
    · rintro ⟨he, hne⟩
      by_cases hk : k = d.xid
      · subst hk
        obtain rfl : f = e := Option.some.inj (hf.symm.trans he)
        exact absurd hfg.symm (hne rfl)
      · rw [if_neg hk]
        exact he

@[simp] theorem deadlines_expire (d : Deadline) : (t.expire d).1.deadlines = t.deadlines := by
  rw [expire_eq]; split <;> simp

@[simp] theorem generation_expire (d : Deadline) : (t.expire d).1.generation = t.generation := by
  rw [expire_eq]; split <;> simp

@[simp] theorem ageOut_expire (d : Deadline) : (t.expire d).1.ageOut = t.ageOut := by
  rw [expire_eq]; split <;> simp

@[simp] theorem datapath_expire (d : Deadline) : (t.expire d).1.datapath = t.datapath := by
  rw [expire_eq]; split <;> simp

/-- That keeps the maps in agreement. -/
private theorem Indexed.expire (h : t.Indexed) (d : Deadline) : (t.expire d).1.Indexed := by
  rw [expire_eq]
  split
  · exact h.remove _
  · exact h

/-- By induction, several deadlines do. -/
private theorem Indexed.expireAll (h : t.Indexed) (ds : List Deadline) :
    (t.expireAll ds).1.Indexed := by
  induction ds generalizing t with
  | nil => exact h
  | cons d ds ih => exact ih (h.expire d)

/-- What is left is what none of them is for. -/
private theorem find?_expireAll {ds : List Deadline} {k : Xid} {e : OpenRequest} :
    (t.expireAll ds).1.entries.find? k = some e ↔
      t.entries.find? k = some e ∧ ∀ d ∈ ds, d.xid = k → d.generation ≠ e.generation := by
  induction ds generalizing t with
  | nil => simp [RequestTable.expireAll]
  | cons d ds ih =>
    show ((t.expire d).1.expireAll ds).1.entries.find? k = some e ↔ _
    rw [ih, find?_expire, List.forall_mem_cons, and_assoc]

/-- Deadlines of different generations do not get in each other's way, so the requests taken out
are those that are live at the start. -/
theorem expireAll_snd {ds : List Deadline}
    (hd : ds.Pairwise fun a b => a.generation ≠ b.generation) :
    (t.expireAll ds).2 = ds.filterMap t.live? := by
  induction ds generalizing t with
  | nil => rfl
  | cons d ds ih =>
    obtain ⟨hne, hds⟩ := List.pairwise_cons.1 hd
    -- taking out the request of `d` leaves those of other generations live
    have hlive (f : Deadline) (hf : f ∈ ds) : (t.expire d).1.live? f = t.live? f := by
      apply Option.ext
      intro e
      rw [live?_eq_some_iff, live?_eq_some_iff, find?_expire]
      refine ⟨fun h => ⟨h.1.1, h.2⟩, fun h => ⟨⟨h.1, fun _ => ?_⟩, h.2⟩⟩
      rw [h.2]
      exact hne f hf
    have hhead : (t.expire d).2 = t.live? d := by
      rw [expire_eq]
      split
      · next e he => exact he.symm
      · next hnone => exact hnone.symm
    show (t.expire d).2.toList ++ ((t.expire d).1.expireAll ds).2 = _
    rw [ih hds, hhead, List.filterMap_congr hlive, List.filterMap_cons]
    cases t.live? d <;> rfl

section Prune

variable (t) (now : Nat)

/-- The deadlines that have passed. -/
def passed : List Deadline := t.deadlines.takeWhile fun d => d.time ≤ now

/-- The deadlines still to come. -/
def coming : List Deadline := t.deadlines.dropWhile fun d => d.time ≤ now

/-- Pruning goes through the deadlines that have passed. -/
private theorem prune_eq :
    t.prune now = expireAll { t with deadlines := t.coming now } (t.passed now) := by
  have hdrop : t.deadlines.drop (t.passed now).length = t.coming now := by
    have happ : t.passed now ++ t.coming now = t.deadlines := List.takeWhile_append_dropWhile
    rw [← happ, List.drop_left]
  rw [prune, ← hdrop]
  rfl

end Prune

/-- The list is in order, so the deadlines in front are all those that have passed. -/
theorem Scheduled.mem_passed (h : t.Scheduled) {now : Nat} {d : Deadline} :
    d ∈ t.passed now ↔ d ∈ t.deadlines ∧ d.time ≤ now := by
  -- by induction on any list in order, as the rest of one is in order too
  have hmem : ∀ ds : List Deadline, ds.Pairwise (fun a b => a.precedes b = true) →
      (d ∈ ds.takeWhile (fun d => d.time ≤ now) ↔ d ∈ ds ∧ d.time ≤ now) := by
    intro ds hs
    induction ds with
    | nil => simp
    | cons e ds ih =>
      obtain ⟨he, hds⟩ := List.pairwise_cons.1 hs
      by_cases hle : e.time ≤ now
      · rw [List.takeWhile_cons_of_pos (by simpa using hle), List.mem_cons, List.mem_cons, ih hds]
        constructor
        · rintro (rfl | h)
          · exact ⟨.inl rfl, hle⟩
          · exact ⟨.inr h.1, h.2⟩
        · rintro ⟨rfl | h, hd⟩
          · exact .inl rfl
          · exact .inr ⟨h, hd⟩
      · rw [List.takeWhile_cons_of_neg (by simpa using hle)]
        refine ⟨nofun, ?_⟩
        rintro ⟨hd, htime⟩
        -- everything behind `e` is at least as late
        rcases List.mem_cons.1 hd with rfl | hd
        · exact absurd htime hle
        · have := Deadline.time_le (he d hd)
          omega
  exact hmem t.deadlines h.sorted

/-- A deadline in the future is still to come, as the list is sorted. -/
private theorem Scheduled.mem_coming (h : t.Scheduled) {now : Nat} {d : Deadline}
    (hd : d ∈ t.deadlines) (htime : now < d.time) : d ∈ t.coming now := by
  have happ : t.passed now ++ t.coming now = t.deadlines := List.takeWhile_append_dropWhile
  rw [← happ] at hd
  rcases List.mem_append.1 hd with hp | hc
  · have := (h.mem_passed.1 hp).2
    omega
  · exact hc

/-- A request stays open unless its deadline has passed. -/
theorem Scheduled.find?_prune (h : t.Scheduled) {now : Nat} {k : Xid} {e : OpenRequest} :
    (t.prune now).1.entries.find? k = some e ↔ t.entries.find? k = some e ∧
      ∀ d ∈ t.deadlines, d.xid = k → d.generation = e.generation → now < d.time := by
  rw [prune_eq, find?_expireAll]
  refine and_congr_right fun _ => ?_
  constructor
  · intro hall d hd hx hg
    refine Nat.lt_of_not_le fun hle => ?_
    exact hall d (h.mem_passed.2 ⟨hd, hle⟩) hx hg
  · intro hall d hd hx hg
    obtain ⟨hmem, hle⟩ := h.mem_passed.1 hd
    have := hall d hmem hx hg
    omega

/-- The requests given up are those of the deadlines that have passed, in their order. -/
theorem Scheduled.prune_snd (h : t.Scheduled) (now : Nat) :
    (t.prune now).2 = (t.passed now).filterMap t.live? := by
  have hd : (t.passed now).Pairwise fun a b => a.generation ≠ b.generation :=
    h.unique.sublist (List.takeWhile_sublist _)
  rw [prune_eq, expireAll_snd hd]
  rfl

/-- So pruning keeps the maps in agreement. -/
theorem Indexed.prune (h : t.Indexed) (now : Nat) : (t.prune now).1.Indexed := by
  rw [prune_eq]
  have hi : Indexed { t with deadlines := t.coming now } :=
    ⟨h.ordered, h.xid_eq, h.nodup, h.apart, h.barriers_iff, h.writes_iff⟩
  exact hi.expireAll _

/-- Deadlines change nothing but the open requests. -/
private theorem expireAll_fields (ds : List Deadline) :
    (t.expireAll ds).1.generation = t.generation ∧ (t.expireAll ds).1.deadlines = t.deadlines ∧
      (t.expireAll ds).1.datapath = t.datapath ∧ (t.expireAll ds).1.ageOut = t.ageOut := by
  induction ds generalizing t with
  | nil => exact ⟨rfl, rfl, rfl, rfl⟩
  | cons d ds ih =>
    have := ih (t := (t.expire d).1)
    rwa [generation_expire, deadlines_expire, datapath_expire, ageOut_expire] at this

@[simp] theorem generation_prune (now : Nat) : (t.prune now).1.generation = t.generation := by
  rw [prune_eq]
  exact (expireAll_fields _).1

/-- Those that have passed are not looked at again. -/
theorem deadlines_prune (now : Nat) : (t.prune now).1.deadlines = t.coming now := by
  rw [prune_eq]
  exact (expireAll_fields _).2.1

@[simp] theorem datapath_prune (now : Nat) : (t.prune now).1.datapath = t.datapath := by
  rw [prune_eq]
  exact (expireAll_fields _).2.2.1

@[simp] theorem ageOut_prune (now : Nat) : (t.prune now).1.ageOut = t.ageOut := by
  rw [prune_eq]
  exact (expireAll_fields _).2.2.2

/-- Whoever is left has its deadline still to come. -/
theorem Scheduled.prune (h : t.Scheduled) (now : Nat) : (t.prune now).1.Scheduled := by
  refine h.shrink (generation_prune now) ?_ ?_ ?_
  · rw [deadlines_prune]
    exact List.dropWhile_sublist _
  · intro k e he
    exact ⟨e, (h.find?_prune.1 he).1, rfl⟩
  · intro k e d he hd hg hx
    rw [deadlines_prune]
    exact h.mem_coming hd ((h.find?_prune.1 he).2 d hd hx hg)

end RequestTable

end Southbound
