import Southbound.Proofs.Request.Operation

/-!
# The table stands for one set of requests

What the parts of a request table say of each other, whatever was done to it. `Tracker.Consistent`
gathers it: every open request stands under its own transaction id, the barriers and the further
writes lead to exactly the requests that have them, no id has two uses, and of the deadlines exactly
one is that of the request. `represents_run` says that every run keeps it, that a generation number
is never used again, and when a request gets into the table.

Requests are registered under the ids and times that the ledger has of them (`Operation.Fits`).
-/

namespace Southbound

/-! ## What is fixed about a request -/

namespace Ledger

variable {l : Ledger} {t u : Ticket} {x : Xid} {created : Nat}

/-- The request of the ticket has this transaction id and was made at this time. -/
def Knows (l : Ledger) (u : Ticket) (x : Xid) (created : Nat) : Prop :=
  ∃ r, l.get? u = some r ∧ r.xid = x ∧ r.created = created

/-- An outcome changes neither. -/
theorem knows_settle (o : Outcome) : (l.settle t o).Knows u x created ↔ l.Knows u x created := by
  -- settling writes the outcome and nothing else
  have hxid (r : Request) : (r.settle o).xid = r.xid := by
    unfold Request.settle
    split <;> rfl
  have hcreated (r : Request) : (r.settle o).created = r.created := by
    unfold Request.settle
    split <;> rfl
  rw [Knows, Knows, get?_settle]
  cases l.get? u with
  | none => simp
  | some r =>
    by_cases ht : t = u
    · simp [ht, hxid, hcreated]
    · simp [ht]

end Ledger

namespace RequestTable

variable {t : RequestTable}

/-- No barrier is a further write of a request, its own or another. -/
theorem Indexed.writes_none_of_barrier (h : t.Indexed) {x k : Xid}
    (hb : t.barriers.find? x = some k) : t.writes.find? x = none := by
  cases hw : t.writes.find? x with
  | none => rfl
  | some j =>
    obtain ⟨e, he, hbar⟩ := h.barriers_iff.1 hb
    obtain ⟨f, hf, hmem⟩ := h.writes_iff.1 hw
    -- whoever has the barrier and whoever has the write share an id, so they are one
    obtain rfl : k = j :=
      h.apart he hf (mem_xids.2 (.inr (.inl hbar))) (mem_xids.2 (.inr (.inr hmem)))
    obtain rfl : e = f := Option.some.inj (he.symm.trans hf)
    have hn := h.nodup he
    rw [OpenRequest.xids, hbar, List.nodup_cons] at hn
    exact absurd hmem (List.nodup_cons.1 hn.2).1

/-- A deadline is the only one of its generation. -/
theorem filter_generation {ds : List Deadline}
    (hu : ds.Pairwise fun a b => a.generation ≠ b.generation) {d : Deadline} (hd : d ∈ ds) :
    ds.filter (fun a => a.generation = d.generation) = [d] := by
  induction ds with
  | nil => cases hd
  | cons a ds ih =>
    obtain ⟨ha, hds⟩ := List.pairwise_cons.1 hu
    rcases List.mem_cons.1 hd with rfl | hd
    · rw [List.filter_cons_of_pos (by simp), List.cons_inj_right, List.filter_eq_nil_iff]
      intro b hb
      simpa using (ha b hb).symm
    · rw [List.filter_cons_of_neg (by simpa using ha d hd), ih hds hd]

end RequestTable

namespace Tracker

open RequestTable (mem_insertDeadline find?_remove_eq_some)

variable {k k' : Tracker} {op : Operation}

/-! ## What a step brings in -/

section Step

variable {y u x : Xid} {f : OpenRequest} {d : Deadline}

/-- An open request was there before, or the operation has registered it. -/
theorem Step.entry_cases (h : k.Step op k') (hsound : k.Sound)
    (hf : k'.table.entries.find? y = some f) :
    (∃ e, k.table.entries.find? y = some e ∧ e.ticket = f.ticket ∧
      e.generation = f.generation) ∨
    ∃ c, op.claim? = some c ∧ y = c.xid ∧ f = c.opened (k.table.generation + 1) := by
  -- an entry was there before, perhaps with fewer fragments, or it is the one just enrolled
  cases h with
  | enrolled hop _ =>
    rw [RequestTable.entries_enroll, Keyed.find?_put] at hf
    split at hf
    · next hy => exact .inr ⟨_, hop, hy, (Option.some.inj hf).symm⟩
    · exact .inl ⟨f, hf, rfl, rfl⟩
  | rejected | ignored => exact .inl ⟨f, hf, rfl, rfl⟩
  | settled | removed => exact .inl ⟨f, (find?_remove_eq_some.1 hf).2, rfl, rfl⟩
  | continued hc =>
    rw [Keyed.find?_put] at hf
    split at hf
    · next hy => exact .inl ⟨_, hy ▸ hc.find?, Option.some.inj hf ▸ ⟨rfl, rfl⟩⟩
    · exact .inl ⟨f, hf, rfl, rfl⟩
  | pruned => exact .inl ⟨f, (hsound.scheduled.find?_prune.1 hf).1, rfl, rfl⟩
  | cleared => simp [RequestTable.clear] at hf

/-- A deadline was there before, or it is that of the request that the operation has registered. -/
theorem Step.deadline_cases (h : k.Step op k') (hd : d ∈ k'.table.deadlines) :
    d ∈ k.table.deadlines ∨ ∃ c, op.claim? = some c ∧
      d = ⟨c.created + k.table.ageOut, k.table.generation + 1, c.xid⟩ := by
  cases h with
  | enrolled hop _ =>
    rcases mem_insertDeadline.1 hd with rfl | hd
    · exact .inr ⟨_, hop, rfl⟩
    · exact .inl hd
  | rejected | ignored | continued => exact .inl hd
  | settled | removed =>
    rw [RequestTable.deadlines_remove] at hd
    exact .inl hd
  | pruned =>
    rw [RequestTable.deadlines_prune] at hd
    exact .inl ((List.dropWhile_sublist _).subset hd)
  | cleared => cases hd

/-- Generation numbers only grow. -/
theorem Step.generation_le (h : k.Step op k') : k.table.generation ≤ k'.table.generation := by
  cases h with
  | enrolled => exact Nat.le_succ _
  | rejected | ignored | continued | cleared => exact Nat.le_refl _
  | settled | removed => exact Nat.le_of_eq (RequestTable.generation_remove _).symm
  | pruned => exact Nat.le_of_eq (RequestTable.generation_prune _).symm

end Step

/-- Settling requests changes neither their ids nor their times. -/
private theorem knows_settleAll {l : Ledger} {es : List OpenRequest} {o : OpenRequest → Outcome}
    {u : Ticket} {x : Xid} {created : Nat} :
    (settleAll l es o).Knows u x created ↔ l.Knows u x created := by
  induction es generalizing l with
  | nil => exact Iff.rfl
  | cons e es ih => exact ih.trans (Ledger.knows_settle _)

/-- No operation does. -/
theorem Step.knows (h : k.Step op k') {u : Ticket} {x : Xid} {created : Nat} :
    k'.ledger.Knows u x created ↔ k.ledger.Knows u x created := by
  cases h with
  | enrolled | continued | ignored | removed => exact Iff.rfl
  | rejected | settled => exact Ledger.knows_settle _
  | pruned | cleared => exact knows_settleAll

/-- So no run does. -/
theorem Sound.knows_run (h : k.Sound) {ops : List Operation} {u : Ticket} {x : Xid}
    {created : Nat} : (k.run ops).ledger.Knows u x created ↔ k.ledger.Knows u x created := by
  induction ops generalizing k with
  | nil => exact Iff.rfl
  | cons op ops ih => exact (ih (h.apply op)).trans (h.step op).knows

/-! ## Deadlines of open requests -/

/-- A request is registered under the id and the time that the ledger has of it. -/
def Operation.Fits (l : Ledger) (op : Operation) : Prop :=
  ∀ c, op.claim? = some c → l.Knows c.ticket c.xid c.created

/-- The ledger knows every open request under its id, and the deadline of its generation is the
time it was made and what it may take. -/
def Dated (k : Tracker) : Prop :=
  ∀ x e, k.table.entries.find? x = some e → ∃ created, k.ledger.Knows e.ticket x created ∧
    ∀ d ∈ k.table.deadlines, d.generation = e.generation →
      d = ⟨created + k.table.ageOut, e.generation, x⟩

/-- In an empty table there is nothing to date. -/
theorem dated_new (l : Ledger) (d : DatapathId) (ageOut : Nat) :
    Dated ⟨l, { datapath := d, ageOut }⟩ :=
  fun _ _ he => by simp at he

/-- An operation keeps the deadlines right if its request is registered as the ledger has it. -/
theorem Dated.step (h : k.Dated) (hsound : k.Sound) (hstep : k.Step op k')
    (hop : op.Fits k.ledger) : k'.Dated := by
  intro y f hf
  rw [hstep.settings.2]
  simp only [hstep.knows]
  rcases hstep.entry_cases hsound hf with ⟨e, he, hticket, hg⟩ | ⟨c, hc, rfl, rfl⟩
  · obtain ⟨created, hknows, hdue⟩ := h _ _ he
    refine ⟨created, hticket ▸ hknows, ?_⟩
    intro d hd hdg
    rcases hstep.deadline_cases hd with hd | ⟨c, -, rfl⟩
    · rw [← hg]
      exact hdue d hd (hdg.trans hg.symm)
    · -- the new deadline has a generation past that of every request there was
      have := hsound.scheduled.entry_le he
      simp only at hdg
      omega
  · refine ⟨c.created, hop c hc, ?_⟩
    intro d hd hdg
    rcases hstep.deadline_cases hd with hd | ⟨b, hb, rfl⟩
    · have := hsound.scheduled.deadline_le hd
      simp only [Claim.opened] at hdg
      omega
    · obtain rfl : c = b := Option.some.inj (hc.symm.trans hb)
      rfl

/-- By induction, so does a run. -/
theorem Dated.run (h : k.Dated) (hsound : k.Sound) {ops : List Operation}
    (hops : ∀ op ∈ ops, op.Fits k.ledger) : (k.run ops).Dated := by
  induction ops generalizing k with
  | nil => exact h
  | cons op ops ih =>
    obtain ⟨hop, hrest⟩ := List.forall_mem_cons.1 hops
    have hstep := hsound.step op
    have hfits : ∀ b ∈ ops, b.Fits (k.apply op).ledger :=
      fun b hb c hc => hstep.knows.2 (hrest b hb c hc)
    exact ih (h.step hsound hstep hop) (hsound.apply op) hfits

/-! ## Generations -/

/-- An open request was open before the run under the same id, or its generation is past all those
given out by then. -/
theorem Sound.entry_of_run (h : k.Sound) {ops : List Operation} {y : Xid} {f : OpenRequest}
    (hf : (k.run ops).table.entries.find? y = some f) :
    (∃ e, k.table.entries.find? y = some e ∧ e.ticket = f.ticket ∧
      e.generation = f.generation) ∨ k.table.generation < f.generation := by
  induction ops generalizing k with
  | nil => exact .inl ⟨f, hf, rfl, rfl⟩
  | cons op ops ih =>
    have hstep := h.step op
    rcases ih (h.apply op) hf with ⟨e, he, hticket, hg⟩ | hlt
    · rcases hstep.entry_cases h he with ⟨e', he', hticket', hg'⟩ | ⟨c, -, -, rfl⟩
      · exact .inl ⟨e', he', hticket'.trans hticket, hg'.trans hg⟩
      · exact .inr (hg ▸ Nat.lt_succ_self _)
    · exact .inr (Nat.lt_of_le_of_lt hstep.generation_le hlt)

/-- Generations are not given back. -/
private theorem Sound.generation_le_run (h : k.Sound) (ops : List Operation) :
    k.table.generation ≤ (k.run ops).table.generation := by
  induction ops generalizing k with
  | nil => exact Nat.le_refl _
  | cons op ops ih => exact Nat.le_trans (h.step op).generation_le (ih (h.apply op))

/-- Two requests that are open at two times with one generation are one, and it is open all the
time in between. -/
theorem Sound.eq_of_generation (h : k.Sound) {between after : List Operation} {x y : Xid}
    {e f : OpenRequest} (he : k.table.entries.find? x = some e)
    (hf : (k.run (between ++ after)).table.entries.find? y = some f)
    (hg : e.generation = f.generation) :
    x = y ∧ ∃ g, (k.run between).table.entries.find? x = some g ∧
      e.ticket = g.ticket ∧ g.ticket = f.ticket ∧ g.generation = f.generation := by
  have hle := h.scheduled.entry_le he
  rw [run_append] at hf
  -- an entry was there before, or its generation is past all there were
  rcases (h.run between).entry_of_run hf with ⟨g, hgy, hticket, hgg⟩ | hlt
  · rcases h.entry_of_run hgy with ⟨e', he', hticket', hg'⟩ | hlt
    · obtain rfl : x = y := h.scheduled.distinct he he' (hg.trans (hg'.trans hgg).symm)
      obtain rfl : e = e' := Option.some.inj (he.symm.trans he')
      exact ⟨rfl, g, hgy, hticket', hticket, hgg⟩
    · omega
  · have := h.generation_le_run between
    omega

/-! ## The representation -/

/-- The parts of the table describe one set of requests. -/
structure Consistent (k : Tracker) : Prop where
  /-- A request stands under its own transaction id. -/
  own : ∀ {x e}, k.table.entries.find? x = some e → e.xid = x
  barriers_iff : ∀ {b x}, k.table.barriers.find? b = some x ↔
    ∃ e, k.table.entries.find? x = some e ∧ e.barrier = some b
  writes_iff : ∀ {w x}, k.table.writes.find? w = some x ↔
    ∃ e, k.table.entries.find? x = some e ∧ w ∈ e.writes
  /-- No transaction id is a key of two maps. -/
  disjoint : ∀ x, (k.table.entries.has x = true →
      k.table.barriers.has x = false ∧ k.table.writes.has x = false) ∧
    (k.table.barriers.has x = true → k.table.writes.has x = false)
  nodup : ∀ {x e}, k.table.entries.find? x = some e → e.xids.Nodup
  distinct : ∀ {x y e f}, k.table.entries.find? x = some e → k.table.entries.find? y = some f →
    e.generation = f.generation → x = y
  /-- Of the deadlines exactly one has its generation: that of the request of the ledger. -/
  deadline : ∀ {x e}, k.table.entries.find? x = some e →
    ∃ r, k.ledger.get? e.ticket = some r ∧ r.xid = x ∧
      k.table.deadlines.filter (fun d => d.generation = e.generation) =
        [⟨r.created + k.table.ageOut, e.generation, x⟩]

/-- A sound table whose deadlines are right is consistent. -/
private theorem Sound.consistent (h : k.Sound) (hdated : k.Dated) : k.Consistent where
  own := h.indexed.xid_eq
  barriers_iff := h.indexed.barriers_iff
  writes_iff := h.indexed.writes_iff
  disjoint x := by
    refine ⟨fun he => ?_, fun hb => ?_⟩
    · obtain ⟨e, he⟩ := Keyed.has_iff.1 he
      exact ⟨by rw [Keyed.has, h.indexed.barriers_none he]; rfl,
        by rw [Keyed.has, h.indexed.writes_none he]; rfl⟩
    · obtain ⟨y, hy⟩ := Keyed.has_iff.1 hb
      rw [Keyed.has, h.indexed.writes_none_of_barrier hy]
      rfl
  nodup := h.indexed.nodup
  distinct := h.scheduled.distinct
  deadline he := by
    -- generations differ, so among the deadlines exactly one is this entry's
    obtain ⟨created, ⟨r, hr, hx, rfl⟩, hdue⟩ := hdated _ _ he
    obtain ⟨d, hd, hg, -⟩ := h.scheduled.due he
    have hone := RequestTable.filter_generation h.scheduled.unique hd
    rw [hg, hdue d hd hg] at hone
    exact ⟨r, hr, hx, hone⟩

/-! ## Getting into the table -/

/-- No open request occupies the transaction id. -/
def IsFree (k : Tracker) (x : Xid) : Prop :=
  ∀ y e, k.table.entries.find? y = some e → x ∉ e.xids

/-- An id is free unless it is in use. -/
private theorem Sound.isFree_iff (h : k.Sound) {x : Xid} :
    k.IsFree x ↔ k.table.isUsed x = false := by
  rw [← Bool.not_eq_true, h.indexed.isUsed_iff]
  exact ⟨fun hfree ⟨_, _, he, hx⟩ => hfree _ _ he hx, fun hno y e he hx => hno ⟨y, e, he, hx⟩⟩

/-- A claim is refused under one of its ids, which is in use or claimed twice. -/
theorem conflict?_spec {t : RequestTable} {c : Claim} {x : Xid} (h : t.conflict? c = some x) :
    x ∈ c.xids ∧ (t.isUsed x = true ∨ ¬ c.xids.Nodup) := by
  unfold RequestTable.conflict? at h
  -- either an id is used, or the claim itself repeats one
  split at h
  · next y hy =>
    obtain rfl : y = x := Option.some.inj h
    exact ⟨List.mem_of_find?_eq_some hy, .inl (List.find?_some hy)⟩
  · split at h
    · cases h
    · next hn =>
      obtain rfl : c.xid = x := Option.some.inj h
      exact ⟨List.mem_cons_self, .inr hn⟩

/-- What a refused registration does: it fails the new request and leaves everything else. -/
structure Refuses (k : Tracker) (c : Claim) (k' : Tracker) (f : Failure) : Prop where
  table_eq : k'.table = k.table
  others : ∀ u, u ≠ c.ticket → k'.ledger.get? u = k.ledger.get? u
  outcome : k.ledger.IsPending c.ticket → k'.ledger.outcome? c.ticket = some (.failed f)
  duplicate : ∃ x ∈ c.xids, f = .duplicateXid k.table.datapath x ∧
    (¬ k.IsFree x ∨ ¬ c.xids.Nodup)

/-- A request is registered if its ids are free and differ. -/
private theorem Sound.register_eq_ok_iff (h : k.Sound) {c : Claim} :
    (k.register c).2 = .ok () ↔ c.xids.Nodup ∧ ∀ x ∈ c.xids, k.IsFree x := by
  have hfree : (∀ x ∈ c.xids, k.IsFree x) ↔ ∀ x ∈ c.xids, k.table.isUsed x = false :=
    forall₂_congr fun _ _ => h.isFree_iff
  rw [hfree, and_comm, ← RequestTable.conflict?_eq_none_iff]
  unfold register RequestTable.insert
  cases k.table.conflict? c with
  | none => simp
  | some x => simp

/-- Otherwise it fails for one of them, and nothing else happens. -/
private theorem Sound.refuses (h : k.Sound) {c : Claim} {f : Failure}
    (hf : (k.register c).2 = .error f) :
    k.Refuses c (k.register c).1 f := by
  unfold register RequestTable.insert at hf ⊢
  cases hc : k.table.conflict? c with
  | none => simp [hc] at hf
  | some x =>
    simp only [hc] at hf ⊢
    obtain rfl := Except.error.inj hf
    obtain ⟨hx, hwhy⟩ := conflict?_spec hc
    refine ⟨rfl, fun u hu => Ledger.get?_settle_of_ne _ hu.symm, fun hp => hp.outcome?_settle _,
      x, hx, rfl, hwhy.imp_left fun hused hfree => ?_⟩
    rw [h.isFree_iff.1 hfree] at hused
    cases hused

/-! ## Every run -/

/-- Whatever is done to a table, its parts describe one set of requests, no generation is given to
two of them, and exactly the claims get in whose ids are distinct and in use by nobody. -/
theorem represents_run (l : Ledger) (d : DatapathId) (ageOut : Nat) (ops : List Operation)
    (hops : ∀ op ∈ ops, op.Fits l) :
    let start : Tracker := ⟨l, { datapath := d, ageOut }⟩
    let k := start.run ops
    k.Consistent ∧
    (∀ earlier between later x y e f, ops = earlier ++ (between ++ later) →
      (start.run earlier).table.entries.find? x = some e → k.table.entries.find? y = some f →
      e.generation = f.generation →
      x = y ∧ ∃ g, (start.run (earlier ++ between)).table.entries.find? x = some g ∧
        e.ticket = g.ticket ∧ g.ticket = f.ticket ∧ g.generation = f.generation) ∧
    (∀ c, (k.register c).2 = .ok () ↔ c.xids.Nodup ∧ ∀ x ∈ c.xids, k.IsFree x) ∧
    ∀ c f, (k.register c).2 = .error f → k.Refuses c (k.register c).1 f := by
  intro start k
  have hstart : start.Sound := sound_new l d ageOut
  have hempty : start.Dated := fun _ _ he => by simp [start] at he
  have hsound := hstart.run ops
  refine ⟨hsound.consistent (hempty.run hstart hops), ?_, fun _ => hsound.register_eq_ok_iff,
    fun _ _ => hsound.refuses⟩
  intro earlier between later x y e f heq he hf hg
  -- the two moments at which the generations agree lie on one run
  have hk : k = (start.run earlier).run (between ++ later) := by
    rw [← run_append, ← heq]
  rw [hk] at hf
  rw [run_append]
  exact (hstart.run earlier).eq_of_generation he hf hg

/-- An id whose request has ended serves as the barrier of a batch, and is in use again. -/
theorem represents_run_reuse :
    let start : Tracker := ⟨⟨[{ datapath := ⟨7⟩, xid := 1, type := .echoRequest, created := 3 },
        { datapath := ⟨7⟩, xid := 2, type := .flowMod, created := 5 }]⟩,
      { datapath := ⟨7⟩, ageOut := 9 }⟩
    let k := start.run [.register 0 1 3, .resolve 1 (.echoReply []), .registerBatch 1 2 5 [3, 4] 1]
    k.table.entries.length = 1 ∧ k.Consistent ∧ (k.register (.plain 0 1 3)).2 ≠ .ok () := by
  intro start k
  have hops : ∀ op ∈ [Operation.register 0 1 3, .resolve 1 (.echoReply []),
      .registerBatch 1 2 5 [3, 4] 1], op.Fits start.ledger := by
    intro op hop c hc
    simp only [List.mem_cons, List.not_mem_nil, or_false] at hop
    rcases hop with rfl | rfl | rfl <;> cases hc <;> exact ⟨_, rfl, rfl, rfl⟩
  obtain ⟨hconsistent, -, hok, -⟩ := represents_run start.ledger ⟨7⟩ 9 _ hops
  refine ⟨rfl, hconsistent, fun h => ?_⟩
  exact ((hok _).1 h).2 1 (by decide) 2 _ rfl (by decide)

end Tracker

end Southbound
