import Mathlib.Data.List.Induction
import Southbound.Proofs.Request.Representation

/-!
# Giving up exactly what is due

Pruning looks only at the deadlines in front, and some of them are those of requests that ended long
ago and whose ids are in use again. After any run it gives up the open requests whose time is over,
each once, those first whose time was over first, and leaves everything else alone (`prunes_run`).
Of two requests whose time is over at once, that one comes first that was admitted first
(`admitted`, `AdmittedAs`).
-/

namespace Southbound

namespace Ledger

variable {l : Ledger} {u : Ticket} {x y : Xid} {created created' : Nat}

/-- The ledger knows one id and one time of a request. -/
theorem Knows.unique (h : l.Knows u x created) (h' : l.Knows u y created') :
    x = y ∧ created = created' := by
  obtain ⟨r, hr, rfl, rfl⟩ := h
  obtain ⟨s, hs, rfl, rfl⟩ := h'
  obtain rfl : r = s := Option.some.inj (hr.symm.trans hs)
  exact ⟨rfl, rfl⟩

end Ledger

namespace Tracker

variable {k : Tracker} {op : Operation} {now : Nat} {e f : OpenRequest} {x : Xid}

/-! ## The order of admission -/

/-- The claim of an operation, if it gets into the table. -/
def admitted? (k : Tracker) (op : Operation) : Option Claim :=
  op.claim?.filter fun c => (k.register c).2.isOk

/-- The claims that get into the table, in order. -/
def admitted (k : Tracker) : List Operation → List Claim
  | [] => []
  | op :: ops => (k.admitted? op).toList ++ (k.apply op).admitted ops

/-- The open request is that of the claim which was the `n`-th to be admitted, and its ticket has
not been admitted again since. -/
structure AdmittedAs (k : Tracker) (ops : List Operation) (n : Nat) (c : Claim) (e : OpenRequest) :
    Prop where
  get : (k.admitted ops)[n]? = some c
  ticket : c.ticket = e.ticket
  last : ∀ j b, n < j → (k.admitted ops)[j]? = some b → b.ticket ≠ e.ticket

/-- A request was admitted once. -/
private theorem AdmittedAs.unique {ops : List Operation} {m n : Nat} {c b : Claim}
    (h : k.AdmittedAs ops m c e) (h' : k.AdmittedAs ops n b e) : m = n ∧ c = b := by
  have hmn : m = n := by
    rcases Nat.lt_trichotomy m n with hlt | heq | hlt
    · exact absurd h'.ticket (h.last n b hlt h'.get)
    · exact heq
    · exact absurd h.ticket (h'.last m c hlt h.get)
  subst hmn
  exact ⟨rfl, Option.some.inj (h.get.symm.trans h'.get)⟩

/-- The claims of two parts are admitted one after the other. -/
private theorem admitted_append (k : Tracker) (before after : List Operation) :
    k.admitted (before ++ after) = k.admitted before ++ (k.run before).admitted after := by
  induction before generalizing k with
  | nil => rfl
  | cons op before ih =>
    rw [List.cons_append, admitted, ih, admitted, List.append_assoc]
    rfl

/-- An admitted claim is entered as it stands. -/
theorem apply_of_admitted? {c : Claim} (h : k.admitted? op = some c) :
    op.claim? = some c ∧ k.table.conflict? c = none ∧
      k.apply op = ⟨k.ledger, k.table.enroll c⟩ := by
  obtain ⟨hop, hok⟩ := Option.filter_eq_some_iff.1 h
  rcases k.register_cases c with ⟨hc, heq⟩ | ⟨_, heq⟩
  · exact ⟨hop, hc, by rw [apply_of_claim? hop, heq]⟩
  · rw [heq] at hok
    cases hok

/-- Nothing comes into the table that is not admitted. -/
theorem Sound.apply_of_not_admitted (h : k.Sound) (hop : k.admitted? op = none) :
    (k.apply op).table.generation = k.table.generation ∧
    ∀ x f, (k.apply op).table.entries.find? x = some f →
      ∃ e, k.table.entries.find? x = some e ∧ e.ticket = f.ticket ∧
        e.generation = f.generation := by
  -- an operation with a claim was refused; one without cannot make an entry
  cases hclaim : op.claim? with
  | some c =>
    rw [apply_of_claim? hclaim]
    rcases k.register_cases c with ⟨-, heq⟩ | ⟨_, heq⟩
    · rw [admitted?, hclaim, Option.filter_some, heq] at hop
      cases hop
    · rw [heq]
      exact ⟨rfl, fun x f hf => ⟨f, hf, rfl, rfl⟩⟩
  | none =>
    have hstep := h.step op
    refine ⟨?_, fun x f hf => ?_⟩
    · generalize k.apply op = k' at hstep
      cases hstep with
      | enrolled hc | rejected hc => cases hclaim.symm.trans hc
      | continued | ignored | cleared => rfl
      | settled | removed => exact RequestTable.generation_remove _
      | pruned => exact RequestTable.generation_prune _
    · rcases hstep.entry_cases h hf with hold | ⟨c, hc, -⟩
      · exact hold
      · cases hclaim.symm.trans hc

/-- The generation of an open request is its place in the order of admission. -/
structure Numbers (start : Tracker) (ops : List Operation) : Prop where
  generation : (start.run ops).table.generation = (start.admitted ops).length
  entry : ∀ x e, (start.run ops).table.entries.find? x = some e →
    ∃ n c, e.generation = n + 1 ∧ start.AdmittedAs ops n c e

/-- Nothing but the run is needed to tell whether it has a ticket again. -/
theorem AdmittedAs.concat {start : Tracker} {ops : List Operation} {n : Nat} {c : Claim}
    (h : start.AdmittedAs ops n c e) (hticket : e.ticket = f.ticket)
    (hop : ∀ b, (start.run ops).admitted? op = some b → b.ticket ≠ f.ticket) :
    start.AdmittedAs (ops ++ [op]) n c f := by
  have hconcat : start.admitted (ops ++ [op]) =
      start.admitted ops ++ ((start.run ops).admitted? op).toList := by
    rw [admitted_append, admitted, admitted, List.append_nil]
  have hlt : n < (start.admitted ops).length := (List.getElem?_eq_some_iff.1 h.get).1
  refine ⟨?_, h.ticket.trans hticket, fun j b hj hb => ?_⟩
  · rw [hconcat, List.getElem?_append_left hlt]
    exact h.get
  · rw [hconcat] at hb
    -- what comes later was admitted before this operation, or by it
    by_cases hjlt : j < (start.admitted ops).length
    · rw [List.getElem?_append_left hjlt] at hb
      exact hticket ▸ h.last j b hj hb
    · rw [List.getElem?_append_right (Nat.le_of_not_lt hjlt)] at hb
      exact hop b (Option.mem_toList.1 (List.mem_of_getElem? hb))

/-- Requests that are open are not admitted again. -/
theorem Sound.ticket_ne_of_conflict? (h : k.Sound) (hdated : k.Dated) {c : Claim}
    (hc : k.table.conflict? c = none) (hfits : k.ledger.Knows c.ticket c.xid c.created)
    (he : k.table.entries.find? x = some e) : c.ticket ≠ e.ticket := by
  intro hticket
  obtain ⟨created, hknows, -⟩ := hdated x e he
  obtain ⟨rfl, -⟩ := (hticket ▸ hfits).unique hknows
  rw [h.indexed.find?_of_conflict? hc] at he
  cases he

/-- An operation that admits a claim gives it the next generation. -/
private theorem Numbers.concat {start : Tracker} {ops : List Operation} (h : start.Numbers ops)
    (hsound : (start.run ops).Sound) (hdated : (start.run ops).Dated)
    (hop : op.Fits (start.run ops).ledger) : start.Numbers (ops ++ [op]) := by
  have hrun : start.run (ops ++ [op]) = (start.run ops).apply op := run_append ..
  have hconcat : start.admitted (ops ++ [op]) =
      start.admitted ops ++ ((start.run ops).admitted? op).toList := by
    rw [admitted_append, admitted, admitted, List.append_nil]
  -- admitted or not: only an admitted request takes the next number
  cases hadmitted : (start.run ops).admitted? op with
  | some c =>
    obtain ⟨hclaim, hc, happly⟩ := apply_of_admitted? hadmitted
    refine ⟨?_, fun x f hf => ?_⟩
    · rw [hrun, happly, hconcat, hadmitted, List.length_append, ← h.generation]
      rfl
    · rw [hrun, happly, RequestTable.entries_enroll, Keyed.find?_put] at hf
      split at hf
      · -- the new request comes last
        obtain rfl := Option.some.inj hf
        refine ⟨(start.admitted ops).length, c, congrArg (· + 1) h.generation, ?_, rfl, ?_⟩
        · rw [hconcat, hadmitted, Option.toList_some, List.getElem?_concat_length]
        · intro j b hj hb
          have := (List.getElem?_eq_some_iff.1 hb).1
          rw [hconcat, hadmitted, Option.toList_some, List.length_append,
            List.length_singleton] at this
          omega
      · obtain ⟨n, b, hg, hb⟩ := h.entry x f hf
        refine ⟨n, b, hg, hb.concat rfl fun a ha => ?_⟩
        obtain rfl := Option.some.inj (hadmitted.symm.trans ha)
        exact hsound.ticket_ne_of_conflict? hdated hc (hop c hclaim) hf
  | none =>
    obtain ⟨hgeneration, hentries⟩ := hsound.apply_of_not_admitted hadmitted
    refine ⟨?_, fun x f hf => ?_⟩
    · rw [hrun, hgeneration, hconcat, hadmitted, Option.toList_none, List.append_nil, h.generation]
    · rw [hrun] at hf
      obtain ⟨e, he, hticket, hg⟩ := hentries x f hf
      obtain ⟨n, b, hb, hadmittedAs⟩ := h.entry x e he
      refine ⟨n, b, hg ▸ hb, hadmittedAs.concat hticket fun a ha => ?_⟩
      cases hadmitted.symm.trans ha

/-- So generations are places in the order of admission. -/
private theorem numbers_run (l : Ledger) (d : DatapathId) (ageOut : Nat) (ops : List Operation)
    (hops : ∀ op ∈ ops, op.Fits l) : Numbers ⟨l, { datapath := d, ageOut }⟩ ops := by
  have hstart := sound_new l d ageOut
  induction ops using List.reverseRecOn with
  | nil => exact ⟨rfl, fun _ _ he => by simp at he⟩
  | append_singleton ops op ih =>
    have hbefore : ∀ o ∈ ops, o.Fits l := fun o ho => hops o (List.mem_append_left _ ho)
    have hdated := (dated_new l d ageOut).run hstart hbefore
    refine (ih hbefore).concat (hstart.run ops) hdated ?_
    exact fun c hc => hstart.knows_run.2 (hops op (by simp) c hc)

/-- The ledger knows the requests that were admitted. -/
private theorem knows_of_mem_admitted {l : Ledger} {c : Claim} {ops : List Operation}
    (hops : ∀ op ∈ ops, op.Fits l) (hc : c ∈ k.admitted ops) :
    l.Knows c.ticket c.xid c.created := by
  induction ops generalizing k with
  | nil => cases hc
  | cons op ops ih =>
    obtain ⟨hop, hrest⟩ := List.forall_mem_cons.1 hops
    rcases List.mem_append.1 hc with hc | hc
    · exact hop c (apply_of_admitted? (Option.mem_toList.1 hc)).1
    · exact ih hrest hc

/-! ## What is given up -/

section Prune

/-- The time of a request is over. -/
def IsOver (k : Tracker) (ageOut now : Nat) (e : OpenRequest) : Prop :=
  ∃ created, k.ledger.Knows e.ticket e.xid created ∧ created + ageOut ≤ now

/-- The deadline of an open request says as well whether its time is over. -/
theorem Sound.isOver_iff (h : k.Sound) (hdated : k.Dated)
    (he : k.table.entries.find? x = some e) :
    k.IsOver k.table.ageOut now e ↔ ∃ d ∈ k.table.deadlines, d.time ≤ now ∧ d.xid = x ∧
      d.generation = e.generation := by
  -- the deadline of an entry is due a fixed time after its request was created
  obtain ⟨created, hknows, hdue⟩ := hdated x e he
  rw [← h.indexed.xid_eq he] at hknows hdue ⊢
  constructor
  · rintro ⟨_, hknows', hover⟩
    obtain ⟨-, rfl⟩ := hknows.unique hknows'
    obtain ⟨d, hd, hg, hx⟩ := h.scheduled.due he
    refine ⟨d, hd, ?_, hx.trans (h.indexed.xid_eq he).symm, hg⟩
    rw [hdue d hd hg]
    exact hover
  · rintro ⟨d, hd, htime, -, hg⟩
    rw [hdue d hd hg] at htime
    exact ⟨created, hknows, htime⟩

/-- Exactly the open requests whose time is over are given up. -/
theorem Sound.mem_prune_iff (h : k.Sound) (hdated : k.Dated) :
    e ∈ (k.prune now).2 ↔
      k.table.entries.find? e.xid = some e ∧ k.IsOver k.table.ageOut now e := by
  have hmem : e ∈ (k.prune now).2 ↔ ∃ d, (d ∈ k.table.deadlines ∧ d.time ≤ now) ∧
      k.table.entries.find? d.xid = some e ∧ e.generation = d.generation := by
    show e ∈ (k.table.prune now).2 ↔ _
    rw [h.scheduled.prune_snd, List.mem_filterMap]
    simp only [h.scheduled.mem_passed, RequestTable.live?_eq_some_iff]
  rw [hmem]
  constructor
  · rintro ⟨d, ⟨hd, htime⟩, he, hg⟩
    rw [h.indexed.xid_eq he]
    exact ⟨he, (h.isOver_iff hdated he).2 ⟨d, hd, htime, rfl, hg.symm⟩⟩
  · rintro ⟨he, hover⟩
    obtain ⟨d, hd, htime, hx, hg⟩ := (h.isOver_iff hdated he).1 hover
    exact ⟨d, ⟨hd, htime⟩, hx ▸ he, hg.symm⟩

/-- The others stay open. -/
theorem Sound.find?_prune (h : k.Sound) (hdated : k.Dated) :
    (k.prune now).1.table.entries.find? x = some e ↔
      k.table.entries.find? x = some e ∧ e ∉ (k.prune now).2 := by
  show (k.table.prune now).1.entries.find? x = some e ↔ _
  rw [h.scheduled.find?_prune]
  refine and_congr_right fun he => ?_
  rw [h.mem_prune_iff hdated, h.indexed.xid_eq he, and_iff_right he, h.isOver_iff hdated he]
  simp only [not_exists, not_and]
  exact ⟨fun hall d hd htime hx hg => Nat.not_le.2 (hall d hd hx hg) htime,
    fun hnone d hd hx hg => Nat.lt_of_not_le fun htime => hnone d hd htime hx hg⟩

/-- No two open requests have one ticket. -/
theorem Dated.eq_of_ticket (hdated : k.Dated) {y : Xid} (he : k.table.entries.find? x = some e)
    (hf : k.table.entries.find? y = some f) (hticket : e.ticket = f.ticket) : e = f := by
  obtain ⟨created, hknows, -⟩ := hdated x e he
  obtain ⟨created', hknows', -⟩ := hdated y f hf
  obtain ⟨rfl, -⟩ := hknows.unique (hticket ▸ hknows')
  exact Option.some.inj (he.symm.trans hf)

/-- The requests come in the order of their deadlines. -/
theorem Sound.pairwise_prune (h : k.Sound) (now : Nat) :
    (k.prune now).2.Pairwise fun e f => ∃ d ∈ k.table.deadlines, ∃ d' ∈ k.table.deadlines,
      d.generation = e.generation ∧ d'.generation = f.generation ∧ d.precedes d' = true ∧
      d.generation ≠ d'.generation := by
  show (k.table.prune now).2.Pairwise _
  rw [h.scheduled.prune_snd, List.pairwise_filterMap]
  -- the passed deadlines are a prefix of the sorted ones, and the evicted entries follow them
  have hdeadlines : (k.table.passed now).Pairwise fun d d' => d ∈ k.table.deadlines ∧
      d' ∈ k.table.deadlines ∧ d.precedes d' = true ∧ d.generation ≠ d'.generation :=
    (List.Pairwise.and_mem.1 (h.scheduled.sorted.and h.scheduled.unique)).sublist
      (List.takeWhile_sublist _)
  refine hdeadlines.imp ?_
  rintro d d' ⟨hd, hd', hprecedes, hne⟩ e he f hf
  exact ⟨d, hd, d', hd', (RequestTable.live?_eq_some_iff.1 he).2.symm,
    (RequestTable.live?_eq_some_iff.1 hf).2.symm, hprecedes, hne⟩

/-- What pruning does to a table and the ledger. -/
structure Prunes (d : DatapathId) (ageOut now : Nat) (k k' : Tracker)
    (evicted : List OpenRequest) : Prop where
  /-- Exactly the open requests whose time is over are given up, each once. -/
  mem_iff : ∀ e, e ∈ evicted ↔ k.table.entries.find? e.xid = some e ∧ k.IsOver ageOut now e
  nodup : (evicted.map (·.ticket)).Nodup
  /-- They have aged out unless they have an outcome, and nothing else is written down. -/
  agedOut : ∀ e ∈ evicted, k.ledger.IsPending e.ticket →
    k'.ledger.outcome? e.ticket = some (.failed (.agedOut d e.xid))
  decided : ∀ u o, k.ledger.outcome? u = some o → k'.ledger.outcome? u = some o
  others : ∀ u, (∀ e ∈ evicted, e.ticket ≠ u) → k'.ledger.get? u = k.ledger.get? u
  /-- The others stay open. -/
  find?_iff : ∀ x e, k'.table.entries.find? x = some e ↔
    k.table.entries.find? x = some e ∧ e ∉ evicted
  /-- All ids of those given up are free, and all other ids lead where they led. -/
  freed : ∀ e ∈ evicted, ∀ y ∈ e.xids, k'.table.isUsed y = false
  kept : ∀ y, (∀ e ∈ evicted, y ∉ e.xids) →
    k'.table.entries.find? y = k.table.entries.find? y ∧
    k'.table.barriers.find? y = k.table.barriers.find? y ∧
    k'.table.writes.find? y = k.table.writes.find? y

/-- Pruning gives up what is due, and nothing else. -/
private theorem Sound.prunes (h : k.Sound) (hdated : k.Dated) (now : Nat) :
    Prunes k.table.datapath k.table.ageOut now k (k.prune now).1 (k.prune now).2 where
  mem_iff _ := h.mem_prune_iff hdated
  nodup := by
    rw [List.Nodup, List.pairwise_map]
    refine (List.Pairwise.and_mem.1 (h.pairwise_prune now)).imp ?_
    rintro e f ⟨he, hf, d, -, d', -, hg, hg', -, hne⟩ hticket
    -- one ticket would mean one request, with one generation
    obtain rfl := hdated.eq_of_ticket ((h.mem_prune_iff hdated).1 he).1
      ((h.mem_prune_iff hdated).1 hf).1 hticket
    exact hne (hg.trans hg'.symm)
  agedOut e he hpending := by
    refine outcome?_settleAll_of_mem _ he hpending fun f hf hticket => ?_
    exact hdated.eq_of_ticket ((h.mem_prune_iff hdated).1 hf).1
      ((h.mem_prune_iff hdated).1 he).1 hticket
  decided _ _ ho := outcome?_settleAll_of_some _ ho
  others _ hu := get?_settleAll _ hu
  find?_iff _ _ := h.find?_prune hdated
  freed e he y hy := by
    rw [← Bool.not_eq_true]
    intro hused
    obtain ⟨j, f, hf, hyf⟩ := (h.indexed.prune now).isUsed_iff.1 hused
    obtain ⟨hold, hout⟩ := (h.find?_prune hdated).1 hf
    -- whoever occupies the id still would be the request that is given up
    have hfind := ((h.mem_prune_iff hdated).1 he).1
    obtain rfl := h.indexed.apart hold hfind hyf hy
    obtain rfl := Option.some.inj (hfind.symm.trans hold)
    exact hout he
  kept y hy := by
    have hstays {j : Xid} {e : OpenRequest} (hmem : y ∈ e.xids) :
        (k.table.prune now).1.entries.find? j = some e ↔ k.table.entries.find? j = some e :=
      (h.find?_prune hdated).trans (and_iff_left fun he => hy e he hmem)
    refine ⟨Option.ext fun e => ⟨fun he => ((h.find?_prune hdated).1 he).1, fun he => ?_⟩,
      Option.ext fun j => ?_, Option.ext fun j => ?_⟩
    · exact (hstays (h.indexed.xid_eq he ▸ RequestTable.mem_xids_self e)).2 he
    · show (k.table.prune now).1.barriers.find? y = some j ↔ _
      rw [(h.indexed.prune now).barriers_iff, h.indexed.barriers_iff]
      refine exists_congr fun e => and_congr_left fun hb => ?_
      exact hstays (RequestTable.mem_xids.2 (.inr (.inl hb)))
    · show (k.table.prune now).1.writes.find? y = some j ↔ _
      rw [(h.indexed.prune now).writes_iff, h.indexed.writes_iff]
      refine exists_congr fun e => and_congr_left fun hw => ?_
      exact hstays (RequestTable.mem_xids.2 (.inr (.inr hw)))

end Prune

/-! ## Pruning again -/

/-- No open request is over. -/
def IsPruned (k : Tracker) (now : Nat) : Prop :=
  ∀ x e, k.table.entries.find? x = some e → ¬ k.IsOver k.table.ageOut now e

/-- Only a registration brings in a request. -/
theorem IsPruned.step {k' : Tracker} (h : k.IsPruned now) (hsound : k.Sound)
    (hstep : k.Step op k') (hsound' : k'.Sound) (hop : op.claim? = none) : k'.IsPruned now := by
  rintro x f hf ⟨created, hknows, hover⟩
  rcases hstep.entry_cases hsound hf with ⟨e, he, hticket, -⟩ | ⟨c, hc, -⟩
  · refine h x e he ⟨created, ?_, hstep.settings.2 ▸ hover⟩
    rw [hticket, hsound.indexed.xid_eq he, ← hsound'.indexed.xid_eq hf]
    exact hstep.knows.1 hknows
  · cases hop.symm.trans hc

/-- Nothing becomes due by what registers no request. -/
private theorem IsPruned.run (h : k.IsPruned now) (hsound : k.Sound) {ops : List Operation}
    (hops : ∀ op ∈ ops, op.claim? = none) : (k.run ops).IsPruned now := by
  induction ops generalizing k with
  | nil => exact h
  | cons op ops ih =>
    obtain ⟨hop, hrest⟩ := List.forall_mem_cons.1 hops
    have happly := hsound.apply op
    exact ih (h.step hsound (hsound.step op) happly hop) happly hrest

/-- Nothing is due after pruning. -/
private theorem Sound.isPruned_prune (h : k.Sound) (hdated : k.Dated) (now : Nat) :
    (k.prune now).1.IsPruned now := by
  rintro x e he ⟨created, hknows, hover⟩
  have hstep := h.step (.prune now)
  obtain ⟨hold, hout⟩ := (h.find?_prune hdated).1 he
  rw [h.mem_prune_iff hdated, h.indexed.xid_eq hold] at hout
  exact hout ⟨hold, created, hstep.knows.1 hknows, hstep.settings.2 ▸ hover⟩

/-- So there is nothing to prune then, nor was there before. -/
private theorem IsPruned.prune_eq_nil (h : k.IsPruned now) (hsound : k.Sound) (hdated : k.Dated)
    {earlier : Nat} (hle : earlier ≤ now) : (k.prune earlier).2 = [] := by
  refine List.eq_nil_iff_forall_not_mem.2 fun e he => ?_
  obtain ⟨hfind, created, hknows, hover⟩ := (hsound.mem_prune_iff hdated).1 he
  exact h _ e hfind ⟨created, hknows, Nat.le_trans hover hle⟩

/-! ## Runs -/

/-- An open request has the deadline of its claim, under its place in the order of admission. -/
theorem Numbers.deadline {start : Tracker} {ops : List Operation} {n : Nat} {c : Claim}
    {d : Deadline} (h : start.Numbers ops) (hdated : (start.run ops).Dated)
    (hops : ∀ op ∈ ops, op.Fits (start.run ops).ledger)
    (he : (start.run ops).table.entries.find? x = some e) (hc : start.AdmittedAs ops n c e)
    (hd : d ∈ (start.run ops).table.deadlines) (hg : d.generation = e.generation) :
    d.time = c.created + (start.run ops).table.ageOut ∧ d.generation = n + 1 := by
  obtain ⟨m, b, hm, hb⟩ := h.entry x e he
  obtain ⟨rfl, rfl⟩ := hb.unique hc
  obtain ⟨created, hknows, hdue⟩ := hdated x e he
  have hfits := knows_of_mem_admitted hops (List.mem_of_getElem? hc.get)
  obtain ⟨-, rfl⟩ := (hc.ticket ▸ hfits).unique hknows
  exact ⟨by rw [hdue d hd hg], hg.trans hm⟩

/-- After any run, pruning gives up the open requests whose time is over and leaves everything else
alone. It gives those up first whose time was over first, and of two whose time was over at once
that one which was admitted first. Until another request is registered, pruning again finds
nothing. -/
theorem prunes_run (l : Ledger) (d : DatapathId) (ageOut : Nat) (ops : List Operation)
    (hops : ∀ op ∈ ops, op.Fits l) (now : Nat) :
    let start : Tracker := ⟨l, { datapath := d, ageOut }⟩
    let k := start.run ops
    let p := k.prune now
    Prunes d ageOut now k p.1 p.2 ∧
    (∀ e ∈ p.2, ∃ n c, start.AdmittedAs ops n c e) ∧
    (p.2.Pairwise fun e f => ∀ m n c b, start.AdmittedAs ops m c e → start.AdmittedAs ops n b f →
      c.created + ageOut < b.created + ageOut ∨
        c.created + ageOut = b.created + ageOut ∧ m < n) ∧
    ∀ later earlier, (∀ op ∈ later, op.claim? = none) → earlier ≤ now →
      ((p.1.run later).prune earlier).2 = [] := by
  intro start k p
  have hstart : start.Sound := sound_new l d ageOut
  have hsound : k.Sound := hstart.run ops
  have hdated : k.Dated := (dated_new l d ageOut).run hstart hops
  -- the generation of an entry is the place of its request among those admitted
  have hnumbers : start.Numbers ops := numbers_run l d ageOut ops hops
  obtain ⟨hdatapath, hageOut⟩ : k.table.datapath = d ∧ k.table.ageOut = ageOut :=
    hstart.settings_run ops
  have hprunes := hsound.prunes hdated now
  rw [hdatapath, hageOut] at hprunes
  refine ⟨hprunes, fun e he => ?_, ?_, fun later earlier hlater hle => ?_⟩
  · obtain ⟨n, c, -, hc⟩ := hnumbers.entry _ e ((hprunes.mem_iff e).1 he).1
    exact ⟨n, c, hc⟩
  · refine (List.Pairwise.and_mem.1 (hsound.pairwise_prune now)).imp ?_
    rintro e f ⟨he, hf, a, ha, a', ha', hg, hg', hprecedes, -⟩ m n c b hc hb
    have hfits : ∀ op ∈ ops, op.Fits k.ledger := fun op hop c hc =>
      hstart.knows_run.2 (hops op hop c hc)
    obtain ⟨htime, hm⟩ :=
      hnumbers.deadline hdated hfits ((hprunes.mem_iff e).1 he).1 hc ha hg
    obtain ⟨htime', hn⟩ :=
      hnumbers.deadline hdated hfits ((hprunes.mem_iff f).1 hf).1 hb ha' hg'
    -- the order of the deadlines is the one claimed, read through what they were admitted as
    rw [Deadline.precedes_iff, htime, htime', hm, hn, show (start.run ops).table.ageOut = ageOut
      from hageOut] at hprecedes
    omega
  -- after the prune nothing is due at `now`, and without a claim it stays so
  · have hpruned : p.1.Sound := hsound.apply (.prune now)
    have hpdated : p.1.Dated :=
      hdated.step hsound (hsound.step (.prune now)) fun _ hc => nomatch hc
    have hfits : ∀ op ∈ later, op.Fits p.1.ledger := fun op hop c hc => by
      rw [hlater op hop] at hc
      cases hc
    exact ((hsound.isPruned_prune hdated now).run hpruned hlater).prune_eq_nil
      (hpruned.run later) (hpdated.run hpruned hfits) hle

/-- The deadline of a request that has ended stands before that of the next one under its id. -/
theorem prunes_run_reused :
    let l : Ledger := ⟨[{ datapath := ⟨7⟩, xid := 1, type := .echoRequest, created := 0 },
      { datapath := ⟨7⟩, xid := 1, type := .echoRequest, created := 3 },
      { datapath := ⟨7⟩, xid := 2, type := .flowMod, created := 3 },
      { datapath := ⟨7⟩, xid := 5, type := .echoRequest, created := 4 }]⟩
    let start : Tracker := ⟨l, { datapath := ⟨7⟩, ageOut := 9 }⟩
    let k := start.run [.register 0 1 0, .resolve 1 (.echoReply []), .registerBatch 2 2 3 [3] 4,
      .register 1 1 3, .register 3 5 4]
    k.table.deadlines.map (·.time) = [9, 12, 12, 13] ∧
      (k.prune 12).2.map (·.ticket) = [2, 1] ∧
      Prunes ⟨7⟩ 9 12 k (k.prune 12).1 (k.prune 12).2 ∧
      ((k.prune 12).1.prune 11).2 = [] := by
  intro l start k
  have hops : ∀ op ∈ [Operation.register 0 1 0, .resolve 1 (.echoReply []),
      .registerBatch 2 2 3 [3] 4, .register 1 1 3, .register 3 5 4], op.Fits l := by
    intro op hop c hc
    simp only [List.mem_cons, List.not_mem_nil, or_false] at hop
    rcases hop with rfl | rfl | rfl | rfl | rfl <;> cases hc <;> exact ⟨_, rfl, rfl, rfl⟩
  obtain ⟨hprunes, -, -, hagain⟩ := prunes_run l ⟨7⟩ 9 _ hops 12
  exact ⟨by decide, by decide, hprunes, hagain [] 11 nofun (by decide)⟩

end Tracker

end Southbound
