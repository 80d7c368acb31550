import Southbound.Proofs.Request.Schedule
import Southbound.Request.Tracker

/-!
# Runs of a table

`Tracker.Operation` is everything that is done to the requests of a datapath, and `Tracker.run` does
a list of it. A run keeps the maps of the table in agreement and its deadlines in order
(`Sound.run`) and all outcomes that are written down (`Sound.outcome?_run_of_some`), and it leaves
the outcome of a request alone that is not in the table and is not registered on the way
(`Absent.run`).
-/

namespace Southbound

/-! ## Claims -/

namespace Claim

/-- What a request asks for that its reply ends. -/
def plain (ticket : Ticket) (xid : Xid) (created : Nat) : Claim where
  ticket := ticket
  xid := xid
  created := created
  completion := .byReply

/-- What a write asks for that the reply to a barrier ends, with the other writes in front of that
barrier. -/
def behindBarrier (ticket : Ticket) (xid : Xid) (created : Nat) (others : List Xid)
    (barrier : Xid) : Claim where
  ticket := ticket
  xid := xid
  created := created
  completion := .byBarrier
  barrier := some barrier
  writes := others

end Claim

/-! ## Writing outcomes down -/

namespace Ledger

variable {l : Ledger} {t u : Ticket} {o : Outcome}

/-- The request is entered and has no outcome yet. -/
def IsPending (l : Ledger) (t : Ticket) : Prop := ∃ r, l.get? t = some r ∧ r.outcome = none

/-- A pending request has no outcome. -/
theorem IsPending.outcome?_eq_none (h : l.IsPending t) : l.outcome? t = none := by
  obtain ⟨r, hr, ho⟩ := h
  rw [outcome?, hr, Option.bind_some, ho]

/-- It gets the outcome that it is settled with. -/
theorem IsPending.outcome?_settle (h : l.IsPending t) (o : Outcome) :
    (l.settle t o).outcome? t = some o := by
  obtain ⟨r, hr, ho⟩ := h
  rw [outcome?, get?_settle, hr]
  simp only [Option.map_some, ↓reduceIte, Option.bind_some, Request.settle, ho]

/-- Settling one request leaves the others alone. -/
theorem get?_settle_of_ne (o : Outcome) (h : t ≠ u) : (l.settle t o).get? u = l.get? u := by
  rw [get?_settle]
  simp only [if_neg h, Option.map_id']

/-- Whether a request is pending depends on nothing but itself. -/
theorem IsPending.congr {l' : Ledger} (h : l.IsPending t) (heq : l'.get? t = l.get? t) :
    l'.IsPending t := by
  rw [IsPending, heq]
  exact h

/-- So does its outcome. -/
theorem outcome?_congr {l' : Ledger} (heq : l'.get? t = l.get? t) :
    l'.outcome? t = l.outcome? t := by
  rw [outcome?, outcome?, heq]

end Ledger

namespace Tracker

variable {l : Ledger} {u : Ticket}

/-- Settling some requests leaves the others alone. -/
theorem get?_settleAll {es : List OpenRequest} (o : OpenRequest → Outcome)
    (h : ∀ e ∈ es, e.ticket ≠ u) : (settleAll l es o).get? u = l.get? u := by
  induction es generalizing l with
  | nil => rfl
  | cons e es ih =>
    obtain ⟨he, hes⟩ := List.forall_mem_cons.1 h
    show (settleAll (l.settle e.ticket (o e)) es o).get? u = _
    rw [ih hes, Ledger.get?_settle_of_ne _ he]

/-- An outcome that is written down stays. -/
theorem outcome?_settleAll_of_some {es : List OpenRequest} (o : OpenRequest → Outcome)
    {p : Outcome} (h : l.outcome? u = some p) : (settleAll l es o).outcome? u = some p := by
  induction es generalizing l with
  | nil => exact h
  | cons e es ih => exact ih (Ledger.outcome?_settle_of_some _ _ h)

/-- Of several requests each gets its own outcome, if no two share a ticket. -/
theorem outcome?_settleAll_of_mem {es : List OpenRequest} {e : OpenRequest}
    (o : OpenRequest → Outcome) (he : e ∈ es) (hp : l.IsPending e.ticket)
    (halone : ∀ f ∈ es, f.ticket = e.ticket → f = e) :
    (settleAll l es o).outcome? e.ticket = some (o e) := by
  induction es generalizing l with
  | nil => cases he
  | cons f es ih =>
    obtain ⟨hf, hes⟩ := List.forall_mem_cons.1 halone
    show (settleAll (l.settle f.ticket (o f)) es o).outcome? e.ticket = _
    -- settled by its own entry, and by no other with its ticket
    by_cases hticket : f.ticket = e.ticket
    · rw [hf hticket]
      exact outcome?_settleAll_of_some o (hp.outcome?_settle _)
    · have hne : e ≠ f := fun h => hticket (by rw [h])
      have hget := Ledger.get?_settle_of_ne (l := l) (o f) hticket
      exact ih (List.mem_of_ne_of_mem hne he) (hp.congr hget) hes

/-! ## Operations -/

/-- What is done to the requests of a table. -/
inductive Operation where
  /-- Tracks a request that its reply ends. -/
  | register (ticket : Ticket) (xid : Xid) (created : Nat)
  /-- Tracks a write that the reply to a barrier ends. -/
  | registerWithBarrier (ticket : Ticket) (xid : Xid) (created : Nat) (barrier : Xid)
  /-- Tracks several writes in front of one barrier. -/
  | registerBatch (ticket : Ticket) (xid : Xid) (created : Nat) (others : List Xid) (barrier : Xid)
  /-- Offers a message. -/
  | resolve (xid : Xid) (message : Message)
  | remove (xid : Xid)
  | prune (now : Nat)
  | failAll

/-- The claim of a request that is to be tracked. -/
def Operation.claim? : Operation → Option Claim
  | register ticket xid created => some (.plain ticket xid created)
  | registerWithBarrier ticket xid created barrier =>
    some (.behindBarrier ticket xid created [] barrier)
  | registerBatch ticket xid created others barrier =>
    some (.behindBarrier ticket xid created others barrier)
  | _ => none

def apply (k : Tracker) : Operation → Tracker
  | .register ticket xid created => (k.register (.plain ticket xid created)).1
  | .registerWithBarrier ticket xid created barrier =>
    (k.register (.behindBarrier ticket xid created [] barrier)).1
  | .registerBatch ticket xid created others barrier =>
    (k.register (.behindBarrier ticket xid created others barrier)).1
  | .resolve x m => (k.resolve x m).1
  | .remove x => (k.remove x).1
  | .prune now => (k.prune now).1
  | .failAll => k.failAll.1

def run (k : Tracker) (ops : List Operation) : Tracker := ops.foldl apply k

/-- The tickets of the requests that are registered, in order. -/
def tickets (ops : List Operation) : List Ticket :=
  ops.filterMap fun op => op.claim?.map (·.ticket)

variable {k : Tracker} {op : Operation}

@[simp] theorem run_nil (k : Tracker) : k.run [] = k := rfl

@[simp] theorem run_cons (k : Tracker) (op : Operation) (ops : List Operation) :
    k.run (op :: ops) = (k.apply op).run ops := rfl

/-- Operations can be done in two parts. -/
theorem run_append (k : Tracker) (before after : List Operation) :
    k.run (before ++ after) = (k.run before).run after := List.foldl_append

/-- The tickets of two parts are put one behind the other. -/
theorem tickets_append (before after : List Operation) :
    tickets (before ++ after) = tickets before ++ tickets after := List.filterMap_append

/-- An operation with a claim has a ticket. -/
theorem tickets_cons_of_claim? {c : Claim} {ops : List Operation} (h : op.claim? = some c) :
    tickets (op :: ops) = c.ticket :: tickets ops :=
  List.filterMap_cons_some (by rw [h]; rfl)

/-- A ticket is that of the first operation, or one of the others. -/
theorem mem_tickets_cons {ops : List Operation} :
    u ∈ tickets (op :: ops) ↔ (∃ c, op.claim? = some c ∧ c.ticket = u) ∨ u ∈ tickets ops := by
  simp only [tickets, List.mem_filterMap, List.mem_cons, exists_eq_or_imp, Option.map_eq_some_iff]

/-- An operation with a claim registers it. -/
theorem apply_of_claim? {c : Claim} (h : op.claim? = some c) : k.apply op = (k.register c).1 := by
  cases op <;> cases h <;> rfl

/-! ## What an operation does to the table -/

/-- A claim is entered as it stands, or the table stays and the new request fails. -/
theorem register_cases (k : Tracker) (c : Claim) :
    (k.table.conflict? c = none ∧ k.register c = (⟨k.ledger, k.table.enroll c⟩, .ok ())) ∨
    ∃ f, k.register c = (⟨k.ledger.settle c.ticket (.failed f), k.table⟩, .error f) := by
  unfold register RequestTable.insert
  cases k.table.conflict? c with
  | none => exact .inl ⟨rfl, rfl⟩
  | some x => exact .inr ⟨_, rfl⟩

/-- Everything an operation can do. -/
inductive Step (k : Tracker) : Operation → Tracker → Prop
  | enrolled {op : Operation} {c : Claim} (hop : op.claim? = some c)
      (hc : k.table.conflict? c = none) : Step k op ⟨k.ledger, k.table.enroll c⟩
  | rejected {op : Operation} {c : Claim} (hop : op.claim? = some c) (f : Failure) :
      Step k op ⟨k.ledger.settle c.ticket (.failed f), k.table⟩
  | settled {x j : Xid} {m : Message} {e : OpenRequest} {o : Outcome}
      (he : k.table.entries.find? j = some e) (hends : e.EndsBy x m o) :
      Step k (.resolve x m) ⟨k.ledger.settle e.ticket o, (k.table.remove j).1⟩
  | continued {x : Xid} {m : Message} {e : OpenRequest} {r : MultipartReply}
      (h : k.table.Continues x m e r) :
      Step k (.resolve x m) ⟨k.ledger, { k.table with
        entries := k.table.entries.put x (RequestTable.withFragment e r) }⟩
  | ignored {x : Xid} {m : Message}
      (hends : ∀ j e o, k.table.entries.find? j = some e → ¬ e.EndsBy x m o)
      (hcont : ∀ e r, ¬ k.table.Continues x m e r) : Step k (.resolve x m) k
  | removed {x : Xid} : Step k (.remove x) ⟨k.ledger, (k.table.remove x).1⟩
  | pruned {now : Nat} : Step k (.prune now)
      ⟨settleAll k.ledger ((k.table.passed now).filterMap k.table.live?) fun e =>
        .failed (.agedOut k.table.datapath e.xid), (k.table.prune now).1⟩
  | cleared : Step k .failAll
      ⟨settleAll k.ledger k.table.entries.values fun _ =>
        .failed (.disconnected k.table.datapath), k.table.clear.1⟩

/-- The maps of the table agree and its deadlines are in order. -/
structure Sound (k : Tracker) : Prop where
  indexed : k.table.Indexed
  scheduled : k.table.Scheduled

/-- An operation does one of the things that there are. -/
theorem Sound.step (h : k.Sound) (op : Operation) : k.Step op (k.apply op) := by
  -- the three registrations are alike up to their claims
  cases hop : op.claim? with
  | some c =>
    rw [apply_of_claim? hop]
    rcases k.register_cases c with ⟨hc, heq⟩ | ⟨f, heq⟩
    · rw [heq]
      exact .enrolled hop hc
    · rw [heq]
      exact .rejected hop f
  | none =>
    cases op with
    | register | registerWithBarrier | registerBatch => cases hop
    | resolve x m =>
      have heff := h.indexed.effect_onMessage x m
      show k.Step _ (k.resolve x m).1
      unfold resolve
      generalize k.table.onMessage x m = p at heff
      cases heff with
      | ends he hends => exact .settled he hends
      | continues hc => exact .continued hc
      | nothing hends hcont => exact .ignored hends hcont
    | remove x => exact .removed
    | prune now =>
      have hevicted := h.scheduled.prune_snd now
      show k.Step _ (k.prune now).1
      unfold prune
      simp only [hevicted]
      exact .pruned
    | failAll => exact .cleared

/-- An empty table is sound. -/
theorem sound_new (l : Ledger) (d : DatapathId) (ageOut : Nat) :
    Sound ⟨l, { datapath := d, ageOut }⟩ :=
  ⟨RequestTable.indexed_new d ageOut, RequestTable.scheduled_new d ageOut⟩

/-- Every operation keeps a table sound. -/
theorem Sound.apply (h : k.Sound) (op : Operation) : (k.apply op).Sound := by
  have hstep := h.step op
  generalize k.apply op = k' at hstep
  -- each operation keeps both halves of the invariant
  cases hstep with
  | enrolled _ hc => exact ⟨h.indexed.enroll hc, h.scheduled.enroll _⟩
  | rejected => exact ⟨h.indexed, h.scheduled⟩
  | settled => exact ⟨h.indexed.remove _, h.scheduled.remove _⟩
  | continued hc =>
    exact ⟨h.indexed.withFragment hc.find? _, h.scheduled.withFragment hc.find? _⟩
  | ignored => exact h
  | removed => exact ⟨h.indexed.remove _, h.scheduled.remove _⟩
  | pruned => exact ⟨h.indexed.prune _, h.scheduled.prune _⟩
  | cleared => exact ⟨RequestTable.indexed_clear _, RequestTable.scheduled_clear _⟩

/-- By induction, so does every run. -/
theorem Sound.run (h : k.Sound) (ops : List Operation) : (k.run ops).Sound := by
  induction ops generalizing k with
  | nil => exact h
  | cons op ops ih => exact ih (h.apply op)

/-- Whose requests they are and how long they may take does not change. -/
theorem Step.settings {k' : Tracker} (h : k.Step op k') :
    k'.table.datapath = k.table.datapath ∧ k'.table.ageOut = k.table.ageOut := by
  cases h with
  | enrolled | rejected | continued | ignored | cleared => exact ⟨rfl, rfl⟩
  | settled | removed =>
    exact ⟨RequestTable.datapath_remove _, RequestTable.ageOut_remove _⟩
  | pruned => exact ⟨RequestTable.datapath_prune _, RequestTable.ageOut_prune _⟩

/-- The datapath of a table and the time its requests have are what they were. -/
theorem Sound.settings_run (h : k.Sound) (ops : List Operation) :
    (k.run ops).table.datapath = k.table.datapath ∧ (k.run ops).table.ageOut = k.table.ageOut := by
  induction ops generalizing k with
  | nil => exact ⟨rfl, rfl⟩
  | cons op ops ih =>
    obtain ⟨hd, ha⟩ := ih (h.apply op)
    obtain ⟨hd', ha'⟩ := (h.step op).settings
    exact ⟨hd.trans hd', ha.trans ha'⟩

/-! ## Outcomes stay -/

/-- An outcome that is written down stays. -/
theorem Step.outcome?_of_some {k' : Tracker} (h : k.Step op k') {o : Outcome}
    (ho : k.ledger.outcome? u = some o) : k'.ledger.outcome? u = some o := by
  cases h with
  | enrolled | continued | ignored | removed => exact ho
  | rejected | settled => exact Ledger.outcome?_settle_of_some _ _ ho
  | pruned | cleared => exact outcome?_settleAll_of_some _ ho

/-- An outcome that is written down stays in every run. -/
theorem Sound.outcome?_run_of_some (h : k.Sound) {o : Outcome}
    (ho : k.ledger.outcome? u = some o) (ops : List Operation) :
    (k.run ops).ledger.outcome? u = some o := by
  induction ops generalizing k with
  | nil => exact ho
  | cons op ops ih => exact ih (h.apply op) ((h.step op).outcome?_of_some ho)

/-! ## Requests that are not open -/

/-- No open request has the ticket. -/
def Absent (k : Tracker) (u : Ticket) : Prop :=
  ∀ {j : Xid} {e : OpenRequest}, k.table.entries.find? j = some e → e.ticket ≠ u

/-- What becomes of a request that is not open does not depend on what is done to the others. -/
theorem Absent.step {k' : Tracker} (h : k.Absent u) (hsound : k.Sound) (hstep : k.Step op k')
    (hop : ∀ c, op.claim? = some c → c.ticket ≠ u) :
    k'.Absent u ∧ k'.ledger.get? u = k.ledger.get? u := by
  -- an absent request is in no entry, so nothing that ends entries settles it
  cases hstep with
  | enrolled hc _ =>
    refine ⟨?_, rfl⟩
    intro j e he
    rw [RequestTable.entries_enroll, Keyed.find?_put] at he
    split at he
    · rw [← Option.some.inj he]
      exact hop _ hc
    · exact h he
  | rejected hc f => exact ⟨h, Ledger.get?_settle_of_ne _ (hop _ hc)⟩
  | settled he _ =>
    exact ⟨fun hf => h (RequestTable.find?_remove_eq_some.1 hf).2,
      Ledger.get?_settle_of_ne _ (h he)⟩
  | continued hc =>
    refine ⟨?_, rfl⟩
    intro j f hf
    have hticket := h hc.find?
    rw [Keyed.find?_put] at hf
    split at hf
    · rw [← Option.some.inj hf]
      exact hticket
    · exact h hf
  | ignored => exact ⟨h, rfl⟩
  | removed => exact ⟨fun hf => h (RequestTable.find?_remove_eq_some.1 hf).2, rfl⟩
  | pruned =>
    refine ⟨fun hf => h (hsound.scheduled.find?_prune.1 hf).1, get?_settleAll _ ?_⟩
    intro e he
    obtain ⟨d, -, hlive⟩ := List.mem_filterMap.1 he
    exact h (RequestTable.live?_eq_some_iff.1 hlive).1
  | cleared =>
    refine ⟨fun hf => by simp [RequestTable.clear] at hf, get?_settleAll _ ?_⟩
    intro e he
    obtain ⟨j, hj⟩ := (Keyed.mem_values hsound.indexed.ordered).1 he
    exact h hj

/-- A request that is not open stays so, with its outcome, until its ticket is used again. -/
theorem Absent.run (h : k.Absent u) (hsound : k.Sound) {ops : List Operation}
    (hops : u ∉ tickets ops) :
    (k.run ops).Absent u ∧ (k.run ops).ledger.get? u = k.ledger.get? u := by
  induction ops generalizing k with
  | nil => exact ⟨h, rfl⟩
  | cons op ops ih =>
    rw [mem_tickets_cons, not_or] at hops
    obtain ⟨habsent, hget⟩ :=
      h.step hsound (hsound.step op) fun c hc heq => hops.1 ⟨c, hc, heq⟩
    obtain ⟨habsent', hget'⟩ := ih habsent (hsound.apply op) hops.2
    exact ⟨habsent', hget'.trans hget⟩

end Tracker

end Southbound
