import Mathlib.Logic.Relation
import Southbound.Controller.State
import Southbound.Proofs.Request.Operation

/-!
# Keeping account of requests

A `Book` is what a controller knows of requests: the ledger, the tables of open requests, and which
datapaths are registered. Whatever is done to it, a request is open in a table or has an outcome,
and a request that has left the table it was open in has one; only a registered datapath has open
requests (`Book.Sound.steps`). `Book.Enters` is what can come of a request when it is made.
-/

namespace Southbound

open Relation (ReflTransGen)

/-- The failure of a request whose transaction ids are not free. -/
def Failure.isDuplicate : Failure → Bool
  | .duplicateXid .. => true
  | _ => false

/-! ## One table -/

namespace Ledger

variable {l : Ledger} {t u : Ticket}

/-- Settling a request makes none known and none unknown. -/
private theorem exists_settle (o : Outcome) :
    (∃ r, (l.settle t o).get? u = some r) ↔ ∃ r, l.get? u = some r := by
  simp only [get?_settle, Option.map_eq_some_iff]
  exact ⟨fun ⟨_, r, hr, _⟩ => ⟨r, hr⟩, fun ⟨r, hr⟩ => ⟨_, r, hr, rfl⟩⟩

/-- A request that is settled has an outcome, if not the one it is settled with. -/
theorem decided_settle (o : Outcome) (h : ∃ r, l.get? u = some r) :
    ∃ p, (l.settle u o).outcome? u = some p := by
  obtain ⟨r, hr⟩ := h
  cases hp : l.outcome? u with
  | some p => exact ⟨p, outcome?_settle_of_some u o hp⟩
  | none =>
    rw [outcome?, hr, Option.bind_some] at hp
    exact ⟨o, IsPending.outcome?_settle ⟨r, hr, hp⟩ o⟩

/-- A new request leaves the others as they are. -/
theorem get?_enter_of_some {r q : Request} (h : l.get? u = some q) :
    (l.enter r).1.get? u = some q := by
  obtain ⟨hlt, -⟩ := List.getElem?_eq_some_iff.1 h
  exact (List.getElem?_append_left hlt).trans h

/-- A new request is found under its ticket. -/
theorem get?_enter_self (r : Request) : (l.enter r).1.get? (l.enter r).2 = some r :=
  List.getElem?_concat_length

/-- An outcome stays when a new request is entered. -/
private theorem outcome?_enter_of_some {r : Request} {o : Outcome} (h : l.outcome? u = some o) :
    (l.enter r).1.outcome? u = some o := by
  obtain ⟨q, hq, ho⟩ := Option.bind_eq_some_iff.1 h
  rw [outcome?, get?_enter_of_some hq]
  exact ho

/-- A request is entered and settled at once, or another one is settled. -/
theorem exists_settle_enter (r : Request) (o : Outcome) (h : ∃ q, l.get? u = some q) :
    ∃ q, ((l.enter r).1.settle t o).get? u = some q :=
  (exists_settle o).2 (h.imp fun _ => get?_enter_of_some)

/-- An outcome stays when a new request is entered and settled. -/
private theorem outcome?_settle_enter (r : Request) (o : Outcome) {p : Outcome}
    (h : l.outcome? u = some p) : ((l.enter r).1.settle t o).outcome? u = some p :=
  outcome?_settle_of_some t o (outcome?_enter_of_some h)

/-- The new request is the only one that was not there. -/
theorem eq_of_get?_enter {r q : Request} (h : (l.enter r).1.get? u = some q) :
    l.get? u = some q ∨ u = (l.enter r).2 := by
  by_cases hlt : u < l.requests.length
  · exact .inl ((List.getElem?_append_left hlt).symm.trans h)
  · obtain ⟨hle, -⟩ := List.getElem?_eq_some_iff.1 h
    rw [enter, List.length_append, List.length_singleton] at hle
    exact .inr (Nat.le_antisymm (Nat.le_of_lt_succ hle) (Nat.not_lt.1 hlt))

end Ledger

namespace RequestTable

variable {t : RequestTable} {u : Ticket} {c : Claim} {x y : Xid}

/-- A request with the ticket is open. -/
def Lists (t : RequestTable) (u : Ticket) : Prop :=
  ∃ x e, t.entries.find? x = some e ∧ e.ticket = u

/-- A table in which nobody is listed is empty. -/
theorem eq_nil_of_lists (h : ∀ u, ¬ t.Lists u) : t.entries = [] := by
  cases hentries : t.entries with
  | nil => rfl
  | cons e es =>
    refine absurd ⟨e.1, e.2, ?_, rfl⟩ (h e.2.ticket)
    rw [hentries, Keyed.find?_cons, if_pos rfl]

/-- A request that is enrolled is open. -/
private theorem lists_enroll_self (t : RequestTable) (c : Claim) : (t.enroll c).Lists c.ticket :=
  ⟨c.xid, _, (Keyed.find?_put _ _ _ _).trans (if_pos rfl), rfl⟩

/-- What is open stays open when a request with free ids is enrolled. -/
private theorem Lists.enroll (h : t.Lists u) (hindexed : t.Indexed) (hc : t.conflict? c = none) :
    (t.enroll c).Lists u := by
  obtain ⟨x, e, he, rfl⟩ := h
  refine ⟨x, e, ?_, rfl⟩
  rw [entries_enroll, Keyed.find?_put, if_neg, he]
  rintro rfl
  rw [hindexed.find?_of_conflict? hc] at he
  cases he

/-- Nobody but the new request is added. -/
theorem Lists.of_enroll (h : (t.enroll c).Lists u) : u = c.ticket ∨ t.Lists u := by
  obtain ⟨x, e, he, rfl⟩ := h
  rw [entries_enroll, Keyed.find?_put] at he
  split at he
  · exact .inl (congrArg (·.ticket) (Option.some.inj he)).symm
  · exact .inr ⟨x, e, he, rfl⟩

/-- Whoever takes out at once what was entered leaves the requests that were open. -/
theorem lists_remove_enroll (hindexed : t.Indexed) (hc : t.conflict? c = none) :
    ((t.enroll c).remove c.xid).1.Lists u ↔ t.Lists u := by
  have hfind (x : Xid) :
      ((t.enroll c).remove c.xid).1.entries.find? x = t.entries.find? x := by
    rw [find?_entries_remove]
    split
    · next hx => rw [hx, hindexed.find?_of_conflict? hc]
    · next hx => rw [entries_enroll, Keyed.find?_put, if_neg hx]
  simp only [Lists, hfind]

/-- The open request with the ticket has the transaction id. -/
def Occupies (t : RequestTable) (u : Ticket) (x : Xid) : Prop :=
  ∃ y e, t.entries.find? y = some e ∧ e.ticket = u ∧ x ∈ e.xids

/-- A request is open if some transaction id is its own. -/
theorem lists_iff : t.Lists u ↔ ∃ x, t.Occupies u x :=
  ⟨fun ⟨y, e, he, hu⟩ => ⟨e.xid, y, e, he, hu, mem_xids_self e⟩,
    fun ⟨_, y, e, he, hu, _⟩ => ⟨y, e, he, hu⟩⟩

/-- An id in use after a request was enrolled was in use before or is one of its own. -/
theorem Occupies.of_enroll (h : (t.enroll c).Occupies u x) :
    t.Occupies u x ∨ u = c.ticket ∧ x ∈ c.xids := by
  obtain ⟨y, e, he, rfl, hx⟩ := h
  rw [entries_enroll, Keyed.find?_put] at he
  split at he
  · obtain rfl := Option.some.inj he
    exact .inr ⟨rfl, hx⟩
  · exact .inl ⟨y, e, he, rfl, hx⟩

/-- An id in use after a removal was in use before. -/
theorem Occupies.of_remove (h : (t.remove y).1.Occupies u x) : t.Occupies u x := by
  obtain ⟨z, e, he, hu, hx⟩ := h
  exact ⟨z, e, (find?_remove_eq_some.1 he).2, hu, hx⟩

end RequestTable

namespace Tracker

variable {k k' : Tracker} {u : Ticket}

/-- The request with the ticket is open or has an outcome. -/
structure Accounts (k : Tracker) (u : Ticket) : Prop where
  known : ∃ r, k.ledger.get? u = some r
  accounted : k.table.Lists u ∨ ∃ o, k.ledger.outcome? u = some o

/-- Settling requests makes none known and none unknown. -/
private theorem exists_settleAll {l : Ledger} {es : List OpenRequest} (o : OpenRequest → Outcome) :
    (∃ r, (settleAll l es o).get? u = some r) ↔ ∃ r, l.get? u = some r := by
  induction es generalizing l with
  | nil => exact Iff.rfl
  | cons e es ih => exact ih.trans (Ledger.exists_settle _)

/-- Of several requests that are settled each has an outcome. -/
theorem decided_settleAll {l : Ledger} {es : List OpenRequest} {e : OpenRequest}
    (o : OpenRequest → Outcome) (he : e ∈ es) (h : ∃ r, l.get? e.ticket = some r) :
    ∃ p, (settleAll l es o).outcome? e.ticket = some p := by
  induction es generalizing l with
  | nil => cases he
  | cons f es ih =>
    rcases List.mem_cons.1 he with rfl | he
    · obtain ⟨p, hp⟩ := Ledger.decided_settle (o e) h
      exact ⟨p, @outcome?_settleAll_of_some _ _ es o _ hp⟩
    · exact ih he ((Ledger.exists_settle _).2 h)

/-- Nothing is entered, and nothing that was written down is lost. -/
theorem Step.ledger {op : Operation} (hstep : k.Step op k') :
    ((∃ r, k'.ledger.get? u = some r) ↔ ∃ r, k.ledger.get? u = some r) ∧
      ∀ o, k.ledger.outcome? u = some o → k'.ledger.outcome? u = some o := by
  refine ⟨?_, fun _ => hstep.outcome?_of_some⟩
  cases hstep with
  | enrolled | continued | ignored | removed => exact Iff.rfl
  | rejected | settled => exact Ledger.exists_settle _
  | pruned | cleared => exact exists_settleAll _

/-- A request that leaves the table gets an outcome, unless it is forgotten. -/
theorem Accounts.step {op : Operation} (h : k.Accounts u) (hsound : k.Sound) (hstep : k.Step op k')
    (hop : ∀ x, op ≠ .remove x) : k'.Accounts u := by
  obtain ⟨hledger, hkept⟩ := hstep.ledger (u := u)
  -- an open request has an entry, a decided one an outcome, and outcomes stay
  obtain ⟨hknown, ⟨x, e, he, rfl⟩ | ⟨o, ho⟩⟩ := h
  · refine ⟨hledger.2 hknown, ?_⟩
    cases hstep with
    | enrolled hclaim hc => exact .inl (RequestTable.Lists.enroll ⟨x, e, he, rfl⟩ hsound.indexed hc)
    | rejected | ignored => exact .inl ⟨x, e, he, rfl⟩
    | @settled _ j _ f o hf _ =>
      by_cases hx : x = j
      · subst hx
        obtain rfl : e = f := Option.some.inj (he.symm.trans hf)
        exact .inr (Ledger.decided_settle o hknown)
      · exact .inl ⟨x, e, RequestTable.find?_remove_eq_some.2 ⟨hx, he⟩, rfl⟩
    | @continued y _ f r hcont =>
      by_cases hx : x = y
      · subst hx
        obtain rfl : e = f := Option.some.inj (he.symm.trans hcont.find?)
        exact .inl ⟨x, _, (Keyed.find?_put _ _ _ _).trans (if_pos rfl), rfl⟩
      · exact .inl ⟨x, e, (Keyed.find?_put _ _ _ _).trans ((if_neg hx).trans he), rfl⟩
    | removed => exact absurd rfl (hop _)
    | @pruned now =>
      -- pruned exactly if one of its own deadlines has passed
      by_cases hdue : ∃ d ∈ k.table.deadlines, d.xid = x ∧ d.generation = e.generation ∧
          d.time ≤ now
      · obtain ⟨d, hd, rfl, hg, htime⟩ := hdue
        refine .inr (decided_settleAll _ ?_ hknown)
        exact List.mem_filterMap.2 ⟨d, hsound.scheduled.mem_passed.2 ⟨hd, htime⟩,
          RequestTable.live?_eq_some_iff.2 ⟨he, hg.symm⟩⟩
      · refine .inl ⟨x, e, hsound.scheduled.find?_prune.2 ⟨he, fun d hd hx hg => ?_⟩, rfl⟩
        exact Nat.not_le.1 fun htime => hdue ⟨d, hd, hx, hg, htime⟩
    | cleared =>
      exact .inr (decided_settleAll _ ((Keyed.mem_values hsound.indexed.ordered).2 ⟨x, he⟩) hknown)
  · exact ⟨hledger.2 hknown, .inr ⟨o, hkept o ho⟩⟩

/-- Ids are given out to claims alone. -/
theorem Step.occupies {op : Operation} {x : Xid} (hstep : k.Step op k') (hsound : k.Sound)
    (hop : op.claim? = none) (h : k'.table.Occupies u x) : k.table.Occupies u x := by
  -- without a claim an id is only ever freed
  cases hstep with
  | enrolled hclaim => cases hop.symm.trans hclaim
  | rejected | ignored => exact h
  | settled | removed => exact h.of_remove
  | @continued y _ f r hcont =>
    obtain ⟨z, e, he, hu, hx⟩ := h
    rw [Keyed.find?_put] at he
    split at he
    · obtain rfl := Option.some.inj he
      exact ⟨y, f, hcont.find?, hu, hx⟩
    · exact ⟨z, e, he, hu, hx⟩
  | pruned =>
    obtain ⟨z, e, he, hu, hx⟩ := h
    exact ⟨z, e, (hsound.scheduled.find?_prune.1 he).1, hu, hx⟩
  | cleared =>
    obtain ⟨z, e, he, -⟩ := h
    exact absurd he (by simp [RequestTable.clear])

/-- So requests are opened by claims alone. -/
theorem Step.lists {op : Operation} (hstep : k.Step op k') (hsound : k.Sound)
    (hop : op.claim? = none) (h : k'.table.Lists u) : k.table.Lists u := by
  obtain ⟨x, hx⟩ := RequestTable.lists_iff.1 h
  exact RequestTable.lists_iff.2 ⟨x, hstep.occupies hsound hop hx⟩

end Tracker

/-! ## All tables -/

/-- What a controller knows of requests. -/
@[ext]
structure Book where
  ledger : Ledger
  /-- The open requests of the datapath of a connection. -/
  table? : LinkId → Option RequestTable
  /-- The connection is the main one of a registered datapath. -/
  isRegistered : LinkId → Prop

namespace Book

variable {b b' : Book} {m : LinkId} {u : Ticket}

/-- The ledger and the table of connection `m` are those of `k`. -/
def put (b : Book) (m : LinkId) (k : Tracker) : Book :=
  { b with ledger := k.ledger, table? := fun j => if j = m then some k.table else b.table? j }

/-- What is done to the requests of a controller. -/
inductive Step : Book → Book → Prop
  /-- A switch introduces itself. -/
  | introduce {b : Book} {m : LinkId} (hm : ¬ b.isRegistered m) (d : DatapathId) (ageOut : Nat) :
      Step b (b.put m ⟨b.ledger, { datapath := d, ageOut }⟩)
  /-- A datapath is registered. -/
  | enlist {b : Book} {m : LinkId} {isRegistered : LinkId → Prop}
      (hreg : ∀ j, isRegistered j ↔ j = m ∨ b.isRegistered j) : Step b { b with isRegistered }
  /-- A datapath goes, and its requests fail. -/
  | retire {b : Book} {m : LinkId} {t : RequestTable} {isRegistered : LinkId → Prop}
      (ht : b.table? m = some t) (hreg : ∀ j, isRegistered j ↔ j ≠ m ∧ b.isRegistered j) :
      Step b { b.put m (Tracker.failAll ⟨b.ledger, t⟩).1 with isRegistered }
  | resolve {b : Book} {m : LinkId} {t : RequestTable} (ht : b.table? m = some t) (x : Xid)
      (message : Message) : Step b (b.put m (Tracker.resolve ⟨b.ledger, t⟩ x message).1)
  | prune {b : Book} {m : LinkId} {t : RequestTable} (ht : b.table? m = some t) (now : Nat) :
      Step b (b.put m (Tracker.prune ⟨b.ledger, t⟩ now).1)
  /-- A request to a registered datapath is made. -/
  | enroll {b : Book} {m : LinkId} {t : RequestTable} {c : Claim} (ht : b.table? m = some t)
      (hm : b.isRegistered m) (hc : t.conflict? c = none) (r : Request)
      (hticket : c.ticket = (b.ledger.enter r).2) :
      Step b (b.put m ⟨(b.ledger.enter r).1, t.enroll c⟩)
  /-- A request is made under a transaction id that is not free. -/
  | reject {b : Book} {m : LinkId} {t : RequestTable} (ht : b.table? m = some t) (r : Request)
      (f : Failure) :
      Step b (b.put m ⟨(b.ledger.enter r).1.settle (b.ledger.enter r).2 (.failed f), t⟩)
  /-- A request is made and cannot be sent. -/
  | abort {b : Book} {m : LinkId} {t : RequestTable} {c : Claim} (ht : b.table? m = some t)
      (hc : t.conflict? c = none) (r : Request) (f : Failure)
      (hticket : c.ticket = (b.ledger.enter r).2) :
      Step b (b.put m ⟨(b.ledger.enter r).1.settle c.ticket (.failed f),
        ((t.enroll c).remove c.xid).1⟩)

/-- What can be in the books when a request has been made to the datapath whose connection is `m`
and whose table was `t`; `Q` if its frames are queued. -/
inductive Enters (b : Book) (m : LinkId) (t : RequestTable) (c : Claim) (r : Request) (Q : Prop) :
    Book → Prop
  /-- Its ids are not free. -/
  | refused {x : Xid} (hc : t.conflict? c = some x) : Enters b m t c r Q
      (b.put m ⟨(b.ledger.enter r).1.settle c.ticket (.failed (.duplicateXid t.datapath x)), t⟩)
  | entered (hc : t.conflict? c = none) (hq : Q) :
      Enters b m t c r Q (b.put m ⟨(b.ledger.enter r).1, t.enroll c⟩)
  /-- It could not be sent. -/
  | withdrawn (hc : t.conflict? c = none) {e : Failure} (he : e.isDuplicate = false) :
      Enters b m t c r Q (b.put m ⟨(b.ledger.enter r).1.settle c.ticket (.failed e),
        ((t.enroll c).remove c.xid).1⟩)

/-- What comes of a request is a step of the books, if frames are queued only for a registered
datapath. -/
theorem Enters.step {t : RequestTable} {c : Claim} {r : Request} {Q : Prop}
    (h : b.Enters m t c r Q b') (ht : b.table? m = some t)
    (hticket : c.ticket = (b.ledger.enter r).2) (hm : Q → b.isRegistered m) : Step b b' := by
  cases h with
  | refused => exact hticket ▸ .reject ht r _
  | entered hc hq => exact .enroll ht (hm hq) hc r hticket
  | withdrawn hc => exact .abort ht hc r _ hticket

/-- The request with the ticket is open in the table of connection `m`, or has an outcome. -/
structure Accounts (b : Book) (m : LinkId) (u : Ticket) : Prop where
  known : ∃ r, b.ledger.get? u = some r
  accounted : (∃ t, b.table? m = some t ∧ t.Lists u) ∨ ∃ o, b.ledger.outcome? u = some o

/-- No request hangs. -/
structure Sound (b : Book) : Prop where
  indexed : ∀ {m t}, b.table? m = some t → t.Indexed
  scheduled : ∀ {m t}, b.table? m = some t → t.Scheduled
  /-- Only registered datapaths have open requests. -/
  listed : ∀ {m t u}, b.table? m = some t → t.Lists u →
    b.isRegistered m ∧ ∃ r, b.ledger.get? u = some r
  accounted : ∀ {u r}, b.ledger.get? u = some r → ∃ m, b.Accounts m u

/-- Each table of sound books is a sound tracker. -/
theorem Sound.tracker (h : b.Sound) {t : RequestTable} (ht : b.table? m = some t) :
    Tracker.Sound ⟨b.ledger, t⟩ := ⟨h.indexed ht, h.scheduled ht⟩

section Put

variable {k : Tracker} {t : RequestTable}

/-- The request of a datapath that nothing was done to. -/
theorem Accounts.put_of_ne {j : LinkId} (h : b.Accounts j u) (hj : j ≠ m)
    (hknown : (∃ r, b.ledger.get? u = some r) → ∃ r, k.ledger.get? u = some r)
    (hkept : ∀ o, b.ledger.outcome? u = some o → k.ledger.outcome? u = some o) :
    (b.put m k).Accounts j u := by
  refine ⟨hknown h.known, h.accounted.imp ?_ (Exists.imp hkept)⟩
  rintro ⟨t, ht, hlists⟩
  exact ⟨t, (if_neg hj).trans ht, hlists⟩

/-- A table accounts for a request if the tracker that took its place does. -/
private theorem accounts_put_self (h : k.Accounts u) : (b.put m k).Accounts m u :=
  ⟨h.known, h.accounted.imp_left fun hlists => ⟨k.table, if_pos rfl, hlists⟩⟩

/-- A request that the books account for is accounted for by its table. -/
private theorem Accounts.tracker (h : b.Accounts m u) (ht : b.table? m = some t) :
    Tracker.Accounts ⟨b.ledger, t⟩ u := by
  refine ⟨h.known, h.accounted.imp_left ?_⟩
  rintro ⟨t', ht', hlists⟩
  obtain rfl : t = t' := Option.some.inj (ht.symm.trans ht')
  exact hlists

/-- Something is done to one table, and every request stays accounted for. -/
theorem Accounts.put {j : LinkId} (h : b.Accounts j u) (ht : b.table? m = some t)
    (hself : Tracker.Accounts ⟨b.ledger, t⟩ u → k.Accounts u)
    (hknown : (∃ r, b.ledger.get? u = some r) → ∃ r, k.ledger.get? u = some r)
    (hkept : ∀ o, b.ledger.outcome? u = some o → k.ledger.outcome? u = some o) :
    (b.put m k).Accounts j u := by
  by_cases hj : j = m
  · subst hj
    exact accounts_put_self (hself (h.tracker ht))
  · exact h.put_of_ne hj hknown hkept

end Put

/-- Whatever is done, a request that was open somewhere is open there or has an outcome. -/
theorem Accounts.step {j : LinkId} (h : b.Accounts j u) (hsound : b.Sound) (hstep : Step b b') :
    b'.Accounts j u := by
  -- what is done to one table keeps account of its requests
  have hdone {m : LinkId} {t : RequestTable} (ht : b.table? m = some t) (op : Tracker.Operation)
      (hop : ∀ x, op ≠ .remove x) : (b.put m (Tracker.apply ⟨b.ledger, t⟩ op)).Accounts j u := by
    have hop' := (hsound.tracker ht).step op
    exact h.put ht (fun hk => hk.step (hsound.tracker ht) hop' hop) hop'.ledger.1.2 hop'.ledger.2
  cases hstep with
  | @introduce m hm d ageOut =>
    by_cases hj : j = m
    · subst hj
      refine ⟨h.known, .inr ?_⟩
      rcases h.accounted with ⟨t, ht, hlists⟩ | hdecided
      · exact absurd (hsound.listed ht hlists).1 hm
      · exact hdecided
    · exact h.put_of_ne hj id fun _ => id
  | enlist => exact ⟨h.known, h.accounted⟩
  | retire ht hreg =>
    have hcleared := hdone ht .failAll nofun
    exact ⟨hcleared.known, hcleared.accounted⟩
  | resolve ht x message => exact hdone ht (.resolve x message) nofun
  | prune ht now => exact hdone ht (.prune now) nofun
  | enroll ht hm hc r =>
    refine h.put ht (fun hk => ⟨hk.known.imp fun _ => Ledger.get?_enter_of_some, ?_⟩)
      (Exists.imp fun _ => Ledger.get?_enter_of_some) fun _ => Ledger.outcome?_enter_of_some
    exact hk.accounted.imp (fun hlists => hlists.enroll (hsound.indexed ht) hc)
      (Exists.imp fun _ => Ledger.outcome?_enter_of_some)
  | reject ht r f =>
    refine h.put ht (fun hk => ⟨Ledger.exists_settle_enter r _ hk.known, ?_⟩)
      (Ledger.exists_settle_enter r _) fun _ => Ledger.outcome?_settle_enter r _
    exact hk.accounted.imp id (Exists.imp fun _ => Ledger.outcome?_settle_enter r _)
  | abort ht hc r f =>
    refine h.put ht (fun hk => ⟨Ledger.exists_settle_enter r _ hk.known, ?_⟩)
      (Ledger.exists_settle_enter r _) fun _ => Ledger.outcome?_settle_enter r _
    exact hk.accounted.imp (RequestTable.lists_remove_enroll (hsound.indexed ht) hc).2
      (Exists.imp fun _ => Ledger.outcome?_settle_enter r _)

/-- One table is replaced by one that is in order, and every new request is accounted for. -/
theorem Sound.put {k : Tracker} (h : b.Sound) (hk : k.Sound)
    (hlisted : ∀ {u}, k.table.Lists u → b.isRegistered m ∧ ∃ r, k.ledger.get? u = some r)
    (hold : ∀ {j u}, b.Accounts j u → (b.put m k).Accounts j u)
    (hnew : ∀ {u r}, k.ledger.get? u = some r → (∃ q, b.ledger.get? u = some q) ∨ k.Accounts u) :
    (b.put m k).Sound := by
  -- a table is the one put in or one of those that were there
  have htable {j : LinkId} {t : RequestTable} (ht : (b.put m k).table? j = some t) :
      j = m ∧ t = k.table ∨ j ≠ m ∧ b.table? j = some t := by
    by_cases hj : j = m
    · exact .inl ⟨hj, (Option.some.inj ((if_pos hj).symm.trans ht)).symm⟩
    · exact .inr ⟨hj, (if_neg hj).symm.trans ht⟩
  refine ⟨fun ht => ?_, fun ht => ?_, fun ht hlists => ?_, fun hr => ?_⟩
  · rcases htable ht with ⟨rfl, rfl⟩ | ⟨-, ht⟩
    · exact hk.indexed
    · exact h.indexed ht
  · rcases htable ht with ⟨rfl, rfl⟩ | ⟨-, ht⟩
    · exact hk.scheduled
    · exact h.scheduled ht
  · rcases htable ht with ⟨rfl, rfl⟩ | ⟨-, ht⟩
    · exact hlisted hlists
    · obtain ⟨hm, r, hr⟩ := h.listed ht hlists
      obtain ⟨j, hj⟩ := h.accounted hr
      exact ⟨hm, (hold hj).known⟩
  · rcases hnew hr with ⟨q, hq⟩ | haccounts
    · obtain ⟨j, hj⟩ := h.accounted hq
      exact ⟨j, hold hj⟩
    · exact ⟨m, accounts_put_self haccounts⟩

/-- The new request is the only one that has to be accounted for. -/
theorem Sound.enter {k : Tracker} {r : Request} (h : b.Sound) (hk : k.Sound)
    (hlisted : ∀ {u}, k.table.Lists u → b.isRegistered m ∧ ∃ r, k.ledger.get? u = some r)
    (hold : ∀ {j u}, b.Accounts j u → (b.put m k).Accounts j u)
    (hknown : ∀ {u}, (∃ q, k.ledger.get? u = some q) → ∃ q, (b.ledger.enter r).1.get? u = some q)
    (hnew : k.Accounts (b.ledger.enter r).2) : (b.put m k).Sound := by
  refine h.put hk hlisted hold fun {u q} hq => ?_
  obtain ⟨q', hq'⟩ := hknown ⟨q, hq⟩
  rcases Ledger.eq_of_get?_enter hq' with hold | rfl
  · exact .inl ⟨q', hold⟩
  · exact .inr hnew

/-- Every step keeps the books sound. -/
theorem Sound.step (h : b.Sound) (hstep : Step b b') : b'.Sound := by
  have hkeep {j : LinkId} {u : Ticket} (hj : b.Accounts j u) : b'.Accounts j u := hj.step h hstep
  -- the three operations that end requests in a table, treated alike
  have hdone {m : LinkId} {t : RequestTable} (ht : b.table? m = some t) (op : Tracker.Operation)
      (hop : op.claim? = none)
      (hold : ∀ {j u}, b.Accounts j u → (b.put m (Tracker.apply ⟨b.ledger, t⟩ op)).Accounts j u) :
      (b.put m (Tracker.apply ⟨b.ledger, t⟩ op)).Sound := by
    have hop' := (h.tracker ht).step op
    exact h.put ((h.tracker ht).apply op)
      (fun hlists => (h.listed ht (hop'.lists (h.tracker ht) hop hlists)).imp_right
        hop'.ledger.1.2) hold fun hr => .inl (hop'.ledger.1.1 ⟨_, hr⟩)
  cases hstep with
  | @introduce m hm d ageOut =>
    refine h.put (Tracker.sound_new b.ledger d ageOut) ?_ hkeep fun hr => .inl ⟨_, hr⟩
    rintro u ⟨x, e, he, -⟩
    cases he
  | enlist hreg =>
    exact ⟨h.indexed, h.scheduled, fun ht hlists => (h.listed ht hlists).imp_left
      fun hj => (hreg _).2 (.inr hj), fun hr => (h.accounted hr).imp fun _ => hkeep⟩
  | @retire m t _ ht hreg =>
    have hcleared := hdone ht .failAll rfl fun hj => ⟨(hkeep hj).known, (hkeep hj).accounted⟩
    refine ⟨hcleared.indexed, hcleared.scheduled, fun {j t' u} ht' hlists => ?_, fun hr =>
      (hcleared.accounted hr).imp fun _ hj => ⟨hj.known, hj.accounted⟩⟩
    by_cases hj : j = m
    · -- nothing is left in its table
      obtain rfl := Option.some.inj ((if_pos hj).symm.trans ht')
      obtain ⟨x, e, he, -⟩ := hlists
      cases he
    · exact (hcleared.listed ht' hlists).imp_left fun hj' => (hreg j).2 ⟨hj, hj'⟩
  | resolve ht x message => exact hdone ht (.resolve x message) rfl hkeep
  | prune ht now => exact hdone ht (.prune now) rfl hkeep
  | @enroll m t c ht hm hc r hticket =>
    refine h.enter (r := r) ⟨(h.indexed ht).enroll hc, (h.scheduled ht).enroll c⟩
      (fun hlists => ⟨hm, ?_⟩) hkeep id ⟨⟨r, Ledger.get?_enter_self r⟩, .inl ?_⟩
    · rcases hlists.of_enroll with rfl | hlists
      · exact hticket ▸ ⟨r, Ledger.get?_enter_self r⟩
      · exact (h.listed ht hlists).2.imp fun _ => Ledger.get?_enter_of_some
    · exact hticket ▸ t.lists_enroll_self c
  | @reject m t ht r f =>
    refine h.enter (r := r) ⟨h.indexed ht, h.scheduled ht⟩ (fun hlists =>
      (h.listed ht hlists).imp_right (Ledger.exists_settle_enter r _)) hkeep
      (Ledger.exists_settle _).1 ?_
    have hknown : ∃ q, (b.ledger.enter r).1.get? (b.ledger.enter r).2 = some q :=
      ⟨r, Ledger.get?_enter_self r⟩
    exact ⟨(Ledger.exists_settle _).2 hknown, .inr (Ledger.decided_settle _ hknown)⟩
  | @abort m t c ht hc r f hticket =>
    have hsame (u : Ticket) := RequestTable.lists_remove_enroll (u := u) (h.indexed ht) hc
    refine h.enter (r := r)
      ⟨((h.indexed ht).enroll hc).remove c.xid, ((h.scheduled ht).enroll c).remove c.xid⟩
      (fun hlists => (h.listed ht ((hsame _).1 hlists)).imp_right
        (Ledger.exists_settle_enter r _)) hkeep (Ledger.exists_settle _).1 ?_
    have hknown : ∃ q, (b.ledger.enter r).1.get? (b.ledger.enter r).2 = some q :=
      ⟨r, Ledger.get?_enter_self r⟩
    refine ⟨(Ledger.exists_settle _).2 hknown, .inr ?_⟩
    rw [← hticket] at hknown ⊢
    exact Ledger.decided_settle _ hknown

/-- Whatever is done to the requests of a controller, none of them hangs. -/
theorem Sound.steps (h : b.Sound) (hsteps : ReflTransGen Step b b') :
    b'.Sound ∧ ∀ {j u}, b.Accounts j u → b'.Accounts j u := by
  induction hsteps with
  | refl => exact ⟨h, id⟩
  | tail _ hstep ih => exact ⟨ih.1.step hstep, fun hj => (ih.2 hj).step ih.1 hstep⟩

end Book

end Southbound
