import Mathlib.Data.List.Induction
import Southbound.Proofs.Controller.Noninterference

/-!
# Where transaction ids come from

An open request has the transaction ids that it was made with. Its caller chose them, or they were
drawn when it was made: this is a fact about the one operation that made the request, whatever has
happened before and since.

* `Book.Step.occupies`  whoever gets an id is a new request
* `Makes.supplies`      the ids of a new request were chosen for it or are drawn for it
* `origin_run`          so each id in use is one of the operation that made its request
-/

namespace Southbound

open Relation (ReflTransGen)

/-! ## Who has an id -/

/-- In an indexed table an id is in use if some open request has it. -/
theorem RequestTable.Indexed.isUsed_iff_occupies {t : RequestTable} {x : Xid} (h : t.Indexed) :
    t.isUsed x = true ↔ ∃ u, t.Occupies u x := by
  rw [h.isUsed_iff]
  constructor
  · rintro ⟨y, e, he, hx⟩
    exact ⟨e.ticket, y, e, he, rfl, hx⟩
  · rintro ⟨u, y, e, he, -, hx⟩
    exact ⟨y, e, he, hx⟩

namespace Ledger

/-- Settling a request makes none known. -/
theorem length_settle (l : Ledger) (u : Ticket) (o : Outcome) :
    (l.settle u o).requests.length = l.requests.length := List.length_modify ..

/-- Entering a request makes one more known. -/
theorem length_enter (l : Ledger) (r : Request) :
    (l.enter r).1.requests.length = l.requests.length + 1 := List.length_append

/-- As many requests are known as have an addressee. -/
private theorem length_of_addressee? {l l' : Ledger} (h : ∀ u, l'.addressee? u = l.addressee? u) :
    l'.requests.length = l.requests.length := by
  have hnone (l : Ledger) (u : Ticket) : l.addressee? u = none ↔ l.requests.length ≤ u :=
    Option.map_eq_none_iff.trans List.getElem?_eq_none_iff
  refine Nat.le_antisymm ((hnone _ _).1 ?_) ((hnone _ _).1 ?_)
  · exact (h _).trans ((hnone _ _).2 (Nat.le_refl _))
  · exact (h _).symm.trans ((hnone _ _).2 (Nat.le_refl _))

end Ledger

namespace Tracker

variable {k k' : Tracker} {op : Operation}

/-- Settling several requests makes none known. -/
private theorem length_settleAll (l : Ledger) (es : List OpenRequest) (o : OpenRequest → Outcome) :
    (settleAll l es o).requests.length = l.requests.length := by
  induction es generalizing l with
  | nil => rfl
  | cons e es ih => exact (ih _).trans (l.length_settle _ _)

/-- What is done to the open requests makes none known. -/
private theorem Step.length (hstep : k.Step op k') :
    k'.ledger.requests.length = k.ledger.requests.length := by
  cases hstep with
  | enrolled | continued | ignored | removed => rfl
  | rejected | settled => exact Ledger.length_settle ..
  | pruned | cleared => exact length_settleAll ..

end Tracker

namespace Book

variable {b b' : Book} {m j : LinkId} {u : Ticket} {x : Xid}

/-- The open request with the ticket has the transaction id, in the table of connection `m`. -/
def Occupies (b : Book) (m : LinkId) (u : Ticket) (x : Xid) : Prop :=
  ∃ t, b.table? m = some t ∧ t.Occupies u x

/-- Who has an id when something has been done to one table had it before, or got it there. -/
theorem Occupies.of_put {k : Tracker} {t : RequestTable} {p : Prop} (ht : b.table? j = some t)
    (h : (b.put j k).Occupies m u x) (hself : k.table.Occupies u x → t.Occupies u x ∨ p) :
    b.Occupies m u x ∨ p := by
  obtain ⟨t', ht', hx⟩ := h
  by_cases hm : m = j
  · subst hm
    obtain rfl := Option.some.inj ((if_pos rfl).symm.trans ht')
    exact (hself hx).imp_left fun hx => ⟨t, ht, hx⟩
  · exact .inl ⟨t', (if_neg hm).symm.trans ht', hx⟩

/-- Whoever has an id had it before, or is a new request. -/
theorem Step.occupies (hstep : Step b b') (hsound : b.Sound) (h : b'.Occupies m u x) :
    b.Occupies m u x ∨ b.ledger.requests.length ≤ u := by
  -- only claims give out ids
  have hdone {j : LinkId} {t : RequestTable} (ht : b.table? j = some t) (op : Tracker.Operation)
      (hop : op.claim? = none) (h : (b.put j (Tracker.apply ⟨b.ledger, t⟩ op)).Occupies m u x) :
      b.Occupies m u x ∨ b.ledger.requests.length ≤ u :=
    h.of_put ht fun hx =>
      .inl (((hsound.tracker ht).step op).occupies (hsound.tracker ht) hop hx)
  cases hstep with
  | @introduce j =>
    obtain ⟨t, ht, hx⟩ := h
    by_cases hm : m = j
    · -- nobody is in a table that is new
      obtain rfl := Option.some.inj ((if_pos hm).symm.trans ht)
      obtain ⟨y, e, he, -⟩ := hx
      cases he
    · exact .inl ⟨t, (if_neg hm).symm.trans ht, hx⟩
  | enlist => exact .inl h
  | retire ht => exact hdone ht .failAll rfl h
  | resolve ht y message => exact hdone ht (.resolve y message) rfl h
  | prune ht now => exact hdone ht (.prune now) rfl h
  | enroll ht _ _ _ hticket =>
    exact h.of_put ht fun hx => hx.of_enroll.imp_right fun ⟨hu, _⟩ =>
      Nat.le_of_eq (hu.trans hticket).symm
  | reject ht => exact h.of_put ht .inl
  | abort ht _ _ _ hticket =>
    exact h.of_put ht fun hx => hx.of_remove.of_enroll.imp_right fun ⟨hu, _⟩ =>
      Nat.le_of_eq (hu.trans hticket).symm

/-- A step of the books forgets no request. -/
private theorem Step.length_le (hstep : Step b b') (hsound : b.Sound) :
    b.ledger.requests.length ≤ b'.ledger.requests.length := by
  -- to end requests adds none, to enter one adds one, and none is ever taken out
  have hdone {t : RequestTable} {j : LinkId} (ht : b.table? j = some t) (op : Tracker.Operation) :
      b.ledger.requests.length ≤ (Tracker.apply ⟨b.ledger, t⟩ op).ledger.requests.length :=
    Nat.le_of_eq ((hsound.tracker ht).step op).length.symm
  have hentered (r : Request) :
      b.ledger.requests.length ≤ (b.ledger.enter r).1.requests.length :=
    Nat.le_of_lt (Nat.lt_of_lt_of_eq (Nat.lt_succ_self _) (b.ledger.length_enter r).symm)
  cases hstep with
  | introduce | enlist => exact Nat.le_refl _
  | retire ht => exact hdone ht .failAll
  | resolve ht y message => exact hdone ht (.resolve y message)
  | prune ht now => exact hdone ht (.prune now)
  | enroll _ _ _ r => exact hentered r
  | reject _ r | abort _ _ r =>
    exact Nat.le_trans (hentered r) (Nat.le_of_eq (Ledger.length_settle ..).symm)

/-- By induction on the steps, only new requests get ids. -/
theorem Sound.occupies_steps (h : b.Sound) (hsteps : ReflTransGen Step b b') :
    b.ledger.requests.length ≤ b'.ledger.requests.length ∧
      ∀ {m u x}, b'.Occupies m u x → b.Occupies m u x ∨ b.ledger.requests.length ≤ u := by
  induction hsteps with
  | refl => exact ⟨Nat.le_refl _, .inl⟩
  | tail hbefore hstep ih =>
    have hmid := (h.steps hbefore).1
    refine ⟨Nat.le_trans ih.1 (hstep.length_le hmid), fun hu => ?_⟩
    rcases hstep.occupies hmid hu with hold | hnew
    · exact ih.2 hold
    · exact .inr (Nat.le_trans ih.1 hnew)

/-- A new request gets the ids that it claims. -/
theorem Enters.occupies {t : RequestTable} {c : Claim} {r : Request} {Q : Prop}
    (h : b.Enters j t c r Q b') (ht : b.table? j = some t) (hx : b'.Occupies m u x) :
    b.Occupies m u x ∨ x ∈ c.xids := by
  cases h with
  | refused => exact hx.of_put ht .inl
  | entered => exact hx.of_put ht fun hx => hx.of_enroll.imp_right And.right
  | withdrawn => exact hx.of_put ht fun hx => hx.of_remove.of_enroll.imp_right And.right

end Book

/-! ## New requests -/

/-- The `k` transaction ids that are drawn from number `n` on, in order. -/
def idsFrom (n k : Nat) : List Xid := (List.range' n k).map xidAt

/-- The ids that are drawn are those of the numbers. -/
theorem mem_idsFrom {n k : Nat} {x : Xid} :
    x ∈ idsFrom n k ↔ ∃ i, n ≤ i ∧ i < n + k ∧ xidAt i = x := by
  simp only [idsFrom, List.mem_map, List.mem_range'_1, and_assoc]

private theorem idsFrom_succ (n k : Nat) : idsFrom n (k + 1) = xidAt n :: idsFrom (n + 1) k := rfl

/-- One more id is drawn behind the others. -/
private theorem idsFrom_concat (n k : Nat) :
    idsFrom n (k + 1) = idsFrom n k ++ [xidAt (n + k)] := by
  rw [idsFrom, List.range'_1_concat, List.map_append]
  rfl

namespace Controller

variable {c c' : Controller} {m : LinkId} {u : Ticket} {x : Xid} {ids : List Xid}

/-- The ids of a request are those chosen for it and those drawn for it. -/
theorem perm_replyOrder (c : Controller) (o : Outbound) :
    (c.replyOrder o).xids.Perm
      (o.xid.toList ++ idsFrom c.drawn (if o.xid.isNone then 1 else 0)) := by
  cases hx : o.xid <;> simp [replyOrder, Order.xids, idsFrom, hx]

/-- A message with a barrier has the ids that were chosen for the two, and draws the rest. -/
private theorem perm_barrierOrder (c : Controller) (o : Outbound) (barrier : Option Xid) :
    (c.barrierOrder o barrier).xids.Perm ((o.xid.toList ++ barrier.toList) ++
      idsFrom c.drawn ((if o.xid.isNone then 1 else 0) + if barrier.isNone then 1 else 0)) := by
  cases hx : o.xid <;> cases barrier <;>
    simp [barrierOrder, Order.xids, idsFrom, hx, List.range', List.Perm.swap]

/-- A batch draws an id for each message and one for the barrier. -/
private theorem perm_batchOrder (c : Controller) (first : Message) (more : List Message) :
    (c.batchOrder first more).xids.Perm (idsFrom c.drawn ((first :: more).length + 1)) := by
  have hothers : ((c.batchOrder first more).writes.tail.map (·.1)) =
      idsFrom (c.drawn + 1) more.length := by
    rw [idsFrom, ← List.zipIdx_map_snd, List.map_map]
    show List.map _ (List.map _ (more.zipIdx (c.drawn + 1))) = _
    rw [List.map_map]
    rfl
  -- the barrier stands behind the first id, and is drawn last
  rw [Order.xids, hothers, idsFrom_concat, List.length_cons, idsFrom_succ]
  exact List.perm_append_comm.cons _

/-- A call that is refused before anything is done, or makes a request to the datapath `found` with
the ids that were chosen for it and those that it draws. -/
inductive Makes (found : Option Datapath) (ids : List Xid) (c : Controller) :
    Controller × Except Failure Ticket → Prop
  | refused (e : Failure) : Makes found ids c (c, .error e)
  | request {dp : Datapath} {k : Nat} {o : Order} (hfound : found = some dp)
      (hdp : c.datapath? dp.main = some dp)
      (hxids : o.xids.Perm (ids ++ idsFrom c.drawn k)) :
      Makes found ids c (answered (Controller.issue { c with drawn := c.drawn + k } dp o.type
        (fun ticket => o.claim ticket c.clock) o.frames))

/-- What is in the books after a request has been made. -/
structure Made (found : Option Datapath) (ids : List Xid) (c c' : Controller) (u : Ticket)
    (dp : Datapath) (o : Order) : Prop where
  found : found = some dp
  datapath : c.datapath? dp.main = some dp
  ticket : u = c.nextTicket
  xids : o.xids.Perm (ids ++ idsFrom c.drawn (c'.drawn - c.drawn))
  book : c.book.Enters dp.main dp.requests (o.claim u c.clock) (o.request dp.id c.clock)
    (o.frames ≠ [] → c.isClosed dp.main = false) c'.book

/-- A call is refused, or the books have its request. -/
theorem Makes.cases {found : Option Datapath} {r : Controller × Except Failure Ticket}
    (h : Makes found ids c r) (hsound : c.outline.Sound) :
    (∃ e, r = (c, .error e)) ∨ ∃ c' u dp o, r = (c', .ok u) ∧ Made found ids c c' u dp o := by
  cases h with
  | refused e => exact .inl ⟨e, rfl⟩
  | @request dp k o hfound hdp hxids =>
    let drawn : Controller := { c with drawn := c.drawn + k }
    have hclaim (ticket : Ticket) : (o.claim ticket c.clock).ticket = ticket ∧
        (o.claim ticket c.clock).xid = (o.claim 0 c.clock).xid := ⟨rfl, rfl⟩
    obtain ⟨c', hissue, -, hdrawn, hbook⟩ :=
      @enters_issue drawn dp o.type (o.claim · c.clock) o.frames hsound hdp hclaim
    -- the ids drawn for the request are those between the two counts
    have hdiff : c'.drawn - c.drawn = k := by rw [hdrawn, Nat.add_sub_cancel_left]
    exact .inr ⟨c', c.nextTicket, dp, o, congrArg answered hissue, hfound, hdp, rfl,
      hdiff.symm ▸ hxids, hbook⟩

/-- Who gets an id gets one that was chosen or is drawn. -/
def Supplies (ids : List Xid) (c c' : Controller) : Prop :=
  ∀ m u x, c'.book.Occupies m u x →
    c.book.Occupies m u x ∨ x ∈ ids ++ idsFrom c.drawn (c'.drawn - c.drawn)

/-- Who leaves the books alone gives no ids away. -/
private theorem supplies_of_book (h : c'.book = c.book) : Supplies ids c c' := fun _ _ _ hx =>
  .inl (h ▸ hx)

/-- The ids of a new request were chosen for it, or it has drawn them. -/
theorem Makes.supplies {found : Option Datapath} {r : Controller × Except Failure Ticket}
    (h : Makes found ids c r) (hsound : c.outline.Sound) : Supplies ids c r.1 := by
  rcases h.cases hsound with ⟨e, rfl⟩ | ⟨c', u, dp, o, rfl, hmade⟩
  · exact supplies_of_book rfl
  · exact fun m u x hx => (hmade.book.occupies (table?_book hmade.datapath) hx).imp_right
      hmade.xids.mem_iff.1

/-- A call makes what it makes when the check in front of it passes. -/
private theorem makes_andThen {α : Type} {found : Option Datapath} {checked : Except Failure α}
    {next : α → Controller × Except Failure Ticket}
    (h : ∀ a, checked = .ok a → Makes found ids c (next a)) :
    Makes found ids c (c.andThen checked next) := by
  cases checked with
  | error e => exact .refused e
  | ok a => exact h a rfl

section Calls

variable (h : c.outline.Sound)
include h

/-- A request is made with the id that was chosen for it, or draws one. -/
theorem makes_sendRequest (d : DatapathId) (o : Outbound) :
    Makes (c.registered? d) o.xid.toList c (c.sendRequest d o) := by
  refine makes_andThen fun dp hdp => makes_andThen fun _ _ => ?_
  rw [xidFor_eq]
  have hmade := Makes.request (permit_single hdp).1 (permit_eq_ok h hdp).1 (perm_replyOrder c o)
  exact hmade

/-- So is a message with a barrier. -/
theorem makes_sendWithBarrier (d : DatapathId) (o : Outbound) (barrier : Option Xid) :
    Makes (c.registered? d) (o.xid.toList ++ barrier.toList) c (c.sendWithBarrier d o barrier) := by
  refine makes_andThen fun dp hdp => makes_andThen fun _ _ => makes_andThen fun _ _ => ?_
  simp only [xidFor_eq, Nat.add_assoc]
  have hmade := Makes.request (permit_single hdp).1 (permit_eq_ok h hdp).1
    (perm_barrierOrder c o barrier)
  exact hmade

/-- So is a message with a companion. -/
theorem makes_sendWithCompanion (d : DatapathId) (o companion : Outbound) :
    Makes (c.registered? d) (o.xid.toList ++ companion.xid.toList) c
      (c.sendWithCompanion d o companion) := by
  unfold sendWithCompanion
  split
  · exact .refused _
  · split
    · exact .refused _
    · exact makes_sendWithBarrier h d o companion.xid

omit h in
/-- A batch draws all its ids. -/
theorem makes_sendBatchOn {found : Option Datapath} {dp : Datapath} (hfound : found = some dp)
    (hdp : c.datapath? dp.main = some dp) (ms : List Message) :
    Makes found [] c (c.sendBatchOn dp ms) := by
  cases ms with
  | nil => exact .refused _
  | cons first more =>
    refine makes_andThen fun _ _ => ?_
    simp only [drawXids_eq, drawXid, List.zipIdx_cons, List.map_cons]
    have hmade : Makes found [] c _ :=
      .request (k := (first :: more).length + 1) hfound hdp (perm_batchOrder c first more)
    exact hmade

theorem makes_sendBatch (d : DatapathId) (ms : List Message) :
    Makes (c.registered? d) [] c (c.sendBatch d ms) :=
  makes_andThen fun _ hdp =>
    makes_sendBatchOn (lookup_eq_ok_iff.1 hdp) (lookup_eq_ok h hdp).1 ms

/-- So does a change of a port. -/
theorem makes_enablePort (d : DatapathId) (n : PortNumber) (enable : Bool) :
    Makes (c.registered? d) [] c (c.enablePort d n enable) := by
  refine makes_andThen fun dp _ => ?_
  split
  · exact .refused _
  · exact makes_sendWithBarrier h d { message := .portMod _ } none

end Calls

/-- The work for a datapath draws all its ids. -/
private theorem supplies_sendFlows (h : c.outline.Sound) {dp : Datapath}
    (hdp : c.datapath? dp.main = some dp) (flows : List FlowMod) (awaiting : Ticket → TaskStage) :
    Supplies [] c (c.sendFlows dp flows awaiting).1 := by
  have hsent := (makes_sendBatchOn rfl hdp (flows.map .flowMod)).supplies h
  unfold sendFlows
  split
  · next heq =>
    rw [heq] at hsent
    exact hsent
  · next heq =>
    rw [heq] at hsent
    exact hsent

/-! ## Operations -/

/-- The transaction ids that its caller chose for an operation. -/
def Operation.chosen : Operation → List Xid
  | .sendRequest _ o => o.xid.toList
  | .sendWithBarrier _ o barrier => o.xid.toList ++ barrier.toList
  | .sendWithCompanion _ o companion => o.xid.toList ++ companion.xid.toList
  | _ => []

/-- The transaction ids that are chosen for an operation or drawn by it. -/
def idsOf (c : Controller) (op : Operation) : List Xid :=
  op.chosen ++ idsFrom c.drawn ((c.apply op).drawn - c.drawn)

/-- Tickets are not given back. -/
theorem Kept.nextTicket_le (h : c.Kept) (op : Operation) :
    c.nextTicket ≤ (c.apply op).nextTicket :=
  (h.book.occupies_steps (h.develops_apply op).book).1

/-- Who has an id is known. -/
theorem Kept.lt_nextTicket (h : c.Kept) (hx : c.book.Occupies m u x) : u < c.nextTicket := by
  obtain ⟨t, ht, hu⟩ := hx
  obtain ⟨-, r, hr⟩ := h.book.listed ht (RequestTable.lists_iff.2 ⟨x, hu⟩)
  exact (List.getElem?_eq_some_iff.1 hr).1

/-- Whoever gets an id in an operation is a request that the operation made. -/
private theorem Kept.occupies_apply (h : c.Kept) {op : Operation}
    (hx : (c.apply op).book.Occupies m u x) : c.book.Occupies m u x ∨ c.nextTicket ≤ u :=
  (h.book.occupies_steps (h.develops_apply op).book).2 hx

/-- An operation that makes no request gives out no ids. -/
theorem Kept.supplies_of_nextTicket (h : c.Kept) (op : Operation)
    (hsame : (c.apply op).nextTicket = c.nextTicket) : Supplies ids c (c.apply op) := by
  intro m u x hx
  refine .inl ((h.occupies_apply hx).resolve_right fun hnew => ?_)
  exact Nat.lt_irrefl _ (Nat.lt_of_le_of_lt hnew (hsame ▸ (kept_apply h op).lt_nextTicket hx))

/-- A frame makes no request. -/
private theorem Separates.nextTicket {l : LinkId} {c₀ : Controller} (h : Separates l c c₀ c') :
    c'.nextTicket = c.nextTicket := by
  obtain ⟨hcontained, -⟩ := h.after (fun _ => False) fun _ _ => id
  exact (Ledger.length_of_addressee? hcontained.addressee).trans
    (congrArg (·.requests.length) h.ledger)

/-- Neither does a sweep. -/
private theorem nextTicket_pruneRequests (c : Controller) :
    c.pruneRequests.nextTicket = c.nextTicket := by
  unfold pruneRequests
  generalize c.registry = registry
  induction registry generalizing c with
  | nil => rfl
  | cons e registry ih =>
    rw [List.foldl_cons]
    refine (ih _).trans ?_
    dsimp only
    split
    · rfl
    · exact Tracker.length_settleAll ..

/-- Who gets an id from an operation gets one of that operation. -/
theorem Regular.supplies_apply (h : c.Regular) (op : Operation) :
    Supplies op.chosen c (c.apply op) := by
  have hsound := h.kept.healthy.sound
  cases op with
  | accept remote =>
    refine supplies_of_book ?_
    rw [apply]
    split
    · next haccept => exact (rests_accept haccept).book
    · rfl
  | frame l f =>
    obtain ⟨c₀, hseparates, -⟩ := h.separates_handleFrame l f
    exact h.kept.supplies_of_nextTicket (.frame l f) hseparates.nextTicket
  | close l =>
    have hseparates := h.separates_of_confined fun P => confined_endSession c l
    exact h.kept.supplies_of_nextTicket (.close l) hseparates.nextTicket
  | write | addContributor | removeContributor | wait | abandon => exact supplies_of_book rfl
  | checkIdle => exact supplies_of_book (rests_checkIdle c).book
  | pruneRequests =>
    -- the ledger has outcomes more, but no requests
    exact h.kept.supplies_of_nextTicket .pruneRequests (nextTicket_pruneRequests c)
  | provision patient =>
    cases hstep : c.provision? patient with
    | none =>
      have hsame : c.apply (.provision patient) = c := by simp only [apply, hstep]
      exact hsame.symm ▸ supplies_of_book rfl
    | some step =>
      have hafter : c.apply (.provision patient) = step.2.1 := by simp only [apply, hstep]
      rcases provision?_cases hsound hstep with hbook | ⟨dp, flows, awaiting, hdp, heq⟩
      · exact supplies_of_book (hafter ▸ hbook)
      · rw [hafter, heq]
        exact supplies_sendFlows hsound hdp flows awaiting
  | send d auxiliary message => exact supplies_of_book (rests_send c d auxiliary message).book
  | sendRequest d o => exact (makes_sendRequest hsound d o).supplies hsound
  | sendWithBarrier d o barrier => exact (makes_sendWithBarrier hsound d o barrier).supplies hsound
  | sendWithCompanion d o companion =>
    exact (makes_sendWithCompanion hsound d o companion).supplies hsound
  | sendBatch d ms => exact (makes_sendBatch hsound d ms).supplies hsound
  | enablePort d n enable => exact (makes_enablePort hsound d n enable).supplies hsound
  | shutDown => exact supplies_of_book (rests_shutDown c).book

/-! ## Runs -/

/-- Operation `op` of a run, behind those in `before`, made the request with the ticket. -/
structure MadeBy (c : Controller) (ops : List Operation) (u : Ticket) (before : List Operation)
    (op : Operation) : Prop where
  within : before ++ [op] <+: ops
  old : (c.run before).nextTicket ≤ u
  new : u < (c.run (before ++ [op])).nextTicket

/-- Who made a request has made it whatever follows. -/
private theorem MadeBy.append {ops : List Operation} {before : List Operation} {op : Operation}
    (h : c.MadeBy ops u before op) (more : List Operation) : c.MadeBy (ops ++ more) u before op :=
  ⟨h.within.trans (List.prefix_append _ _), h.old, h.new⟩

/-- Who has an id in a run, has it from the operation that made the request. -/
theorem origin_run (settings : Settings) (mastership : Mastership) (ops : List Operation)
    (hx : (run { settings, mastership } ops).book.Occupies m u x) :
    ∃ before op, MadeBy { settings, mastership } ops u before op ∧
      x ∈ (run { settings, mastership } before).idsOf op := by
  induction ops using List.reverseRecOn with
  | nil =>
    obtain ⟨t, ht, -⟩ := hx
    cases ht
  | append_singleton ops op ih =>
    have h := regular_run (regular_new settings mastership) ops
    rw [run_concat] at hx
    -- tickets tell whether the last operation made the request
    rcases h.kept.occupies_apply hx with hold | hnew
    · obtain ⟨before, op', hmade, hids⟩ := ih hold
      exact ⟨before, op', hmade.append [op], hids⟩
    · refine ⟨ops, op, ⟨List.prefix_refl _, hnew, ?_⟩, ?_⟩
      · rw [run_concat]
        exact (kept_apply h.kept op).lt_nextTicket hx
      · exact (h.supplies_apply op _ _ _ hx).resolve_left fun hold =>
          Nat.lt_irrefl _ (Nat.lt_of_lt_of_le (h.kept.lt_nextTicket hold) hnew)

end Controller

end Southbound
