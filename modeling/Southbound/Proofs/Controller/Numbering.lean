import Mathlib.Data.List.Nodup
import Mathlib.Data.Nat.ModEq
import Southbound.Proofs.Controller.Origins

/-!
# Transaction ids that are not free

Transaction ids are drawn in turn, all but 0, and nobody looks whether one is still in use. A
request fails for its ids when one of them belongs to an open request of the datapath, or when the
request has one twice; of the ids that are drawn this can only be so if the caller of that open
request chose the id, or if the open request drew it whole rounds before (`numbering_run`).
-/

namespace Southbound

open Relation (ReflTransGen)

/-! ## Rounds -/

/-- An id comes again when all have been drawn, and not before. -/
theorem xidAt_eq_iff {i j : Nat} (hle : i ≤ j) :
    xidAt i = xidAt j ↔ UInt32.size - 1 ∣ j - i := by
  rw [← UInt32.toNat_inj, toNat_xidAt, toNat_xidAt, Nat.add_right_cancel_iff]
  exact (Nat.modEq_iff_dvd' hle)

/-- Among ids drawn in turn one is there twice when there are more of them than there are ids. -/
theorem nodup_idsFrom_iff {n k : Nat} : (idsFrom n k).Nodup ↔ k < UInt32.size := by
  have hsize : UInt32.size = 4294967296 := rfl
  constructor
  · intro hnodup
    by_contra hk
    -- the first id comes again after a round
    have hrepeats : xidAt n = xidAt (n + (UInt32.size - 1)) :=
      (xidAt_eq_iff (Nat.le_add_right _ _)).2 (by rw [Nat.add_sub_cancel_left])
    have hsame := List.inj_on_of_nodup_map hnodup (List.mem_range'_1.2 (by omega))
      (List.mem_range'_1.2 (by omega)) hrepeats
    omega
  · intro hk
    refine List.Nodup.map_on (fun i hi j hj heq => ?_) List.nodup_range'
    rw [List.mem_range'_1] at hi hj
    by_contra hne
    rcases Nat.lt_or_gt_of_ne hne with hlt | hlt
    · exact xidAt_ne hlt (by omega) heq
    · exact xidAt_ne hlt (by omega) heq.symm

/-! ## Requests that fail for their ids -/

def Outcome.isDuplicate : Outcome → Bool
  | .failed f => f.isDuplicate
  | _ => false

/-- No reply ends a request for its ids. -/
private theorem OpenRequest.EndsBy.isDuplicate {e : OpenRequest} {x : Xid} {m : Message}
    {o : Outcome} (h : e.EndsBy x m o) : o.isDuplicate = false := by
  cases h <;> rfl

/-- An outcome is the one that was settled, or was there before. -/
private theorem Ledger.eq_or_outcome?_of_settle {l : Ledger} {t u : Ticket} {o p : Outcome}
    (h : (l.settle t o).outcome? u = some p) : p = o ∨ l.outcome? u = some p := by
  rw [outcome?, get?_settle] at h
  cases hr : l.get? u with
  | none =>
    rw [hr] at h
    cases h
  | some r =>
    rw [hr, Option.map_some, Option.bind_some] at h
    rw [outcome?, hr, Option.bind_some]
    -- settling changes the request at `t` only, and only one that was undecided
    split at h
    · unfold Request.settle at h
      split at h
      · exact .inl (Option.some.inj h).symm
      · exact .inr h
    · exact .inr h

namespace Tracker

variable {k k' : Tracker} {op : Operation} {u : Ticket} {o : Outcome}

/-- Requests that are settled otherwise do not fail for their ids. -/
private theorem outcome?_of_settleAll {l : Ledger} {es : List OpenRequest}
    {f : OpenRequest → Outcome} (hf : ∀ e, (f e).isDuplicate = false) (ho : o.isDuplicate = true)
    (h : (settleAll l es f).outcome? u = some o) : l.outcome? u = some o := by
  induction es generalizing l with
  | nil => exact h
  | cons e es ih =>
    rcases Ledger.eq_or_outcome?_of_settle (ih h) with rfl | hold
    · rw [hf e] at ho
      cases ho
    · exact hold

/-- A request that is open does not fail for its ids any more. -/
theorem Step.outcome?_of_isDuplicate (hstep : k.Step op k') (hop : op.claim? = none)
    (ho : o.isDuplicate = true) (h : k'.ledger.outcome? u = some o) :
    k.ledger.outcome? u = some o := by
  cases hstep with
  | enrolled hclaim | rejected hclaim => cases hop.symm.trans hclaim
  | settled _ hends =>
    rcases Ledger.eq_or_outcome?_of_settle h with rfl | hold
    · rw [hends.isDuplicate] at ho
      cases ho
    · exact hold
  | continued | ignored | removed => exact h
  | pruned | cleared => exact outcome?_of_settleAll (fun _ => rfl) ho h

end Tracker

namespace Book

variable {b b' : Book} {u : Ticket} {o : Outcome}

/-- A request fails for its ids when it is made, or never. -/
theorem Step.outcome?_of_isDuplicate (hstep : Step b b') (hsound : b.Sound)
    (hu : u < b.ledger.requests.length) (ho : o.isDuplicate = true)
    (h : b'.ledger.outcome? u = some o) : b.ledger.outcome? u = some o := by
  -- what ends requests in a table ends none with a duplicate id
  have hdone {m : LinkId} {t : RequestTable} (ht : b.table? m = some t) (op : Tracker.Operation)
      (hop : op.claim? = none) (h : (Tracker.apply ⟨b.ledger, t⟩ op).ledger.outcome? u = some o) :
      b.ledger.outcome? u = some o :=
    ((hsound.tracker ht).step op).outcome?_of_isDuplicate hop ho h
  -- and what enters a request leaves those before it as they are
  have hentered {r : Request} (h : (b.ledger.enter r).1.outcome? u = some o) :
      b.ledger.outcome? u = some o :=
    (Ledger.outcome?_congr (List.getElem?_append_left hu)).symm.trans h
  have hother (r : Request) : (b.ledger.enter r).2 ≠ u := (Nat.ne_of_lt hu).symm
  cases hstep with
  | introduce | enlist => exact h
  | retire ht => exact hdone ht .failAll rfl h
  | resolve ht y message => exact hdone ht (.resolve y message) rfl h
  | prune ht now => exact hdone ht (.prune now) rfl h
  | enroll => exact hentered h
  | reject _ r =>
    exact hentered ((Ledger.outcome?_congr (Ledger.get?_settle_of_ne _ (hother r))).symm.trans h)
  | abort _ _ r _ hticket =>
    exact hentered ((Ledger.outcome?_congr
      (Ledger.get?_settle_of_ne _ (hticket ▸ hother r))).symm.trans h)

/-- Once a request is entered it does not fail for its ids any more. -/
private theorem Sound.outcome?_of_isDuplicate (h : b.Sound) (hsteps : ReflTransGen Step b b')
    (hu : u < b.ledger.requests.length) (ho : o.isDuplicate = true)
    (hout : b'.ledger.outcome? u = some o) : b.ledger.outcome? u = some o := by
  induction hsteps with
  | refl => exact hout
  | tail hbefore hstep ih =>
    have hlt := Nat.lt_of_lt_of_le hu (h.occupies_steps hbefore).1
    exact ih (hstep.outcome?_of_isDuplicate (h.steps hbefore).1 hlt ho hout)

variable {m : LinkId} {t : RequestTable} {c : Claim} {r : Request} {Q : Prop}

/-- A request that has just been made has failed for its ids if one of them was in use or it has one
twice. -/
theorem Enters.failed_iff (h : b.Enters m t c r Q b') (hticket : c.ticket = (b.ledger.enter r).2)
    (hr : r.outcome = none) :
    (∃ o, b'.ledger.outcome? c.ticket = some o ∧ o.isDuplicate = true) ↔
      (∃ x ∈ c.xids, t.isUsed x = true) ∨ ¬ c.xids.Nodup := by
  have hpending : (b.ledger.enter r).1.IsPending c.ticket :=
    ⟨r, hticket ▸ Ledger.get?_enter_self r, hr⟩
  have hfree : t.conflict? c = none ↔ ¬ ((∃ x ∈ c.xids, t.isUsed x = true) ∨ ¬ c.xids.Nodup) := by
    rw [RequestTable.conflict?_eq_none_iff]
    simp
  rw [← not_iff_not, ← hfree]
  cases h with
  | @refused x hc =>
    -- refused by the table
    have hfailed := hpending.outcome?_settle (.failed (.duplicateXid t.datapath x))
    exact iff_of_false (fun hnot => hnot ⟨_, hfailed, rfl⟩) (by rw [hc]; nofun)
  | entered hc =>
    -- entered and sent: undecided so far
    refine iff_of_true (fun ⟨o, ho, _⟩ => ?_) hc
    cases hpending.outcome?_eq_none.symm.trans ho
  | withdrawn hc he =>
    -- entered and withdrawn: it failed, but for another reason
    refine iff_of_true (fun ⟨o, ho, hdup⟩ => ?_) hc
    obtain rfl := Option.some.inj ((hpending.outcome?_settle (.failed _)).symm.trans ho)
    cases he.symm.trans hdup

/-- One more request is known when one has been made. -/
private theorem Enters.length (h : b.Enters m t c r Q b') :
    b'.ledger.requests.length = b.ledger.requests.length + 1 := by
  cases h with
  | entered => exact b.ledger.length_enter r
  | refused | withdrawn => exact (Ledger.length_settle ..).trans (b.ledger.length_enter r)

end Book

namespace Controller

variable {c c' : Controller} {u : Ticket} {dp : Datapath} {op : Operation}

/-- The request with the ticket fails for its transaction ids, now or later. -/
def FailsForIds (c : Controller) (u : Ticket) : Prop :=
  ∃ ops o, (c.run ops).ledger.outcome? u = some o ∧ o.isDuplicate = true

/-- A request fails for its ids when it is made, or never. -/
theorem Kept.outcome?_of_isDuplicate (h : c.Kept) (hu : u < c.nextTicket) {o : Outcome}
    (ho : o.isDuplicate = true) {ops : List Operation}
    (hout : (c.run ops).ledger.outcome? u = some o) : c.ledger.outcome? u = some o := by
  induction ops generalizing c with
  | nil => exact hout
  | cons op ops ih =>
    have hlater := ih (kept_apply h op) (Nat.lt_of_lt_of_le hu (h.nextTicket_le op)) hout
    exact h.book.outcome?_of_isDuplicate (h.develops_apply op).book hu ho hlater

/-- Whether a request fails for its ids is decided when it is made. -/
private theorem Kept.failsForIds_iff (h : c.Kept) (hu : u < c.nextTicket) :
    c.FailsForIds u ↔ ∃ o, c.ledger.outcome? u = some o ∧ o.isDuplicate = true :=
  ⟨fun ⟨_, o, hout, ho⟩ => ⟨o, h.outcome?_of_isDuplicate hu ho hout, ho⟩,
    fun ⟨o, hout, ho⟩ => ⟨[], o, hout, ho⟩⟩

/-- Ids that are drawn stay drawn. -/
private theorem Kept.drawn_le_run (h : c.Kept) (ops : List Operation) :
    c.drawn ≤ (c.run ops).drawn := by
  induction ops generalizing c with
  | nil => exact Nat.le_refl _
  | cons op ops ih => exact Nat.le_trans (h.develops_apply op).drawn (ih (kept_apply h op))

/-! ## Who makes requests -/

/-- The datapath that a call is to make a request to, and how the call ends. -/
def call? (c : Controller) : Operation → Option (DatapathId × Controller × Except Failure Ticket)
  | .sendRequest d o => some (d, c.sendRequest d o)
  | .sendWithBarrier d o barrier => some (d, c.sendWithBarrier d o barrier)
  | .sendWithCompanion d o companion => some (d, c.sendWithCompanion d o companion)
  | .sendBatch d ms => some (d, c.sendBatch d ms)
  | .enablePort d n enable => some (d, c.enablePort d n enable)
  | _ => none

/-- An operation makes a request to the datapath, and `u` is its ticket. -/
inductive Requests (c : Controller) (dp : Datapath) (u : Ticket) : Operation → Prop
  | call {op : Operation} {d : DatapathId} {c' : Controller} (hdp : c.registered? d = some dp)
      (h : c.call? op = some (d, c', .ok u)) : Requests c dp u op
  /-- The work for a datapath sends a batch of flows. -/
  | provision {patient : Bool} {m : LinkId} {flows : List FlowMod} {awaiting : Ticket → TaskStage}
      {c' : Controller} (hdp : c.datapath? dp.main = some dp)
      (hstep : c.provision? patient = some (m, c.sendFlows dp flows awaiting))
      (h : c.sendBatchOn dp (flows.map .flowMod) = (c', .ok u)) :
      Requests c dp u (.provision patient)

/-- A call makes its request, and does nothing else. -/
private theorem makes_call {d : DatapathId} {r : Controller × Except Failure Ticket}
    (hsound : c.outline.Sound) (h : c.call? op = some (d, r)) :
    c.apply op = r.1 ∧ Makes (c.registered? d) op.chosen c r := by
  cases op with
  | sendRequest d o => cases h; exact ⟨rfl, makes_sendRequest hsound d o⟩
  | sendWithBarrier d o barrier => cases h; exact ⟨rfl, makes_sendWithBarrier hsound d o barrier⟩
  | sendWithCompanion d o companion =>
    cases h
    exact ⟨rfl, makes_sendWithCompanion hsound d o companion⟩
  | sendBatch d ms => cases h; exact ⟨rfl, makes_sendBatch hsound d ms⟩
  | enablePort d n enable => cases h; exact ⟨rfl, makes_enablePort hsound d n enable⟩
  | _ => cases h

/-- Who is told a ticket has made a request. -/
private theorem Makes.made {found : Option Datapath} {ids : List Xid}
    (h : Makes found ids c (c', .ok u)) (hsound : c.outline.Sound) (hfound : found = some dp) :
    ∃ o, Made found ids c c' u dp o := by
  rcases h.cases hsound with ⟨e, heq⟩ | ⟨c'', u', dp', o, heq, hmade⟩
  · cases heq
  · cases heq
    obtain rfl := Option.some.inj (hfound.symm.trans hmade.found)
    exact ⟨o, hmade⟩

/-- Calls and the work for datapaths make the requests that they are said to. -/
private theorem Requests.made (h : c.Requests dp u op) (hsound : c.outline.Sound) :
    ∃ o, Made (some dp) op.chosen c (c.apply op) u dp o := by
  cases h with
  | call hdp h =>
    obtain ⟨hafter, hmakes⟩ := makes_call hsound h
    exact hafter ▸ hdp ▸ hmakes.made hsound hdp
  -- a batch of provisioning is made like any other, then the task waits for it
  | @provision patient m flows awaiting c' hdp hstep h =>
    have hmakes := makes_sendBatchOn rfl hdp (flows.map .flowMod)
    rw [h] at hmakes
    obtain ⟨o, hmade⟩ := hmakes.made hsound rfl
    have hafter : c.apply (.provision patient) = (c'.enterStage dp.main (awaiting u)).1 := by
      simp only [apply, hstep, sendFlows, h]
    exact ⟨o, hafter ▸ ⟨hmade.found, hmade.datapath, hmade.ticket, hmade.xids, hmade.book⟩⟩

/-- A call to the datapath passes the checks that are made before anything is done. -/
def Passes (c : Controller) (dp : Datapath) : Operation → Prop
  | .sendRequest d o => c.permit d [o.message] .reply = .ok dp ∧ o.xid ≠ some 0
  | .sendWithBarrier d o barrier =>
    c.permit d [o.message] .barrier = .ok dp ∧ o.xid ≠ some 0 ∧ barrier ≠ some 0
  | .sendWithCompanion d o companion =>
    companion.message = .barrierRequest ∧ (companion.xid = o.xid → companion.xid = none) ∧
      c.permit d [o.message] .barrier = .ok dp ∧ o.xid ≠ some 0 ∧ companion.xid ≠ some 0
  | .sendBatch d ms =>
    ms ≠ [] ∧ c.lookup d = .ok dp ∧
      ∀ m ∈ ms, Policy.check (c.roleOf d) d m .barrier = .ok ()
  | .enablePort d n enable =>
    ∃ p, dp.ports.get? n = some p ∧
      c.permit d [.portMod (PortMod.setEnabled p enable)] .barrier = .ok dp
  | _ => False

/-- A call that passes the checks makes a request. -/
theorem Passes.requests (h : c.Passes dp op) (hserviceable : c.Serviceable) :
    c.Requests dp c.nextTicket op := by
  -- each call comes down to one attempt, with the ids it draws or was given
  cases op with
  | sendRequest d o =>
    obtain ⟨hdp, hxid⟩ := h
    obtain ⟨c', heq, -⟩ := attempts_sendRequest hserviceable hdp hxid
    exact .call (permit_single hdp).1 (congrArg (fun r => some (d, r)) heq)
  | sendWithBarrier d o barrier =>
    obtain ⟨hdp, hxid, hbarrier⟩ := h
    obtain ⟨c', heq, -⟩ := attempts_sendWithBarrier hserviceable hdp hxid hbarrier
    exact .call (permit_single hdp).1 (congrArg (fun r => some (d, r)) heq)
  | sendWithCompanion d o companion =>
    obtain ⟨hmessage, hshared, hdp, hxid, hbarrier⟩ := h
    obtain ⟨c', heq, -⟩ := attempts_sendWithBarrier hserviceable hdp hxid hbarrier
    have hsent : c.sendWithCompanion d o companion = (c', .ok c.nextTicket) := by
      rw [sendWithCompanion, if_neg (not_not.2 hmessage), if_neg, heq]
      rintro ⟨hsome, hsame⟩
      rw [hshared hsame] at hsome
      cases hsome
    exact .call (permit_single hdp).1 (congrArg (fun r => some (d, r)) hsent)
  | sendBatch d ms =>
    obtain ⟨hne, hdp, hpolicy⟩ := h
    cases ms with
    | nil => exact absurd rfl hne
    | cons first more =>
      obtain ⟨c', heq, -⟩ := attempts_sendBatch hserviceable hdp hpolicy
      exact .call (lookup_eq_ok_iff.1 hdp) (congrArg (fun r => some (d, r)) heq)
  | enablePort d n enable =>
    obtain ⟨p, hp, hdp⟩ := h
    have hregistered := (permit_single hdp).1
    have hnone : (none : Option Xid) ≠ some 0 := nofun
    obtain ⟨c', heq, -⟩ := attempts_sendWithBarrier (o := { message := .portMod _ })
      hserviceable hdp hnone hnone
    have hsent : c.enablePort d n enable = (c', .ok c.nextTicket) := by
      rw [enablePort, lookup_eq_ok_iff.2 hregistered]
      simp only [andThen, hp]
      exact heq
    exact .call hregistered (congrArg (fun r => some (d, r)) hsent)
  | _ => exact h.elim

/-! ## Runs -/

/-- An open request of the datapath has transaction id number `n`: the caller of the operation of
the run that made the request chose it, or that operation drew it whole rounds before. -/
def Meets (c₀ : Controller) (ops : List Operation) (dp : Datapath) (n : Nat) : Prop :=
  ∃ u before op, dp.requests.Occupies u (xidAt n) ∧ c₀.MadeBy ops u before op ∧
    (xidAt n ∈ op.chosen ∨
      ∃ i, (c₀.run before).drawn ≤ i ∧ i < ((c₀.run before).apply op).drawn ∧ i < n ∧
        UInt32.size - 1 ∣ n - i)

/-- An id whose number has not been drawn is in use exactly if it meets one of an open request. -/
theorem isUsed_xidAt_iff (settings : Settings) (mastership : Mastership) (ops : List Operation)
    {m : LinkId} (hdp : (run { settings, mastership } ops).datapath? m = some dp) {n : Nat}
    (hn : (run { settings, mastership } ops).drawn ≤ n) :
    dp.requests.isUsed (xidAt n) = true ↔ Meets { settings, mastership } ops dp n := by
  have h := regular_run (regular_new settings mastership) ops
  rw [(h.kept.book.indexed (table?_book hdp)).isUsed_iff_occupies]
  refine ⟨fun ⟨u, hu⟩ => ?_, fun ⟨u, _, _, hu, _⟩ => ⟨u, hu⟩⟩
  obtain ⟨before, op, hmade, hids⟩ := origin_run settings mastership ops
    ⟨_, table?_book hdp, hu⟩
  refine ⟨u, before, op, hu, hmade, (List.mem_append.1 hids).imp_right fun hids => ?_⟩
  obtain ⟨i, hle, hlt, heq⟩ := mem_idsFrom.1 hids
  -- numbers are never given back, so what was drawn for that request stands before
  have hearly : i < (run { settings, mastership } ops).drawn := by
    obtain ⟨after, rfl⟩ := hmade.within
    have hlater := (kept_run (kept_new settings mastership) (before ++ [op])).drawn_le_run after
    rw [run_concat] at hlater
    rw [run, List.foldl_append, ← run, ← run, run_concat]
    omega
  exact ⟨i, hle, by omega, by omega, (xidAt_eq_iff (by omega)).1 heq⟩

/-- In every run, a call that passes the checks makes a request. A request gets the ids that are
chosen or drawn for it, and fails for its ids, sooner or later, exactly if one of them is in use by
an open request of the datapath at that moment or it has one twice. No id that is drawn is 0. One
that is drawn is in use exactly if the caller of an open request chose it, or an open request drew
it whole rounds before. So a request that nobody chose an id for fails for its ids exactly if one
that it draws meets such a request, or if it draws more than there are. -/
theorem numbering_run (settings : Settings) (mastership : Mastership) (ops : List Operation) :
    let start : Controller := { settings, mastership }
    let c := run start ops
    (∀ op dp, c.Passes dp op → c.Requests dp c.nextTicket op) ∧
    ∀ op dp u, c.Requests dp u op →
      let c' := c.apply op
      (∀ m x, c'.book.Occupies m u x → x ∈ c.idsOf op) ∧
      (c'.FailsForIds u ↔
        (∃ x ∈ c.idsOf op, dp.requests.isUsed x = true) ∨ ¬ (c.idsOf op).Nodup) ∧
      0 ∉ idsFrom c.drawn (c'.drawn - c.drawn) ∧
      (∀ n, c.drawn ≤ n → (dp.requests.isUsed (xidAt n) = true ↔ start.Meets ops dp n)) ∧
      (op.chosen = [] →
        (c'.FailsForIds u ↔ (∃ n, c.drawn ≤ n ∧ n < c'.drawn ∧ start.Meets ops dp n) ∨
          UInt32.size ≤ c'.drawn - c.drawn)) := by
  intro start c
  refine ⟨fun _ _ hpasses => hpasses.requests (serviceable_run settings mastership ops), ?_⟩
  intro op dp u hrequests c'
  have hregular : c.Regular := regular_run (regular_new settings mastership) ops
  have h := hregular.kept
  obtain ⟨o, hmade⟩ := hrequests.made h.healthy.sound
  have hdrawn : c.drawn ≤ c'.drawn := (h.develops_apply op).drawn
  have hnew : u < c'.nextTicket := by
    rw [hmade.ticket]
    exact Nat.lt_of_lt_of_eq (Nat.lt_succ_self _) hmade.book.length.symm
  -- the request is new, so it has no ids from before
  have hown (m : LinkId) (x : Xid) (hx : c'.book.Occupies m u x) : x ∈ c.idsOf op :=
    (hregular.supplies_apply op m u x hx).resolve_left fun hold =>
      Nat.lt_irrefl _ (hmade.ticket ▸ h.lt_nextTicket hold)
  have hfails : c'.FailsForIds u ↔
      (∃ x ∈ c.idsOf op, dp.requests.isUsed x = true) ∨ ¬ (c.idsOf op).Nodup := by
    rw [(kept_apply h op).failsForIds_iff hnew]
    refine (hmade.book.failed_iff hmade.ticket rfl).trans (or_congr ?_ (not_congr ?_))
    · exact exists_congr fun x => and_congr_left fun _ => hmade.xids.mem_iff
    · exact hmade.xids.nodup_iff
  have hmeets (n : Nat) (hn : c.drawn ≤ n) :=
    isUsed_xidAt_iff settings mastership ops hmade.datapath hn
  refine ⟨hown, hfails, fun hzero => ?_, hmeets, fun hauto => ?_⟩
  · obtain ⟨i, -, -, heq⟩ := mem_idsFrom.1 hzero
    exact xidAt_ne_zero i heq
  · have hids : c.idsOf op = idsFrom c.drawn (c'.drawn - c.drawn) := by
      rw [idsOf, hauto]
      rfl
    rw [hfails, hids, nodup_idsFrom_iff, Nat.not_lt]
    refine or_congr_left ⟨?_, ?_⟩
    · rintro ⟨x, hx, hused⟩
      obtain ⟨n, hle, hlt, rfl⟩ := mem_idsFrom.1 hx
      exact ⟨n, hle, by omega, (hmeets n hle).1 hused⟩
    · rintro ⟨n, hle, hlt, hn⟩
      exact ⟨xidAt n, mem_idsFrom.2 ⟨n, hle, by omega, rfl⟩, (hmeets n hle).2 hn⟩

namespace SecondPort

/-- The operations of `introduced`, and a request whose caller chooses the id that is drawn next. -/
def choosing : List Operation :=
  greeting ++ .frame 0 features :: (sayings ++ [refusal]) ++
    [.sendRequest ⟨5⟩ { message := .getConfigRequest, xid := some 6 }]

/-- The request whose caller chose its id is open. -/
def occupied : Controller := run { settings := {} } choosing

/-- The id that is drawn for the next request is in use, and the request fails for it, although only
one request is open. -/
theorem drawn_id_in_use :
    (occupied.registered? ⟨5⟩).map (fun dp =>
      (dp.requests.size, dp.requests.isUsed (xidAt occupied.drawn))) = some (1, true) ∧
    (occupied.sendRequest ⟨5⟩ { message := .getConfigRequest }).1.ledger.outcome? 1 =
      some (.failed (.duplicateXid ⟨5⟩ (xidAt occupied.drawn))) := by
  refine ⟨?_, ?_⟩ <;> decide +kernel

/-- It fails because of the caller who chose the id. -/
theorem numbering_run_choosing :
    ∃ dp, occupied.Passes dp (.sendRequest ⟨5⟩ { message := .getConfigRequest }) ∧
      (occupied.apply (.sendRequest ⟨5⟩ { message := .getConfigRequest })).FailsForIds 1 ∧
      ∃ n, Meets { settings := {} } choosing dp n := by
  have hpermitted :
      ∃ dp, occupied.permit ⟨5⟩ [.getConfigRequest] .reply = .ok dp ∧
        dp.requests.isUsed 6 = true := by
    have hok : (occupied.permit ⟨5⟩ [.getConfigRequest] .reply).toOption.map
        (fun dp => dp.requests.isUsed 6) = some true := by
      decide +kernel
    cases hdp : occupied.permit ⟨5⟩ [.getConfigRequest] .reply with
    | error => rw [hdp] at hok; cases hok
    | ok dp => rw [hdp] at hok; exact ⟨dp, rfl, Option.some.inj hok⟩
  have hids : occupied.idsOf (.sendRequest ⟨5⟩ { message := .getConfigRequest }) = [6] := by
    decide +kernel
  have hfew : (occupied.apply (.sendRequest ⟨5⟩ { message := .getConfigRequest })).drawn -
      occupied.drawn < UInt32.size := by
    decide +kernel
  have hticket : occupied.nextTicket = 1 := by decide +kernel
  obtain ⟨dp, hdp, hused⟩ := hpermitted
  obtain ⟨hrequests, hrun⟩ := numbering_run {} .all choosing
  have hpasses : occupied.Passes dp (.sendRequest ⟨5⟩ { message := .getConfigRequest }) :=
    ⟨hdp, nofun⟩
  obtain ⟨-, hfails, -, -, hauto⟩ := hrun _ dp 1 (hticket ▸ hrequests _ dp hpasses)
  have hfailed := hfails.2 (.inl ⟨6, hids ▸ List.mem_singleton_self 6, hused⟩)
  -- there have been far too few draws to come round, so a chosen id was met
  rcases (hauto rfl).1 hfailed with ⟨n, -, -, hn⟩ | hmany
  · exact ⟨dp, hpasses, hfailed, n, hn⟩
  · exact absurd hmany (Nat.not_le.2 hfew)

end SecondPort

end Controller

end Southbound
