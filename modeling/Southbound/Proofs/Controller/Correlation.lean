import Southbound.Proofs.Controller.Policy
import Southbound.Proofs.Controller.Ports
import Southbound.Proofs.Controller.Registry
import Southbound.Proofs.Request.Representation

/-!
# Correlated requests are sent whole or taken back

A correlated request is entered into the table of its datapath before its frames are queued. If a
write fails the request has to leave the table again, with all the transaction ids it occupied and
with none of another request. `Attempts` says how a request that has passed the checks can end:
`Sent`, `Duplicate` or `Failed`.

* `RequestTable.gains_enroll`           what entering a request does to the table
* `RequestTable.sameUse_remove_enroll`  taking a request back leaves the use of ids as it was
* `writeAll_cases`                      frames are queued up to the first that cannot be
* `attempts_issue`                      how a request ends
* `attempts_correlated`                 the same for the calls that make one
-/

namespace Southbound

/-- A new request is found under the next ticket, and the others as before. -/
private theorem Ledger.get?_enter (l : Ledger) (r : Request) (u : Nat) :
    (l.enter r).1.get? u = if u = l.requests.length then some r else l.get? u := by
  simp only [enter, get?, List.getElem?_append, List.getElem?_singleton]
  split
  · next hlt => rw [if_neg (Nat.ne_of_lt hlt)]
  · next hge =>
    by_cases hu : u = l.requests.length
    · rw [if_pos hu, if_pos (by omega)]
    · rw [if_neg hu, if_neg (by omega), List.getElem?_eq_none (by omega)]

namespace RequestTable

variable {t : RequestTable} {c : Claim}

/-- The same requests are open, and each transaction id is in use by the same of them. -/
structure SameUse (t t' : RequestTable) : Prop where
  entries : ∀ x, t'.entries.find? x = t.entries.find? x
  isUsed : ∀ x, t'.isUsed x = t.isUsed x
  owner? : ∀ x, t'.owner? x = t.owner? x

/-- Which ids are in use, and by whom, is all in the three maps of a table. -/
private theorem sameUse_of_find? {t t' : RequestTable}
    (hentries : ∀ x, t'.entries.find? x = t.entries.find? x)
    (hbarriers : ∀ x, t'.barriers.find? x = t.barriers.find? x)
    (hwrites : ∀ x, t'.writes.find? x = t.writes.find? x) : t.SameUse t' where
  entries := hentries
  isUsed x := by simp only [RequestTable.isUsed, Keyed.has, hentries, hbarriers, hwrites]
  owner? x := by
    simp only [RequestTable.owner?, Keyed.has, hentries, hbarriers, hwrites]
    rfl

/-- An id that is not in use is in none of the maps. -/
theorem find?_of_isUsed {x : Xid} (h : t.isUsed x = false) :
    t.entries.find? x = none ∧ t.barriers.find? x = none ∧ t.writes.find? x = none := by
  simpa [RequestTable.isUsed, Keyed.has, and_assoc] using h

/-- Table `t'` has the request of a claim besides those of `t`. It is open under the ticket of the
claim, with nothing received for it yet, it owns the transaction ids that the claim asks for, and it
has a deadline and a generation of its own. The other requests, and who owns the other ids, are as
before. -/
structure Gains (t : RequestTable) (c : Claim) (t' : RequestTable) : Prop where
  opened : t'.entries.find? c.xid = some {
    ticket := c.ticket, xid := c.xid, completion := c.completion, barrier := c.barrier
    writes := c.writes, fragments := none, generation := t.generation + 1 }
  others : ∀ x, x ≠ c.xid → t'.entries.find? x = t.entries.find? x
  isUsed_iff : ∀ x, t'.isUsed x = true ↔ x ∈ c.xids ∨ t.isUsed x = true
  owns : ∀ x ∈ c.xids, t'.owner? x = some c.xid
  owner?_eq : ∀ x, x ∉ c.xids → t'.owner? x = t.owner? x
  deadlines : t'.deadlines.Perm (⟨c.created + t.ageOut, t.generation + 1, c.xid⟩ :: t.deadlines)
  generation : t'.generation = t.generation + 1
  datapath : t'.datapath = t.datapath
  ageOut : t'.ageOut = t.ageOut

/-- The ids of a claim are its own, its barrier's and those of its writes. -/
private theorem mem_xids_iff {x : Xid} :
    x ∈ c.xids ↔ x = c.xid ∨ c.barrier = some x ∨ x ∈ c.writes := by
  rw [Claim.xids, List.mem_cons, List.mem_append, Option.mem_toList]

/-- The request that owns a transaction id is looked for in the three maps in turn. -/
theorem owner?_eq_of_entries {x : Xid} (h : t.entries.find? x = none) :
    t.owner? x = (t.barriers.find? x).or (t.writes.find? x) := by
  rw [owner?, Keyed.has, h, Option.isSome_none, if_neg Bool.false_ne_true]
  cases t.barriers.find? x <;> rfl

/-- After a request was entered its ids are in use besides those that were. -/
private theorem isUsed_enroll_iff {x : Xid} :
    (t.enroll c).isUsed x = true ↔ x ∈ c.xids ∨ t.isUsed x = true := by
  rw [mem_xids_iff]
  simp only [isUsed, Keyed.has, entries_enroll, Keyed.find?_put, find?_barriers_enroll,
    find?_writes_enroll]
  by_cases hx : x = c.xid
  · simp [hx]
  · by_cases hb : c.barrier = some x
    · simp [hb]
    · by_cases hw : x ∈ c.writes <;> simp [hx, hb, hw]

/-- The new request owns all that its claim asks for. -/
theorem owner?_enroll_of_mem (hc : t.conflict? c = none) {x : Xid} (hx : x ∈ c.xids) :
    (t.enroll c).owner? x = some c.xid := by
  obtain ⟨hentries, hbarriers, -⟩ := find?_of_isUsed ((conflict?_eq_none_iff.1 hc).1 x hx)
  have hput : (t.enroll c).entries.find? x =
      if x = c.xid then some (c.opened (t.generation + 1)) else none := by
    rw [entries_enroll, Keyed.find?_put, hentries]
  -- the id of the request itself, or one of its barrier or its writes
  by_cases hself : x = c.xid
  · rw [owner?, Keyed.has, hput, if_pos hself, Option.isSome_some, if_pos rfl, hself]
  · rw [owner?_eq_of_entries (hput.trans (if_neg hself)), find?_barriers_enroll,
      find?_writes_enroll, hbarriers]
    rcases (mem_xids_iff.1 hx).resolve_left hself with hb | hw
    · rw [if_pos hb, Option.some_or]
    · rw [if_pos hw]
      split <;> rfl

/-- It owns nothing else. -/
theorem owner?_enroll_of_not_mem {x : Xid} (hx : x ∉ c.xids) :
    (t.enroll c).owner? x = t.owner? x := by
  rw [mem_xids_iff, not_or, not_or] at hx
  obtain ⟨hself, hb, hw⟩ := hx
  simp only [owner?, Keyed.has, entries_enroll, Keyed.find?_put, find?_barriers_enroll,
    find?_writes_enroll, if_neg hself, if_neg hb, if_neg hw]
  rfl

theorem gains_enroll (hc : t.conflict? c = none) : t.Gains c (t.enroll c) where
  opened := by rw [entries_enroll, Keyed.find?_put, if_pos rfl]; rfl
  others x hx := by rw [entries_enroll, Keyed.find?_put, if_neg hx]
  isUsed_iff _ := isUsed_enroll_iff
  owns _ hx := owner?_enroll_of_mem hc hx
  owner?_eq _ hx := owner?_enroll_of_not_mem hx
  deadlines := insertDeadline_perm _ _
  generation := rfl
  datapath := rfl
  ageOut := rfl

/-- Whoever takes out at once what was entered gives its transaction ids back, and no others. -/
theorem sameUse_remove_enroll (hc : t.conflict? c = none) :
    t.SameUse ((t.enroll c).remove c.xid).1 := by
  -- all ids of the claim were free, so to enter and withdraw it leaves every id as it was
  have hfree {x : Xid} (hx : x ∈ c.xids) := find?_of_isUsed ((conflict?_eq_none_iff.1 hc).1 x hx)
  have hfound : (t.enroll c).entries.find? c.xid = some (c.opened (t.generation + 1)) := by
    rw [entries_enroll, Keyed.find?_put, if_pos rfl]
  refine sameUse_of_find? (fun x => ?_) (fun b => ?_) (fun w => ?_)
  · rw [find?_entries_remove]
    split
    · next hx => rw [hx, (hfree List.mem_cons_self).1]
    · next hx => rw [entries_enroll, Keyed.find?_put, if_neg hx]
  · rw [remove_of_find? hfound]
    dsimp only
    rw [Keyed.find?_eraseAll, find?_barriers_enroll]
    split
    · next hb =>
      have hmem : b ∈ c.xids := List.mem_cons_of_mem _ (List.mem_append_left _ hb)
      exact (hfree hmem).2.1.symm
    · next hb => exact if_neg fun heq => hb (Option.mem_toList.2 heq)
  · rw [remove_of_find? hfound]
    dsimp only
    rw [Keyed.find?_eraseAll, find?_writes_enroll]
    split
    · next hw =>
      have hmem : w ∈ c.xids := List.mem_cons_of_mem _ (List.mem_append_right _ hw)
      exact (hfree hmem).2.2.symm
    · next hw => exact if_neg hw

end RequestTable

/-! ## Queues -/

/-- The connection with frames behind the others. -/
def Connection.enqueue (k : Connection) (frames : List Bytes) : Connection :=
  { k with queue := k.queue ++ frames, framesSent := k.framesSent + frames.length }

@[simp] theorem Connection.enqueue_nil (k : Connection) : k.enqueue [] = k := by
  rw [enqueue, List.append_nil]
  rfl

/-- Frames queued one after the other are queued in order. -/
private theorem Connection.enqueue_enqueue (k : Connection) (frame : Bytes) (frames : List Bytes) :
    (k.enqueue [frame]).enqueue frames = k.enqueue (frame :: frames) := by
  simp only [enqueue, List.append_assoc, List.singleton_append, List.length_cons, List.length_nil,
    Nat.zero_add, Nat.add_assoc, Nat.add_comm 1]

/-- The frames of messages under their transaction ids, in order. -/
def Encoded (v : Version) (ws : List (Xid × Message)) (frames : List Bytes) : Prop :=
  List.Forall₂ (fun w frame => Codec.encode v w.1 w.2 = .ok frame) ws frames

namespace Controller

variable {c c' c'' : Controller} {l : LinkId} {k : Connection}

/-- The frames of messages were queued on connection `l`, and all that changed besides is how much
traffic was counted. -/
structure Queued (l : LinkId) (k : Connection) (ws : List (Xid × Message)) (frames : List Bytes)
    (c c' : Controller) : Prop where
  encoded : Encoded k.version ws frames
  link : c'.link? l = (c.link? l).map fun j => { j with connection := k.enqueue frames }
  others : ∀ j, j ≠ l → c'.link? j = c.link? j
  datapaths : c'.datapaths = c.datapaths
  registry : c'.registry = c.registry
  ledger : c'.ledger = c.ledger

/-- To queue nothing changes nothing. -/
private theorem Queued.nil (hk : c.connection? l = some k) : Queued l k [] [] c c := by
  refine ⟨.nil, ?_, fun _ _ => rfl, rfl, rfl, rfl⟩
  obtain ⟨j, hj, rfl⟩ := connection?_eq_some hk
  rw [hj, Connection.enqueue_nil]
  rfl

/-- Messages are queued one after the other. -/
private theorem Queued.cons {x : Xid} {m : Message} {ws : List (Xid × Message)} {frame : Bytes}
    {frames : List Bytes} (h : Queued l k [(x, m)] [frame] c c')
    (h' : Queued l (k.enqueue [frame]) ws frames c' c'') :
    Queued l k ((x, m) :: ws) (frame :: frames) c c'' := by
  refine ⟨.cons ?_ h'.encoded, ?_, fun j hj => (h'.others j hj).trans (h.others j hj),
    h'.datapaths.trans h.datapaths, h'.registry.trans h.registry, h'.ledger.trans h.ledger⟩
  · cases h.encoded with
    | cons hframe _ => exact hframe
  · rw [h'.link, h.link, Option.map_map, Connection.enqueue_enqueue]
    rfl

/-- The connection has the frames behind those that it had. -/
private theorem Queued.connection? {ws : List (Xid × Message)} {frames : List Bytes}
    (h : Queued l k ws frames c c') (hk : c.connection? l = some k) :
    c'.connection? l = some (k.enqueue frames) := by
  obtain ⟨j, hj, -⟩ := connection?_eq_some hk
  rw [Controller.connection?, h.link, hj]
  rfl

/-- A message that can be written is queued as one frame. -/
private theorem queued_write {x : Xid} {m : Message} (hk : c.connection? l = some k)
    (h : c.write l x m = .ok c') : ∃ frame, Queued l k [(x, m)] [frame] c c' := by
  obtain ⟨k', frame, hk', -, hframe, rfl⟩ := write_eq_ok h
  obtain rfl := Option.some.inj (hk.symm.trans hk')
  refine ⟨frame, .cons hframe .nil, ?_, fun j hj => ?_, ?_, ?_, ?_⟩
  · have hlink : (c.modifyConnection l fun _ => k.enqueue [frame]).link? l =
        (c.link? l).map fun j => { j with connection := k.enqueue [frame] } := by
      rw [modifyConnection, link?_modifyLink, if_pos rfl]
    cases m <;> exact hlink
  · have hlink : (c.modifyConnection l fun _ => k.enqueue [frame]).link? j = c.link? j := by
      rw [modifyConnection, link?_modifyLink, if_neg hj]
    cases m <;> exact hlink
  all_goals cases m <;> rfl

/-- Frames are queued one after the other up to the first that cannot be. -/
theorem writeAll_cases (hk : c.connection? l = some k) (ws : List (Xid × Message)) :
    (∃ c' frames, c.writeAll l ws = (c', .ok ()) ∧ Queued l k ws frames c c') ∨
    ∃ c' sent w unsent frames e, ws = sent ++ w :: unsent ∧
      c.writeAll l ws = (c', .error e) ∧ Queued l k sent frames c c' ∧
      (k.enqueue frames).send Codec.encode w.1 w.2 = .error e := by
  -- the connection grows by a frame with each write, so it is general in the induction
  induction ws generalizing c k with
  | nil => exact .inl ⟨c, [], rfl, .nil hk⟩
  | cons w ws ih =>
    obtain ⟨x, m⟩ := w
    rw [writeAll]
    cases hwritten : c.write l x m with
    | error e =>
      refine .inr ⟨c, [], (x, m), ws, [], e, rfl, rfl, .nil hk, ?_⟩
      rw [Connection.enqueue_nil]
      simp only [write, hk] at hwritten
      cases hsent : k.send Codec.encode x m with
      | ok k' =>
        rw [hsent] at hwritten
        cases hwritten
      | error e' =>
        rw [hsent] at hwritten
        exact congrArg Except.error (Except.error.inj hwritten)
    | ok c₁ =>
      obtain ⟨frame, hfirst⟩ := queued_write hk hwritten
      rcases ih (hfirst.connection? hk) with ⟨c', frames, heq, hrest⟩ |
        ⟨c', sent, w, unsent, frames, e, rfl, heq, hrest, hcause⟩
      · exact .inl ⟨c', frame :: frames, heq, hfirst.cons hrest⟩
      · refine .inr ⟨c', (x, m) :: sent, w, unsent, frame :: frames, e, rfl, heq,
          hfirst.cons hrest, ?_⟩
        rwa [Connection.enqueue_enqueue] at hcause

end Controller

/-! ## Requests -/

/-- A correlated request as it is made. -/
structure Order where
  type : MessageType
  xid : Xid
  completion : Completion
  barrier : Option Xid := none
  /-- The messages under their transaction ids; the first has that of the request. -/
  writes : List (Xid × Message)

namespace Order

/-- What the request asks the table for. -/
def claim (o : Order) (ticket : Ticket) (created : Nat) : Claim where
  ticket := ticket
  xid := o.xid
  created := created
  completion := o.completion
  barrier := o.barrier
  writes := o.writes.tail.map (·.1)

/-- The transaction ids that the request claims, its own first. -/
def xids (o : Order) : List Xid := o.xid :: (o.barrier.toList ++ o.writes.tail.map (·.1))

/-- What is to be queued: the messages, and behind them the barrier request if there is one. -/
def frames (o : Order) : List (Xid × Message) :=
  o.writes ++ o.barrier.toList.map fun b => (b, .barrierRequest)

/-- The request as it is entered into the ledger. -/
def request (o : Order) (d : DatapathId) (created : Nat) : Request :=
  { datapath := d, xid := o.xid, type := o.type, created }

end Order

namespace Controller

variable {c c' : Controller} {dp : Datapath} {k : Connection} {o : Order}

/-- The request is open under the next ticket and owns the transaction ids that it asks for, the
other requests are as before, and all its frames are queued, in order. -/
structure Sent (c : Controller) (dp : Datapath) (k : Connection) (o : Order) (c' : Controller) :
    Prop where
  free : ∀ x ∈ o.xids, dp.requests.isUsed x = false
  nodup : o.xids.Nodup
  connection : ∃ frames, Encoded k.version o.frames frames ∧
    c'.connection? dp.main = some (k.enqueue frames)
  table : ∃ t, c'.datapath? dp.main = some { dp with requests := t } ∧
    dp.requests.Gains (o.claim c.nextTicket c.clock) t
  pending : c'.ledger.get? c.nextTicket = some (o.request dp.id c.clock)

/-- A transaction id of the request is in use or claimed twice: nothing is queued, and the table is
as it was. -/
structure Duplicate (c : Controller) (dp : Datapath) (k : Connection) (o : Order)
    (c' : Controller) : Prop where
  outcome : ∃ x ∈ o.xids, (dp.requests.isUsed x = true ∨ ¬ o.xids.Nodup) ∧
    c'.ledger.get? c.nextTicket = some { o.request dp.id c.clock with
      outcome := some (.failed (.duplicateXid dp.requests.datapath x)) }
  connection : c'.connection? dp.main = some k
  table : c'.datapath? dp.main = some dp

/-- A frame cannot be encoded or queued: those in front of it are queued, the request ends with that
failure, and the table uses the same transaction ids for the same requests as before. -/
structure Failed (c : Controller) (dp : Datapath) (k : Connection) (o : Order) (c' : Controller) :
    Prop where
  free : ∀ x ∈ o.xids, dp.requests.isUsed x = false
  nodup : o.xids.Nodup
  connection : ∃ sent w unsent frames e, o.frames = sent ++ w :: unsent ∧
    Encoded k.version sent frames ∧ c'.connection? dp.main = some (k.enqueue frames) ∧
    (k.enqueue frames).send Codec.encode w.1 w.2 = .error e ∧
    c'.ledger.get? c.nextTicket = some { o.request dp.id c.clock with outcome := some (.failed e) }
  table : ∃ t, c'.datapath? dp.main = some { dp with requests := t } ∧ dp.requests.SameUse t

/-- Only one connection, the datapath that it is the main one of, and a new request can have
changed. -/
structure Undisturbed (m : LinkId) (c c' : Controller) : Prop where
  links : ∀ j, j ≠ m → c'.link? j = c.link? j
  session : (c'.link? m).map (·.session) = (c.link? m).map (·.session)
  datapaths : ∀ j, j ≠ m → c'.datapath? j = c.datapath? j
  registry : c'.registry = c.registry
  requests : ∀ t, t ≠ c.nextTicket → c'.ledger.get? t = c.ledger.get? t

/-- How a correlated request to a datapath can end. -/
structure Attempts (c : Controller) (dp : Datapath) (o : Order) (c' : Controller) : Prop where
  undisturbed : Undisturbed dp.main c c'
  ends : ∃ k, c.connection? dp.main = some k ∧
    (Sent c dp k o c' ∨ Duplicate c dp k o c' ∨ Failed c dp k o c')

/-- A claim is admitted if its ids are free and none is claimed twice. -/
private theorem conflict?_claim_iff {t : RequestTable} {ticket : Ticket} {created : Nat} :
    t.conflict? (o.claim ticket created) = none ↔
      (∀ x ∈ o.xids, t.isUsed x = false) ∧ o.xids.Nodup :=
  RequestTable.conflict?_eq_none_iff

/-- A request that is entered and fails. -/
theorem get?_settle_enter (l : Ledger) {r : Request} (hr : r.outcome = none) (f : Failure)
    (u : Nat) :
    ((l.enter r).1.settle l.requests.length (.failed f)).get? u =
      if u = l.requests.length then some { r with outcome := some (.failed f) } else l.get? u := by
  rw [Ledger.get?_settle, Ledger.get?_enter]
  by_cases hu : u = l.requests.length
  · rw [if_pos hu, if_pos hu, Option.map_some, if_pos hu.symm, Request.settle, hr]
  · simp only [if_neg hu, if_neg (Ne.symm hu), Option.map_id']

/-- The state of a request that is known, but for the table of its datapath. -/
structure Entered (c : Controller) (dp : Datapath) (o : Order) (t : RequestTable)
    (c₁ : Controller) : Prop where
  links : c₁.links = c.links
  registry : c₁.registry = c.registry
  ledger : c₁.ledger = (c.ledger.enter (o.request dp.id c.clock)).1
  datapath : c₁.datapath? dp.main = some { dp with requests := t }
  others : ∀ j, j ≠ dp.main → c₁.datapath? j = c.datapath? j

section Entered

variable {t : RequestTable} {c₁ : Controller}

/-- To enter a request and queue its frames disturbs nobody else. -/
private theorem Entered.undisturbed (h : Entered c dp o t c₁) {ws : List (Xid × Message)}
    {frames : List Bytes} (hqueued : Queued dp.main k ws frames c₁ c') :
    Undisturbed dp.main c c' := by
  have hlink (j : LinkId) : c₁.link? j = c.link? j := by rw [link?, h.links]; rfl
  refine ⟨fun j hj => (hqueued.others j hj).trans (hlink j), ?_, fun j hj => ?_,
    hqueued.registry.trans h.registry, fun u hu => ?_⟩
  · rw [hqueued.link, hlink, Option.map_map]
    rfl
  · rw [datapath?, hqueued.datapaths]
    exact h.others j hj
  · rw [hqueued.ledger, h.ledger]
    exact (Ledger.get?_enter _ _ _).trans (if_neg hu)

/-- Queueing leaves the table of the datapath as it is. -/
private theorem Entered.datapath?_queued (h : Entered c dp o t c₁) {ws : List (Xid × Message)}
    {frames : List Bytes} (hqueued : Queued dp.main k ws frames c₁ c') :
    c'.datapath? dp.main = some { dp with requests := t } := by
  rw [datapath?, hqueued.datapaths]
  exact h.datapath

/-- The connections are as they were before the request was entered. -/
private theorem Entered.connection? (h : Entered c dp o t c₁) (j : LinkId) :
    c₁.connection? j = c.connection? j := by
  rw [Controller.connection?, link?, h.links]
  rfl

/-- All frames of an open request are queued. -/
theorem Entered.sent (h : Entered c dp o (dp.requests.enroll (o.claim c.nextTicket c.clock)) c₁)
    (hk : c.connection? dp.main = some k)
    (hc : dp.requests.conflict? (o.claim c.nextTicket c.clock) = none) {frames : List Bytes}
    (hqueued : Queued dp.main k o.frames frames c₁ c') : Attempts c dp o c' := by
  obtain ⟨hfree, hnodup⟩ := conflict?_claim_iff.1 hc
  refine ⟨h.undisturbed hqueued, k, hk, .inl ⟨hfree, hnodup, ⟨frames, hqueued.encoded, ?_⟩,
    ⟨_, h.datapath?_queued hqueued, RequestTable.gains_enroll hc⟩, ?_⟩⟩
  · exact hqueued.connection? ((h.connection? _).trans hk)
  · rw [hqueued.ledger, h.ledger]
    exact (Ledger.get?_enter _ _ _).trans (if_pos rfl)

/-- A frame of an open request cannot be queued, and the request is taken back. -/
theorem Entered.failed (h : Entered c dp o (dp.requests.enroll (o.claim c.nextTicket c.clock)) c₁)
    (hk : c.connection? dp.main = some k)
    (hc : dp.requests.conflict? (o.claim c.nextTicket c.clock) = none)
    {sent unsent : List (Xid × Message)} {w : Xid × Message} {frames : List Bytes} {e : Failure}
    (hframes : o.frames = sent ++ w :: unsent) (hqueued : Queued dp.main k sent frames c₁ c')
    (hcause : (k.enqueue frames).send Codec.encode w.1 w.2 = .error e) {dp' : Datapath}
    (hdp' : dp' = { dp with requests := dp.requests.enroll (o.claim c.nextTicket c.clock) }) :
    Attempts c dp o { (c'.track dp' fun t => t.remove o.xid).1 with
      ledger :=
        (c'.track dp' fun t => t.remove o.xid).1.ledger.settle c.nextTicket (.failed e) } := by
  subst hdp'
  obtain ⟨hfree, hnodup⟩ := conflict?_claim_iff.1 hc
  have hbefore := h.undisturbed hqueued
  have hledger : c'.ledger = (c.ledger.enter (o.request dp.id c.clock)).1 :=
    hqueued.ledger.trans h.ledger
  -- of the request itself only the outcome is left
  have hsettled := get?_settle_enter c.ledger (r := o.request dp.id c.clock) rfl e
  rw [← hledger] at hsettled
  have htracked := datapath?_track c'
    { dp with requests := dp.requests.enroll (o.claim c.nextTicket c.clock) }
    fun t => t.remove o.xid
  refine ⟨⟨hbefore.links, hbefore.session, fun j hj => ?_, hbefore.registry, fun u hu => ?_⟩,
    k, hk, .inr (.inr ⟨hfree, hnodup, ⟨sent, w, unsent, frames, e, hframes, hqueued.encoded,
      hqueued.connection? ((h.connection? _).trans hk), hcause, ?_⟩, _, ?_,
      RequestTable.sameUse_remove_enroll hc⟩)⟩
  · exact (htracked j).trans ((if_neg hj).trans (hbefore.datapaths j hj))
  · exact (hsettled u).trans (if_neg hu)
  · exact (hsettled _).trans (if_pos rfl)
  · refine (htracked dp.main).trans ((if_pos rfl).trans ?_)
    rw [h.datapath?_queued hqueued]
    rfl

end Entered

/-- How a request ends whose frames are to go to a datapath that the controller has. -/
theorem attempts_issue (hdp : c.datapath? dp.main = some dp)
    (hk : c.connection? dp.main = some k) (n : Nat) (o : Order) :
    ∃ c', Controller.issue { c with drawn := n } dp o.type (fun ticket => o.claim ticket c.clock)
      o.frames = (c', c.nextTicket) ∧ Attempts c dp o c' := by
  -- three states: drawn and known, then entered in the table, then written
  let claim := o.claim c.nextTicket c.clock
  let c₀ : Controller := Controller.known { c with drawn := n } dp o.type o.xid
  let c₁ := (c₀.track dp fun t => t.register claim).1
  have hself : c₁.datapath? dp.main =
      some { dp with requests := (Tracker.register ⟨c₀.ledger, dp.requests⟩ claim).1.table } :=
    (datapath?_track c₀ dp (fun t => t.register claim) dp.main).trans
      ((if_pos rfl).trans (congrArg _ hdp))
  have hothers (j : LinkId) (hj : j ≠ dp.main) : c₁.datapath? j = c.datapath? j :=
    (datapath?_track c₀ dp (fun t => t.register claim) j).trans (if_neg hj)
  cases hc : dp.requests.conflict? claim with
  | some x =>
    -- refused: the ledger knows the request and why it failed, and nothing was written
    obtain ⟨hx, hwhy⟩ := Tracker.conflict?_spec hc
    have hregister : Tracker.register ⟨c₀.ledger, dp.requests⟩ claim =
        (⟨c₀.ledger.settle c.nextTicket (.failed (.duplicateXid dp.requests.datapath x)),
          dp.requests⟩, .error (.duplicateXid dp.requests.datapath x)) := by
      simp only [Tracker.register, RequestTable.insert, hc]
      rfl
    have hledger : c₁.ledger = c₀.ledger.settle c.nextTicket _ :=
      congrArg (fun p => p.1.ledger) hregister
    rw [hregister] at hself
    have hsettled := get?_settle_enter c.ledger (r := o.request dp.id c.clock) rfl
      (.duplicateXid dp.requests.datapath x)
    rw [show (c.ledger.enter (o.request dp.id c.clock)).1 = c₀.ledger from rfl] at hsettled
    refine ⟨c₁, issue_of_refused (track_eq hregister), ⟨fun _ _ => rfl, rfl, hothers, rfl,
      fun u hu => ?_⟩, k, hk, .inr (.inl ⟨⟨x, hx, hwhy, ?_⟩, hk, hself⟩)⟩
    · rw [hledger]
      exact (hsettled u).trans (if_neg hu)
    · rw [hledger]
      exact (hsettled _).trans (if_pos rfl)
  | none =>
    have hregister : Tracker.register ⟨c₀.ledger, dp.requests⟩ claim =
        (⟨c₀.ledger, dp.requests.enroll claim⟩, .ok ()) := by
      simp only [Tracker.register, RequestTable.insert, hc]
    rw [hregister] at hself
    have hentered : Entered c dp o (dp.requests.enroll claim) c₁ :=
      ⟨rfl, rfl, congrArg (fun p => p.1.ledger) hregister, hself, hothers⟩
    have htracked : c₀.track dp (fun t => t.register claim) = (c₁, .ok ()) := track_eq hregister
    rcases writeAll_cases (c := c₁) (l := dp.main) hk o.frames with
      ⟨c', frames, hwritten, hqueued⟩ |
      ⟨c', sent, w, unsent, frames, e, hframes, hwritten, hqueued, hcause⟩
    · exact ⟨c', issue_of_written htracked hwritten, hentered.sent hk hc hqueued⟩
    · exact ⟨_, issue_of_failed htracked hwritten (hentered.datapath?_queued hqueued),
        hentered.failed hk hc hframes hqueued hcause rfl⟩

/-! ## Calls -/

/-- A request that its reply ends. -/
def replyOrder (c : Controller) (o : Outbound) : Order :=
  let own := o.xid.getD (xidAt c.drawn)
  { type := o.message.type, xid := own, completion := .byReply, writes := [(own, o.message)] }

/-- A request that the reply to a barrier behind it ends. -/
def barrierOrder (c : Controller) (o : Outbound) (barrier : Option Xid) : Order :=
  let own := o.xid.getD (xidAt c.drawn)
  -- the barrier gets the id behind that of the request, if both are drawn
  let next := c.drawn + if o.xid.isNone then 1 else 0
  { type := o.message.type, xid := own, completion := .byBarrier
    barrier := some (barrier.getD (xidAt next)), writes := [(own, o.message)] }

/-- Several requests that the reply to one barrier behind them ends. -/
def batchOrder (c : Controller) (first : Message) (more : List Message) : Order where
  type := first.type
  xid := xidAt c.drawn
  completion := .byBarrier
  barrier := some (xidAt (c.drawn + (first :: more).length))
  writes := ((first :: more).zipIdx c.drawn).map fun (m, n) => (xidAt n, m)

/-- An id is drawn only if none was chosen, and it is the next one. -/
theorem xidFor_eq (c : Controller) (chosen : Option Xid) :
    c.xidFor chosen = ({ c with drawn := c.drawn + if chosen.isNone then 1 else 0 },
      chosen.getD (xidAt c.drawn)) := by
  cases chosen <;> rfl

/-- Each message of a batch gets the next id. -/
theorem drawXids_eq (c : Controller) (ms : List Message) :
    c.drawXids ms = ({ c with drawn := c.drawn + ms.length },
      (ms.zipIdx c.drawn).map fun (m, n) => (xidAt n, m)) := by
  induction ms generalizing c with
  | nil => rfl
  | cons m ms ih =>
    rw [drawXids]
    simp only [drawXid, ih, List.zipIdx_cons, List.map_cons, List.length_cons, Nat.add_assoc,
      Nat.add_comm 1]

/-- A registered datapath is filed under its main connection, which is one of the controller's. -/
def Serviceable (c : Controller) : Prop :=
  ∀ d dp, c.registered? d = some dp →
    dp.id = d ∧ c.datapath? dp.main = some dp ∧ ∃ k, c.connection? dp.main = some k

/-- In every run a registered datapath can be served. -/
theorem serviceable_run (settings : Settings) (mastership : Mastership) (ops : List Operation) :
    (run { settings, mastership } ops).Serviceable := by
  intro d dp hdp
  obtain ⟨hid, hk⟩ := linked_run settings mastership ops d dp hdp
  obtain ⟨hdp', -⟩ := lookup_eq_ok (kept_run (kept_new settings mastership) ops).healthy.sound
    (lookup_eq_ok_iff.2 hdp)
  exact ⟨hid, hdp', hk⟩

/-- Any id but zero may be chosen. -/
private theorem checkXid_eq_ok {x : Option Xid} (hx : x ≠ some 0) : Policy.checkXid x = .ok () :=
  if_neg hx

/-- Who makes a request is told its ticket, whatever becomes of it. -/
def answered (r : Controller × Ticket) : Controller × Except Failure Ticket := (r.1, .ok r.2)

/-- A request that is permitted is attempted. -/
theorem attempts_sendRequest (h : c.Serviceable) {d : DatapathId} {o : Outbound}
    (hdp : c.permit d [o.message] .reply = .ok dp) (hxid : o.xid ≠ some 0) :
    ∃ c', c.sendRequest d o = (c', .ok c.nextTicket) ∧ Attempts c dp (c.replyOrder o) c' := by
  obtain ⟨-, hfiled, k, hk⟩ := h d dp (permit_single hdp).1
  obtain ⟨c', hissue, hattempts⟩ := attempts_issue hfiled hk
    (c.drawn + if o.xid.isNone then 1 else 0) (c.replyOrder o)
  refine ⟨c', ?_, hattempts⟩
  rw [sendRequest, hdp, checkXid_eq_ok hxid]
  simp only [andThen, xidFor_eq]
  exact congrArg answered hissue

/-- So is a message with a barrier behind it. -/
theorem attempts_sendWithBarrier (h : c.Serviceable) {d : DatapathId} {o : Outbound}
    {barrier : Option Xid} (hdp : c.permit d [o.message] .barrier = .ok dp)
    (hxid : o.xid ≠ some 0) (hbarrier : barrier ≠ some 0) :
    ∃ c', c.sendWithBarrier d o barrier = (c', .ok c.nextTicket) ∧
      Attempts c dp (c.barrierOrder o barrier) c' := by
  obtain ⟨-, hfiled, k, hk⟩ := h d dp (permit_single hdp).1
  obtain ⟨c', hissue, hattempts⟩ := attempts_issue hfiled hk
    (c.drawn + (if o.xid.isNone then 1 else 0) + if barrier.isNone then 1 else 0)
    (c.barrierOrder o barrier)
  refine ⟨c', ?_, hattempts⟩
  rw [sendWithBarrier, hdp, checkXid_eq_ok hxid, checkXid_eq_ok hbarrier]
  simp only [andThen, xidFor_eq]
  exact congrArg answered hissue

/-- A check of several messages passes if it passes for each of them. -/
private theorem forM_ok {f : Message → Except Failure Unit} {ms : List Message}
    (h : ∀ m ∈ ms, f m = .ok ()) : ms.forM f = .ok () := by
  induction ms with
  | nil => rfl
  | cons m ms ih =>
    obtain ⟨hm, hms⟩ := List.forall_mem_cons.1 h
    show (f m >>= fun _ => ms.forM f) = .ok ()
    rw [hm]
    exact ih hms

/-- A batch of permitted messages is attempted as one request. -/
theorem attempts_sendBatch (h : c.Serviceable) {d : DatapathId} {first : Message}
    {more : List Message} (hdp : c.lookup d = .ok dp)
    (hpolicy : ∀ m ∈ first :: more, Policy.check (c.roleOf d) d m .barrier = .ok ()) :
    ∃ c', c.sendBatch d (first :: more) = (c', .ok c.nextTicket) ∧
      Attempts c dp (c.batchOrder first more) c' := by
  obtain ⟨hid, hfiled, k, hk⟩ := h d dp (lookup_eq_ok_iff.1 hdp)
  obtain ⟨c', hissue, hattempts⟩ := attempts_issue hfiled hk
    (c.drawn + (first :: more).length + 1) (c.batchOrder first more)
  refine ⟨c', ?_, hattempts⟩
  have hchecks : (first :: more).forM (fun m => Policy.check (c.roleOf dp.id) dp.id m .barrier) =
      .ok () := forM_ok fun m hm => hid ▸ hpolicy m hm
  rw [sendBatch, hdp]
  simp only [andThen, sendBatchOn, hchecks, drawXids_eq, drawXid, List.zipIdx_cons, List.map_cons]
  exact congrArg answered hissue

/-- A correlated request that has passed the checks is either sent whole, or refused without a
trace for a transaction id that is in use or claimed twice, or cut short by the first frame that
fails, and then taken back. All this needs is that datapaths are filed under their main connections,
which is so in every run. -/
theorem attempts_correlated :
    (∀ settings mastership ops, (run { settings, mastership } ops).Serviceable) ∧
    ∀ c : Controller, c.Serviceable → ∀ d dp,
      (∀ o, c.permit d [o.message] .reply = .ok dp → o.xid ≠ some 0 →
        ∃ c', c.sendRequest d o = (c', .ok c.nextTicket) ∧ Attempts c dp (c.replyOrder o) c') ∧
      (∀ o barrier, c.permit d [o.message] .barrier = .ok dp → o.xid ≠ some 0 →
        barrier ≠ some 0 → ∃ c', c.sendWithBarrier d o barrier = (c', .ok c.nextTicket) ∧
          Attempts c dp (c.barrierOrder o barrier) c') ∧
      ∀ first more, c.lookup d = .ok dp →
        (∀ m ∈ first :: more, Policy.check (c.roleOf d) d m .barrier = .ok ()) →
        ∃ c', c.sendBatch d (first :: more) = (c', .ok c.nextTicket) ∧
          Attempts c dp (c.batchOrder first more) c' :=
  ⟨serviceable_run, fun _ h _ _ => ⟨fun _ => attempts_sendRequest h,
    fun _ _ => attempts_sendWithBarrier h, fun _ _ => attempts_sendBatch h⟩⟩

/-! ## A switch that was just introduced -/

namespace SecondPort

/-- Datapath 5 is registered, five transaction ids are drawn, and nothing is open. -/
def introduced : Controller :=
  run { settings := {} } (greeting ++ .frame 0 features :: (sayings ++ [refusal]))

/-- Whether a message is permitted can be computed. -/
private theorem exists_permit (m : Message) (path : SendPath)
    (h : (introduced.permit ⟨5⟩ [m] path).isOk = true) :
    ∃ dp, introduced.permit ⟨5⟩ [m] path = .ok dp := by
  cases hdp : introduced.permit ⟨5⟩ [m] path with
  | ok dp => exact ⟨dp, rfl⟩
  | error e =>
    rw [hdp] at h
    cases h

/-- A request is made, and a request with a barrier of its own. -/
theorem attempts_introduced :
    (∃ dp c', introduced.sendRequest ⟨5⟩ { message := .getConfigRequest } = (c', .ok 0) ∧
      Attempts introduced dp (introduced.replyOrder { message := .getConfigRequest }) c') ∧
    ∃ dp c', introduced.sendWithBarrier ⟨5⟩ { message := .flowMod {} } (some 9) = (c', .ok 0) ∧
      Attempts introduced dp (introduced.barrierOrder { message := .flowMod {} } (some 9)) c' := by
  obtain ⟨hrun, hattempts⟩ := attempts_correlated
  have hticket : introduced.nextTicket = 0 := by decide +kernel
  have h := hattempts introduced (hrun {} .all _)
  rw [hticket] at h
  -- both messages are permitted on the introduced datapath, so both theorems apply
  obtain ⟨dp, hdp⟩ := exists_permit .getConfigRequest .reply (by decide +kernel)
  obtain ⟨dp', hdp'⟩ := exists_permit (.flowMod {}) .barrier (by decide +kernel)
  exact ⟨⟨dp, (h ⟨5⟩ dp).1 { message := .getConfigRequest } hdp nofun⟩,
    dp', (h ⟨5⟩ dp').2.1 { message := .flowMod {} } (some 9) hdp' nofun (by decide)⟩

/-- A request under the transaction id that is drawn next: no open request uses it, and frames can
be queued, but the barrier behind the request gets the same id, and the request is refused. -/
theorem duplicate_own_barrier :
    let o : Outbound := { message := .echoRequest [], xid := some 6 }
    let c := (introduced.sendWithBarrier ⟨5⟩ o none).1
    (introduced.permit ⟨5⟩ [o.message] .barrier).isOk = true ∧
    (introduced.registered? ⟨5⟩).map (fun dp => (dp.main, dp.requests.isUsed 6)) =
      some (0, false) ∧
    (introduced.connection? 0).map (·.fault?) = some none ∧
    c.ledger.outcome? 0 = some (.failed (.duplicateXid ⟨5⟩ 6)) ∧
    c.queue 0 = introduced.queue 0 := by
  refine ⟨?_, ?_, ?_, ?_, ?_⟩ <;> decide +kernel

end SecondPort

end Controller

end Southbound
