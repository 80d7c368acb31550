import Southbound.Proofs.Request.Operation

/-!
# The first decisive event

`Claim.fate` reads off a list of operations how a request ends, from nothing but what it asked for:
the first operation that decides it does so for good. `outcome?_run` says that this is what the
ledger holds after any run in which the request got into the table.
-/

namespace Southbound

/-- A reply in several fragments, put together from the left. -/
def MultipartReply.leftMerge (first : MultipartReply) (rest : List MultipartReply) :
    MultipartReply :=
  rest.foldl merge first

/-- The reply that a last message completes, given the fragments before it. -/
def Message.completing (fragments : List MultipartReply) (last : Message) : Message :=
  match fragments, last with
  | first :: rest, .multipartReply r => .multipartReply (first.leftMerge (rest ++ [r]))
  | _, m => m

namespace Claim

/-- The outcome that a message decides: an error under any id of the claim, the reply to its
barrier, or its own last reply. -/
def answer? (c : Claim) (fragments : List MultipartReply) (x : Xid) (m : Message) :
    Option Outcome :=
  match m with
  | .error e => if x ∈ c.xids then some (.refused e) else none
  | m =>
    if m = .barrierReply ∧ c.barrier = some x then some .confirmed
    else if c.completion = .byReply ∧ x = c.xid ∧ m.isLastReply = true then
      some (.reply (m.completing fragments))
    else none

/-- What an operation decides about a request, if it decides anything: an outcome, or that there
will be none because the request is dropped. -/
def decision? (c : Claim) (d : DatapathId) (ageOut : Nat) (fragments : List MultipartReply) :
    Tracker.Operation → Option (Option Outcome)
  | .resolve x m => (c.answer? fragments x m).map some
  | .remove x => if x = c.xid then some none else none
  | .prune now =>
    if c.created + ageOut ≤ now then some (some (.failed (.agedOut d c.xid))) else none
  | .failAll => some (some (.failed (.disconnected d)))
  | .register .. | .registerWithBarrier .. | .registerBatch .. => none

/-- The fragment that an operation adds to the reply of a request. -/
def fragment? (c : Claim) : Tracker.Operation → Option MultipartReply
  | .resolve x (.multipartReply r) =>
    if c.completion = .byReply ∧ x = c.xid ∧ r.hasMore = true then some r else none
  | _ => none

/-- How a request ends: as the first operation that decides it says. -/
def fate (c : Claim) (d : DatapathId) (ageOut : Nat) (fragments : List MultipartReply) :
    List Tracker.Operation → Option Outcome
  | [] => none
  | op :: ops =>
    match c.decision? d ageOut fragments op with
    | some o => o
    | none => c.fate d ageOut (fragments ++ (c.fragment? op).toList) ops

end Claim

namespace Tracker

/-- The fragments of an open request, put together. -/
def joined : List MultipartReply → Option MultipartReply
  | [] => none
  | first :: rest => some (first.leftMerge rest)

/-- One more fragment is merged with those before it. -/
private theorem joined_append (fragments : List MultipartReply) (r : MultipartReply) :
    joined (fragments ++ [r]) = some (match joined fragments with
      | some before => before.merge r
      | none => r) := by
  cases fragments with
  | nil => rfl
  | cons first rest =>
    show some (first.leftMerge (rest ++ [r])) = some ((first.leftMerge rest).merge r)
    rw [MultipartReply.leftMerge, List.foldl_append]
    rfl

/-- The last message completes what was put together. -/
theorem wholeReply_joined (fragments : List MultipartReply) (m : Message) :
    RequestTable.wholeReply (joined fragments) m = m.completing fragments := by
  cases fragments with
  | nil => cases m <;> rfl
  | cons first rest =>
    cases m with
    | multipartReply r =>
      show Message.multipartReply ((first.leftMerge rest).merge r) =
        .multipartReply (first.leftMerge (rest ++ [r]))
      rw [MultipartReply.leftMerge, MultipartReply.leftMerge, List.foldl_append]
      rfl
    | _ => rfl

/-- The request of a claim while nothing has decided it. -/
def entryOf (c : Claim) (generation : Nat) (fragments : List MultipartReply) : OpenRequest :=
  { c.opened generation with fragments := joined fragments }

/-- The request collects one more fragment. -/
private theorem entryOf_append (c : Claim) (g : Nat) (fragments : List MultipartReply)
    (r : MultipartReply) :
    entryOf c g (fragments ++ [r]) = RequestTable.withFragment (entryOf c g fragments) r := by
  rw [entryOf, joined_append]
  rfl

/-- The request of a claim is open. -/
structure Tracks (k : Tracker) (c : Claim) (generation : Nat) (fragments : List MultipartReply) :
    Prop where
  entry : k.table.entries.find? c.xid = some (entryOf c generation fragments)
  /-- Its deadline is the one under its generation. -/
  due : ∀ d ∈ k.table.deadlines, d.generation = generation →
    d.time = c.created + k.table.ageOut
  /-- No other open request has its ticket. -/
  alone : ∀ {j e}, k.table.entries.find? j = some e → e.ticket = c.ticket → j = c.xid
  pending : k.ledger.IsPending c.ticket

/-- A message ends the request of a claim exactly if it answers the claim. -/
theorem endsBy_entryOf {c : Claim} {g : Nat} {fragments : List MultipartReply} {x : Xid}
    {m : Message} {o : Outcome} (hnodup : c.xids.Nodup) :
    (entryOf c g fragments).EndsBy x m o ↔ c.answer? fragments x m = some o := by
  constructor
  · intro h
    cases h with
    | error e hx => exact if_pos hx
    | barrier hb => exact if_pos ⟨rfl, hb⟩
    | reply hx hc hm =>
      have hnot : ¬ (m = .barrierReply ∧ c.barrier = some x) := by
        rintro ⟨-, hb⟩
        -- the claim's own id would be that of its barrier
        rw [Claim.xids, hb, show x = c.xid from hx.symm] at hnodup
        simp at hnodup
      have hown : c.completion = .byReply ∧ x = c.xid ∧ m.isLastReply = true :=
        ⟨hc, hx.symm, hm⟩
      rw [show (entryOf c g fragments).fragments = joined fragments from rfl, wholeReply_joined]
      unfold Claim.answer?
      split
      · cases hm
      · rw [if_neg hnot, if_pos hown]
  · intro h
    unfold Claim.answer? at h
    split at h
    · split at h
      · next e hx => exact Option.some.inj h ▸ .error e hx
      · cases h
    · split at h
      · next hb =>
        obtain ⟨rfl, hb⟩ := hb
        exact Option.some.inj h ▸ .barrier hb
      · split at h
        · next hown =>
          rw [← Option.some.inj h, ← wholeReply_joined]
          exact .reply (e := entryOf c g fragments) hown.2.1.symm hown.1 hown.2.2
        · cases h

/-- A fragment that more will follow ends no request. -/
theorem not_endsBy_of_hasMore {e : OpenRequest} {x : Xid} {r : MultipartReply} {o : Outcome}
    (hr : r.hasMore = true) : ¬ e.EndsBy x (.multipartReply r) o := by
  intro h
  cases h with
  | reply _ _ hm => simp [Message.isLastReply, hr] at hm

/-- A message is a fragment for a claim exactly if its request keeps it. -/
theorem continues_entryOf {k : Tracker} {c : Claim} {g : Nat} {fragments : List MultipartReply}
    (he : k.table.entries.find? c.xid = some (entryOf c g fragments)) {x : Xid} {m : Message}
    {r : MultipartReply} : c.fragment? (.resolve x m) = some r ↔
      x = c.xid ∧ k.table.Continues x m (entryOf c g fragments) r := by
  -- both sides ask the same three things of the message: its kind, its id, and that more is to come
  constructor
  · intro h
    unfold Claim.fragment? at h
    split at h
    · next heq =>
      cases heq
      split at h
      · next hown =>
        obtain ⟨hc, rfl, hmore⟩ := hown
        cases h
        exact ⟨rfl, he, hc, rfl, hmore⟩
      · cases h
    · cases h
  · rintro ⟨rfl, -, hc, rfl, hmore⟩
    exact if_pos ⟨hc, rfl, hmore⟩

section Step

variable {k k' : Tracker} {c : Claim} {g : Nat} {fragments : List MultipartReply}
  {op : Operation}

/-- The claim is decided with an outcome, or with none for ever. -/
structure Decided (k : Tracker) (c : Claim) (o : Option Outcome) : Prop where
  absent : k.Absent c.ticket
  outcome : k.ledger.outcome? c.ticket = o

/-- An open request has each of its ids once. -/
theorem Tracks.nodup (h : k.Tracks c g fragments) (hsound : k.Sound) : c.xids.Nodup :=
  hsound.indexed.nodup h.entry

/-- What a step leaves alone about a claim that stays undecided. -/
theorem Tracks.keep (h : k.Tracks c g fragments)
    (hentry : k'.table.entries.find? c.xid = k.table.entries.find? c.xid)
    (hdue : ∀ d ∈ k'.table.deadlines, d.generation = g → d ∈ k.table.deadlines)
    (hageOut : k'.table.ageOut = k.table.ageOut)
    (halone : ∀ {j e}, k'.table.entries.find? j = some e → e.ticket = c.ticket →
      ∃ f, k.table.entries.find? j = some f ∧ f.ticket = c.ticket)
    (hget : k'.ledger.get? c.ticket = k.ledger.get? c.ticket) : k'.Tracks c g fragments where
  entry := hentry.trans h.entry
  due d hd hg := hageOut ▸ h.due d (hdue d hd hg) hg
  alone he ht := by
    obtain ⟨f, hf, hft⟩ := halone he ht
    exact h.alone hf hft
  pending := h.pending.congr hget

/-- Without its entry the request of a claim is not open. -/
theorem Tracks.absent (h : k.Tracks c g fragments)
    (hsub : ∀ {j e}, k'.table.entries.find? j = some e →
      j ≠ c.xid ∧ k.table.entries.find? j = some e) : k'.Absent c.ticket := by
  intro j e he ht
  obtain ⟨hj, hold⟩ := hsub he
  exact hj (h.alone hold ht)

/-- What an operation means to an open request: if it decides the claim the request is no longer
open and has that outcome, and otherwise it stays open, with its fragment if this is one. -/
inductive Advances (k : Tracker) (c : Claim) (g : Nat) (fragments : List MultipartReply)
    (op : Operation) (k' : Tracker) : Prop
  | decides {o : Option Outcome}
      (hd : c.decision? k.table.datapath k.table.ageOut fragments op = some o)
      (h : k'.Decided c o)
  | leaves (hd : c.decision? k.table.datapath k.table.ageOut fragments op = none)
      (h : k'.Tracks c g (fragments ++ (c.fragment? op).toList))

/-- An operation that neither decides the claim nor carries a fragment. -/
theorem Tracks.leaves (h : k'.Tracks c g fragments)
    (hd : c.decision? k.table.datapath k.table.ageOut fragments op = none)
    (hf : c.fragment? op = none) : k.Advances c g fragments op k' := by
  refine .leaves hd ?_
  rw [hf, Option.toList_none, List.append_nil]
  exact h

/-- Tracking another request decides nothing. -/
theorem Tracks.enrolled (h : k.Tracks c g fragments) (hsound : k.Sound) {b : Claim}
    (hb : b.ticket ≠ c.ticket) (hc : k.table.conflict? b = none) :
    Tracks ⟨k.ledger, k.table.enroll b⟩ c g fragments := by
  -- a claim that conflicts with nothing has another id
  have hne : c.xid ≠ b.xid := by
    intro heq
    have hfree := hsound.indexed.find?_of_conflict? hc
    rw [← heq, h.entry] at hfree
    cases hfree
  refine h.keep ?_ ?_ rfl ?_ rfl
  · rw [RequestTable.entries_enroll, Keyed.find?_put, if_neg hne]
  · intro d hd hg
    rcases RequestTable.mem_insertDeadline.1 hd with rfl | hd
    · -- the new generation is none of those in use
      have hle : g ≤ k.table.generation := hsound.scheduled.entry_le h.entry
      simp only at hg
      omega
    · exact hd
  · intro j e he ht
    rw [RequestTable.entries_enroll, Keyed.find?_put] at he
    split at he
    · rw [← Option.some.inj he] at ht
      exact absurd ht hb
    · exact ⟨e, he, ht⟩

/-- With its entry taken out the request is not open any more. -/
theorem Tracks.absent_remove (h : k.Tracks c g fragments) (l : Ledger) :
    Absent ⟨l, (k.table.remove c.xid).1⟩ c.ticket :=
  h.absent fun he => RequestTable.find?_remove_eq_some.1 he

/-- Taking another request out leaves this one. -/
theorem Tracks.remove_other (h : k.Tracks c g fragments) {x : Xid} (hx : x ≠ c.xid) {l : Ledger}
    (hget : l.get? c.ticket = k.ledger.get? c.ticket) :
    Tracks ⟨l, (k.table.remove x).1⟩ c g fragments := by
  refine h.keep ?_ ?_ (RequestTable.ageOut_remove x) ?_ hget
  · rw [RequestTable.find?_entries_remove, if_neg (Ne.symm hx)]
  · intro d hd _
    rwa [RequestTable.deadlines_remove] at hd
  · intro j e he ht
    exact ⟨e, (RequestTable.find?_remove_eq_some.1 he).2, ht⟩

/-- A message that ends an open request: the one of the claim or another. -/
theorem Tracks.settled (h : k.Tracks c g fragments) (hsound : k.Sound) {x j : Xid} {m : Message}
    {e : OpenRequest} {o : Outcome} (he : k.table.entries.find? j = some e)
    (hends : e.EndsBy x m o) : k.Advances c g fragments (.resolve x m)
      ⟨k.ledger.settle e.ticket o, (k.table.remove j).1⟩ := by
  by_cases hj : j = c.xid
  · subst hj
    obtain rfl : entryOf c g fragments = e := Option.some.inj (h.entry.symm.trans he)
    -- the request of the claim: the answer is its outcome
    have hanswer := (endsBy_entryOf (h.nodup hsound)).1 hends
    refine .decides (o := some o) ?_ ⟨h.absent_remove _, h.pending.outcome?_settle o⟩
    rw [Claim.decision?, hanswer, Option.map_some]
  · -- another request, and no message means something to two of them
    have hticket : e.ticket ≠ c.ticket := fun ht => hj (h.alone he ht)
    refine (h.remove_other hj (Ledger.get?_settle_of_ne o hticket)).leaves ?_ ?_
    · rw [Claim.decision?, Option.map_eq_none_iff, Option.eq_none_iff_forall_ne_some]
      intro p hp
      have hmine := (endsBy_entryOf (g := g) (h.nodup hsound)).2 hp
      exact hj (hsound.indexed.eq_of_endsBy he h.entry hends hmine).1
    · rw [Option.eq_none_iff_forall_ne_some]
      intro r hr
      obtain ⟨rfl, -⟩ := (continues_entryOf h.entry).1 hr
      exact hj (hsound.indexed.key_of_mem_xids he h.entry hends.mem_xids).symm

/-- A message that an open request keeps as a fragment: that of the claim or another. -/
theorem Tracks.continued (h : k.Tracks c g fragments) (hsound : k.Sound) {x : Xid} {m : Message}
    {e : OpenRequest} {r : MultipartReply} (hc : k.table.Continues x m e r) :
    k.Advances c g fragments (.resolve x m) ⟨k.ledger, { k.table with
      entries := k.table.entries.put x (RequestTable.withFragment e r) }⟩ := by
  -- a fragment decides nothing
  have hundecided :
      c.decision? k.table.datapath k.table.ageOut fragments (.resolve x m) = none := by
    rw [Claim.decision?, Option.map_eq_none_iff, Option.eq_none_iff_forall_ne_some]
    intro p hp
    have hends := (endsBy_entryOf (g := g) (h.nodup hsound)).2 hp
    rw [hc.message] at hends
    exact not_endsBy_of_hasMore hc.hasMore hends
  -- it leaves all tickets where they are
  have halone {j : Xid} {f : OpenRequest}
      (hf : (k.table.entries.put x (RequestTable.withFragment e r)).find? j = some f)
      (ht : f.ticket = c.ticket) :
      ∃ f', k.table.entries.find? j = some f' ∧ f'.ticket = c.ticket := by
    rw [Keyed.find?_put] at hf
    split at hf
    · next hj =>
      rw [← Option.some.inj hf] at ht
      exact ⟨e, hj ▸ hc.find?, ht⟩
    · exact ⟨f, hf, ht⟩
  by_cases hx : x = c.xid
  · subst hx
    obtain rfl : entryOf c g fragments = e := Option.some.inj (h.entry.symm.trans hc.find?)
    refine .leaves hundecided ?_
    rw [(continues_entryOf h.entry).2 ⟨rfl, hc⟩]
    refine ⟨?_, h.due, ?_, h.pending⟩
    · rw [Keyed.find?_put, if_pos rfl, Option.toList_some, entryOf_append]
    · intro j f hf ht
      obtain ⟨f', hf', ht'⟩ := halone hf ht
      exact h.alone hf' ht'
  · refine Tracks.leaves (h.keep ?_ (fun _ hd _ => hd) rfl halone rfl) hundecided ?_
    · rw [Keyed.find?_put, if_neg (Ne.symm hx)]
    · rw [Option.eq_none_iff_forall_ne_some]
      intro s hs
      exact hx ((continues_entryOf h.entry).1 hs).1

/-- A message that means nothing to any open request. -/
theorem Tracks.ignored (h : k.Tracks c g fragments) (hsound : k.Sound) {x : Xid} {m : Message}
    (hends : ∀ j e o, k.table.entries.find? j = some e → ¬ e.EndsBy x m o)
    (hcont : ∀ e r, ¬ k.table.Continues x m e r) :
    k.Advances c g fragments (.resolve x m) k := by
  refine h.leaves ?_ ?_
  · rw [Claim.decision?, Option.map_eq_none_iff, Option.eq_none_iff_forall_ne_some]
    intro p hp
    exact hends _ _ p h.entry ((endsBy_entryOf (h.nodup hsound)).2 hp)
  · rw [Option.eq_none_iff_forall_ne_some]
    intro r hr
    exact hcont _ r ((continues_entryOf h.entry).1 hr).2

/-- A removal decides the request that it is for, and leaves the others open. -/
private theorem Tracks.removed (h : k.Tracks c g fragments) (x : Xid) :
    k.Advances c g fragments (.remove x) ⟨k.ledger, (k.table.remove x).1⟩ := by
  by_cases hx : x = c.xid
  · subst hx
    exact .decides (if_pos rfl) ⟨h.absent_remove _, h.pending.outcome?_eq_none⟩
  · exact (h.remove_other hx rfl).leaves (if_neg hx) rfl

/-- The request of the claim is given up once its time is over, and not before. -/
theorem Tracks.pruned (h : k.Tracks c g fragments) (hsound : k.Sound) (now : Nat) :
    k.Advances c g fragments (.prune now)
      ⟨settleAll k.ledger ((k.table.passed now).filterMap k.table.live?) fun e =>
        .failed (.agedOut k.table.datapath e.xid), (k.table.prune now).1⟩ := by
  have hstays {j : Xid} {e : OpenRequest}
      (he : (k.table.prune now).1.entries.find? j = some e) :=
    hsound.scheduled.find?_prune.1 he
  have hevicted {e : OpenRequest} (he : e ∈ (k.table.passed now).filterMap k.table.live?) :
      ∃ d ∈ k.table.deadlines, d.time ≤ now ∧ k.table.entries.find? d.xid = some e ∧
        e.generation = d.generation := by
    obtain ⟨d, hd, hlive⟩ := List.mem_filterMap.1 he
    obtain ⟨hmem, htime⟩ := hsound.scheduled.mem_passed.1 hd
    obtain ⟨hfind, hg⟩ := RequestTable.live?_eq_some_iff.1 hlive
    exact ⟨d, hmem, htime, hfind, hg⟩
  -- an open request with the ticket of the claim is that of the claim
  have hmine {j : Xid} {e : OpenRequest} (he : k.table.entries.find? j = some e)
      (ht : e.ticket = c.ticket) : j = c.xid ∧ e = entryOf c g fragments := by
    have hj := h.alone he ht
    subst hj
    exact ⟨rfl, Option.some.inj (he.symm.trans h.entry)⟩
  obtain ⟨d, hd, hg, hx⟩ := hsound.scheduled.due h.entry
  have htime := h.due d hd hg
  by_cases hover : c.created + k.table.ageOut ≤ now
  · refine .decides (if_pos hover) ⟨h.absent fun he => ⟨?_, (hstays he).1⟩, ?_⟩
    · rintro rfl
      obtain rfl := Option.some.inj ((hstays he).1.symm.trans h.entry)
      have := (hstays he).2 d hd hx hg
      omega
    · have hmem : entryOf c g fragments ∈ (k.table.passed now).filterMap k.table.live? := by
        refine List.mem_filterMap.2 ⟨d, hsound.scheduled.mem_passed.2 ⟨hd, by omega⟩, ?_⟩
        exact RequestTable.live?_eq_some_iff.2 ⟨hx ▸ h.entry, hg.symm⟩
      refine outcome?_settleAll_of_mem _ hmem h.pending ?_
      intro f hf ht
      obtain ⟨_, _, _, hfind, _⟩ := hevicted hf
      exact (hmine hfind ht).2
  · refine Tracks.leaves (h.keep ?_ ?_ (RequestTable.ageOut_prune now) ?_ ?_) (if_neg hover) rfl
    · rw [h.entry]
      refine hsound.scheduled.find?_prune.2 ⟨h.entry, ?_⟩
      intro d' hd' _ hg'
      have := h.due d' hd' hg'
      omega
    · intro d' hd' _
      rw [RequestTable.deadlines_prune] at hd'
      exact (List.dropWhile_sublist _).subset hd'
    · exact fun he ht => ⟨_, (hstays he).1, ht⟩
    · refine get?_settleAll _ ?_
      intro e he ht
      obtain ⟨d', hd', htime', hfind, hg'⟩ := hevicted he
      obtain rfl := (hmine hfind ht).2
      have := h.due d' hd' hg'.symm
      omega

/-- When the table is cleared the request ends with its datapath. -/
private theorem Tracks.cleared (h : k.Tracks c g fragments) (hsound : k.Sound) :
    k.Advances c g fragments .failAll
      ⟨settleAll k.ledger k.table.entries.values fun _ =>
        .failed (.disconnected k.table.datapath), k.table.clear.1⟩ := by
  refine .decides rfl ⟨fun he => by simp [RequestTable.clear] at he, ?_⟩
  have hmem : entryOf c g fragments ∈ k.table.entries.values :=
    (Keyed.mem_values hsound.indexed.ordered).2 ⟨_, h.entry⟩
  refine outcome?_settleAll_of_mem _ hmem h.pending ?_
  intro f hf ht
  obtain ⟨j, hj⟩ := (Keyed.mem_values hsound.indexed.ordered).1 hf
  obtain rfl := h.alone hj ht
  exact Option.some.inj (hj.symm.trans h.entry)

/-- Every operation means to the request what is read off it. -/
theorem Tracks.step (h : k.Tracks c g fragments) (hsound : k.Sound) (hstep : k.Step op k')
    (hop : ∀ b, op.claim? = some b → b.ticket ≠ c.ticket) :
    k.Advances c g fragments op k' := by
  -- a registration is neither a fragment nor a decision of this request
  have hregister {b : Claim} (hb : op.claim? = some b) :
      c.decision? k.table.datapath k.table.ageOut fragments op = none ∧ c.fragment? op = none := by
    cases op <;> first | exact ⟨rfl, rfl⟩ | cases hb
  cases hstep with
  | enrolled hb hc =>
    exact (h.enrolled hsound (hop _ hb) hc).leaves (hregister hb).1 (hregister hb).2
  | rejected hb f =>
    have hsame : Tracks ⟨k.ledger.settle _ (.failed f), k.table⟩ c g fragments :=
      h.keep rfl (fun _ hd _ => hd) rfl (fun he ht => ⟨_, he, ht⟩)
        (Ledger.get?_settle_of_ne _ (hop _ hb))
    exact hsame.leaves (hregister hb).1 (hregister hb).2
  | settled he hends => exact h.settled hsound he hends
  | continued hc => exact h.continued hsound hc
  | ignored hends hcont => exact h.ignored hsound hends hcont
  | removed => exact h.removed _
  | pruned => exact h.pruned hsound _
  | cleared => exact h.cleared hsound

end Step

/-! ## Runs -/

section Run

variable {k : Tracker} {c : Claim}

/-- From an open request on, a run gives it the outcome that its claim foretells. -/
theorem Tracks.run {g : Nat} {fragments : List MultipartReply} (h : k.Tracks c g fragments)
    (hsound : k.Sound) {ops : List Operation} (hops : c.ticket ∉ tickets ops) :
    (k.run ops).ledger.outcome? c.ticket =
      c.fate k.table.datapath k.table.ageOut fragments ops := by
  induction ops generalizing k fragments with
  | nil => exact h.pending.outcome?_eq_none
  | cons op ops ih =>
    rw [mem_tickets_cons, not_or] at hops
    have hstep := hsound.step op
    -- each ticket is registered once, so the operation is not about that of the claim
    have hadvances := h.step hsound hstep fun b hb heq => hops.1 ⟨b, hb, heq⟩
    rw [run_cons]
    cases hadvances with
    | decides hd hdecided =>
      rw [Claim.fate, hd]
      -- an outcome, once it is there, stays
      have hlater := Absent.run hdecided.absent (hsound.apply op) hops.2
      rw [Ledger.outcome?_congr hlater.2, hdecided.outcome]
    | leaves hd htracks =>
      rw [Claim.fate, hd, ih htracks (hsound.apply op) hops.2, hstep.settings.1, hstep.settings.2]

/-- A claim that gets into the table is open from then on. -/
theorem tracks_register (hsound : k.Sound) (habsent : k.Absent c.ticket)
    (hpending : k.ledger.IsPending c.ticket) (hok : (k.register c).2 = .ok ()) :
    Tracks (k.register c).1 c (k.table.generation + 1) [] := by
  rcases k.register_cases c with ⟨hc, heq⟩ | ⟨f, heq⟩
  · rw [heq]
    refine ⟨?_, ?_, ?_, hpending⟩
    · rw [RequestTable.entries_enroll, Keyed.find?_put, if_pos rfl]
      rfl
    -- the new deadline is the only one of its generation
    · intro d hd hg
      rcases RequestTable.mem_insertDeadline.1 hd with rfl | hd
      · rfl
      · have := hsound.scheduled.deadline_le hd
        omega
    · intro j e he ht
      rw [RequestTable.entries_enroll, Keyed.find?_put] at he
      split at he
      · next hj => exact hj
      · exact absurd ht (habsent he)
  · rw [heq] at hok
    cases hok

/-- The first decisive event after a request got into the table fixes its outcome, whatever was
done to the table before and whatever else is done to it. No request is tracked twice, and this one
has no outcome before it is tracked. -/
theorem outcome?_run (l : Ledger) (d : DatapathId) (ageOut : Nat) (before after : List Operation)
    (op : Operation) (c : Claim) (hop : op.claim? = some c)
    (hpending : l.IsPending c.ticket) (honce : (tickets (before ++ op :: after)).Nodup)
    (hok : ((run ⟨l, { datapath := d, ageOut }⟩ before).register c).2 = .ok ()) :
    (run ⟨l, { datapath := d, ageOut }⟩ (before ++ op :: after)).ledger.outcome? c.ticket =
      c.fate d ageOut [] after := by
  rw [tickets_append, tickets_cons_of_claim? hop] at honce
  obtain ⟨hbefore, hafter⟩ : c.ticket ∉ tickets before ∧ c.ticket ∉ tickets after := by
    rw [List.nodup_append, List.nodup_cons] at honce
    exact ⟨fun hmem => honce.2.2 _ hmem _ List.mem_cons_self rfl, honce.2.1.1⟩
  have hsound := sound_new l d ageOut
  -- before it is registered, nothing is known under its ticket
  have hempty : Absent ⟨l, { datapath := d, ageOut }⟩ c.ticket := fun he => by simp at he
  obtain ⟨habsent, hget⟩ := hempty.run hsound hbefore
  have htracks := tracks_register (hsound.run before) habsent (hpending.congr hget) hok
  obtain ⟨hdatapath, hageOut⟩ := hsound.settings_run (before ++ [op])
  rw [run_append, run_cons, run_nil, apply_of_claim? hop] at hdatapath hageOut
  have hregistered := (hsound.run before).apply op
  rw [apply_of_claim? hop] at hregistered
  rw [run_append, run_cons, apply_of_claim? hop, htracks.run hregistered hafter, hdatapath, hageOut]

/-- An error under the last write of a batch comes before the reply to its barrier. -/
theorem outcome?_run_batch :
    (run ⟨⟨[{ datapath := ⟨7⟩, xid := 1, type := .multipartRequest, created := 0 },
          { datapath := ⟨7⟩, xid := 2, type := .flowMod, created := 0 }]⟩,
        { datapath := ⟨7⟩, ageOut := 9 }⟩
      [.register 0 1 0, .registerBatch 1 2 0 [3, 4] 5,
        .resolve 1 (.multipartReply { kind := .flow, flags := 1 }),
        .resolve 4 (.error { kind := 1, code := 2 }), .resolve 5 .barrierReply,
        .failAll]).ledger.outcome? 1 = some (.refused { kind := 1, code := 2 }) :=
  outcome?_run _ ⟨7⟩ 9 [.register 0 1 0]
    [.resolve 1 (.multipartReply { kind := .flow, flags := 1 }),
      .resolve 4 (.error { kind := 1, code := 2 }), .resolve 5 .barrierReply, .failAll]
    (.registerBatch 1 2 0 [3, 4] 5) (.behindBarrier 1 2 0 [3, 4] 5) rfl ⟨_, rfl, rfl⟩
    (by decide) rfl

end Run

end Tracker

end Southbound
