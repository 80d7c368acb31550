import Southbound.Proofs.Request.Fate

/-!
# Replies in several fragments

A request that waits for its reply stays open while fragments of it arrive that announce more,
whatever else is done to the table as long as that spares the request (`Operation.Spares`). The last
message then ends it with the reply put together from exactly these fragments, in the order in which
they came (`reassembles_run`).
-/

namespace Southbound

/-! ## Putting fragments together -/

namespace MultipartReply

/-- A reply that stands for several fragments and the last message after them. -/
structure Reassembles (fragments : List MultipartReply) (last r : MultipartReply) : Prop where
  kind : r.kind = last.kind
  flags : r.flags = last.flags
  ports : ∀ pss : List (List Port), (fragments ++ [last]).map body = pss.map .ports →
    r.body = .ports pss.flatten
  raw : ∀ bss : List Bytes, (fragments ++ [last]).map body = bss.map .raw →
    r.body = .raw bss.flatten

/-- Bodies of one form that are put together at their ends, as lists of ports and raw bytes are. -/
theorem body_leftMerge {α : Type} {wrap : List α → MultipartBody}
    (hwrap : ∀ as bs, (wrap as).append (wrap bs) = wrap (as ++ bs)) {first : MultipartReply}
    {rest : List MultipartReply} {as : List α} {ass : List (List α)} (hfirst : first.body = wrap as)
    (hrest : rest.map body = ass.map wrap) :
    (first.leftMerge rest).body = wrap (as ++ ass.flatten) := by
  -- by induction on the fragments to come, with the first one as the accumulator
  induction rest generalizing first as ass with
  | nil =>
    obtain rfl : ass = [] := List.map_eq_nil_iff.1 hrest.symm
    rw [List.flatten_nil, List.append_nil]
    exact hfirst
  | cons r rest ih =>
    obtain ⟨bs, bss, rfl, hbs, hbss⟩ := List.map_eq_cons_iff.1 hrest.symm
    have hmerge : (first.merge r).body = wrap (as ++ bs) := by
      rw [← hwrap, ← hfirst, hbs]
      rfl
    rw [List.flatten_cons, ← List.append_assoc]
    exact ih hmerge hbss.symm

/-- The message that the fragments and the last one complete. -/
theorem exists_completing (fragments : List MultipartReply) (last : MultipartReply) :
    ∃ r, Message.completing fragments (.multipartReply last) = .multipartReply r ∧
      Reassembles fragments last r := by
  cases fragments with
  -- the last reply is the only one
  | nil =>
    refine ⟨last, rfl, rfl, rfl, fun pss h => ?_, fun bss h => ?_⟩
    · obtain ⟨ps, rfl, hps⟩ := List.map_eq_singleton_iff.1 h.symm
      rw [List.flatten_singleton]
      exact hps.symm
    · obtain ⟨bs, rfl, hbs⟩ := List.map_eq_singleton_iff.1 h.symm
      rw [List.flatten_singleton]
      exact hbs.symm
  | cons first rest =>
    -- merged from the left, the last reply is the last to be merged
    have hlast : first.leftMerge (rest ++ [last]) = (first.leftMerge rest).merge last :=
      List.foldl_append
    refine ⟨first.leftMerge (rest ++ [last]), rfl, ?_, ?_, fun pss h => ?_, fun bss h => ?_⟩
    · rw [hlast]
      rfl
    · rw [hlast]
      rfl
    · obtain ⟨ps, pss, rfl, hps, hpss⟩ := List.map_eq_cons_iff.1 h.symm
      exact body_leftMerge (fun _ _ => rfl) hps.symm hpss.symm
    · obtain ⟨bs, bss, rfl, hbs, hbss⟩ := List.map_eq_cons_iff.1 h.symm
      exact body_leftMerge (fun _ _ => rfl) hbs.symm hbss.symm

end MultipartReply

/-- A last reply is a reply. -/
private theorem Message.isReply_of_isLastReply {m : Message} (h : m.isLastReply = true) :
    m.type.isReply = true := by
  cases m with
  | error | multipartReply => rfl
  | _ => exact h

namespace Tracker

/-! ## What spares a request -/

/-- The operation does not decide the request that waits for its reply under `x` until `due`: under
`x` nothing comes but fragments that announce more, and messages that are no replies. -/
def Operation.Spares (x : Xid) (due : Nat) : Operation → Prop
  | .register .. | .registerWithBarrier .. | .registerBatch .. => True
  | .resolve y m =>
    y = x → (∃ r, m = .multipartReply r ∧ r.hasMore = true) ∨ m.type.isReply = false
  | .remove y => y ≠ x
  | .prune now => now < due
  | .failAll => False

/-- The multipart reply that an operation offers under a transaction id. -/
def Operation.multipartReply? (x : Xid) : Operation → Option MultipartReply
  | .resolve y (.multipartReply r) => if y = x then some r else none
  | _ => none

def multipartReplies (x : Xid) (ops : List Operation) : List MultipartReply :=
  ops.filterMap (Operation.multipartReply? x)

/-- The request of a ticket is open under `x`, and nothing is written down about it. -/
structure Awaits (k : Tracker) (u : Ticket) (x : Xid) : Prop where
  isOpen : ∃ e, k.table.entries.find? x = some e ∧ e.ticket = u
  pending : k.ledger.IsPending u

variable {k : Tracker} {op : Operation} {u : Ticket} {x : Xid} {created g : Nat}
  {fragments : List MultipartReply}

/-- A message that spares the request does not end it. -/
theorem Operation.Spares.not_endsBy {due : Nat} {y : Xid} {m : Message} {o : Outcome}
    (h : Operation.Spares x due (.resolve y m)) :
    ¬ (entryOf (.plain u x created) g fragments).EndsBy y m o := by
  intro hends
  -- what spares the request is no error, no last reply and no reply of its kind
  cases hends with
  | error e hx =>
    rcases h (List.mem_singleton.1 hx) with ⟨r, hr, -⟩ | hreply
    · cases hr
    · cases hreply
  | barrier hb => cases hb
  | reply hx hc hm =>
    rcases h hx.symm with ⟨r, rfl, hmore⟩ | hreply
    · exact not_endsBy_of_hasMore hmore (.reply hx hc hm)
    · rw [Message.isReply_of_isLastReply hm] at hreply
      cases hreply

/-- What spares the request decides nothing. -/
theorem Operation.Spares.decision? {d : DatapathId} {ageOut : Nat}
    (h : op.Spares x (created + ageOut)) :
    (Claim.plain u x created).decision? d ageOut fragments op = none := by
  cases op with
  | register | registerWithBarrier | registerBatch => rfl
  | resolve y m =>
    rw [Claim.decision?, Option.map_eq_none_iff, Option.eq_none_iff_forall_ne_some]
    intro o ho
    have hnodup : (Claim.plain u x created).xids.Nodup := by simp [Claim.xids, Claim.plain]
    exact h.not_endsBy ((endsBy_entryOf (g := 0) hnodup).2 ho)
  | remove y => exact if_neg h
  | prune now => exact if_neg (Nat.not_le.2 h)
  | failAll => exact h.elim

/-- Of what spares the request it keeps the multipart replies under its id. -/
theorem Operation.Spares.fragment? {due : Nat} (h : op.Spares x due) :
    (Claim.plain u x created).fragment? op = op.multipartReply? x := by
  cases op with
  | resolve y m =>
    cases m with
    | multipartReply r =>
      by_cases hy : y = x
      · obtain ⟨s, hs, hmore⟩ | hreply := h hy
        · obtain rfl : r = s := Message.multipartReply.inj hs
          exact (if_pos ⟨rfl, hy, hmore⟩).trans (if_pos hy).symm
        · cases hreply
      · exact (if_neg fun hown => hy hown.2.1).trans (if_neg hy).symm
    | _ => rfl
  | _ => rfl

/-- A request stays open while it is spared. -/
theorem Tracks.spared (h : k.Tracks (.plain u x created) g fragments) (hsound : k.Sound)
    {ops : List Operation} (hops : ∀ op ∈ ops, op.Spares x (created + k.table.ageOut))
    (honce : u ∉ tickets ops) :
    (k.run ops).Tracks (.plain u x created) g (fragments ++ multipartReplies x ops) := by
  -- the fragments gathered so far grow with the run, so they are general in the induction
  induction ops generalizing k fragments with
  | nil => rwa [multipartReplies, List.filterMap_nil, List.append_nil]
  | cons op ops ih =>
    obtain ⟨hop, hrest⟩ := List.forall_mem_cons.1 hops
    rw [mem_tickets_cons, not_or] at honce
    have hstep := hsound.step op
    have hadvances := h.step hsound hstep fun b hb heq => honce.1 ⟨b, hb, heq⟩
    cases hadvances with
    | decides hd => rw [hop.decision?] at hd; cases hd
    -- what spares the request decides nothing
    | leaves hd htracks =>
      rw [hop.fragment?] at htracks
      have hlater := ih htracks (hsound.apply op) (hstep.settings.2 ▸ hrest) honce.2
      have hcons : (op.multipartReply? x).toList ++ multipartReplies x ops =
          multipartReplies x (op :: ops) := by
        rw [multipartReplies, multipartReplies, List.filterMap_cons]
        cases op.multipartReply? x <;> rfl
      rwa [List.append_assoc, hcons] at hlater

/-- A request that is tracked is awaited. -/
private theorem Tracks.awaits (h : k.Tracks (.plain u x created) g fragments) : k.Awaits u x :=
  ⟨⟨_, h.entry, rfl⟩, h.pending⟩

/-- A message that ends an open request is taken. -/
theorem Sound.resolve_snd_of_endsBy (hsound : k.Sound) {j : Xid} {e : OpenRequest} {m : Message}
    {o : Outcome} (he : k.table.entries.find? j = some e) (hends : e.EndsBy x m o) :
    (k.resolve x m).2 = true := by
  have heff := hsound.indexed.effect_onMessage x m
  unfold resolve
  generalize k.table.onMessage x m = p at heff
  cases heff with
  | ends | continues => rfl
  | nothing hnone => exact absurd hends (hnone j e o he)

/-- The last message ends the request with the reply that it completes. -/
theorem Tracks.completed (h : k.Tracks (.plain u x created) g fragments) (hsound : k.Sound)
    {last : MultipartReply} (hlast : last.hasMore = false) :
    (k.resolve x (.multipartReply last)).2 = true ∧
    (k.resolve x (.multipartReply last)).1.Decided (.plain u x created)
      (some (.reply (.completing fragments (.multipartReply last)))) := by
  have hends : (entryOf (.plain u x created) g fragments).EndsBy x (.multipartReply last)
      (.reply (.completing fragments (.multipartReply last))) := by
    rw [← wholeReply_joined]
    exact .reply (e := entryOf (.plain u x created) g fragments) rfl rfl
      (congrArg Bool.not hlast)
  refine ⟨hsound.resolve_snd_of_endsBy h.entry hends, ?_⟩
  -- the reply without the flag for more decides, with everything gathered before
  have hdecision : (Claim.plain u x created).decision? k.table.datapath k.table.ageOut fragments
      (.resolve x (.multipartReply last)) =
        some (some (.reply (.completing fragments (.multipartReply last)))) :=
    congrArg (Option.map some) ((endsBy_entryOf (h.nodup hsound)).1 hends)
  have hadvances := h.step hsound (hsound.step (.resolve x (.multipartReply last)))
    fun _ hb => nomatch hb
  cases hadvances with
  | decides hd hdecided =>
    obtain rfl := Option.some.inj (hd.symm.trans hdecision)
    exact hdecided
  | leaves hd => cases hd.symm.trans hdecision

/-! ## Runs -/

/-- A request that waits for its reply stays open and without an outcome while fragments of that
reply come, however they are mixed with what spares it. The last message ends it, once and for all,
with the reply put together from the fragments under its id. -/
theorem reassembles_run (l : Ledger) (d : DatapathId) (ageOut : Nat)
    (before between : List Operation) (u : Ticket) (x : Xid) (created : Nat)
    (last : MultipartReply)
    (habsent : (run ⟨l, { datapath := d, ageOut }⟩ before).Absent u)
    (hpending : (run ⟨l, { datapath := d, ageOut }⟩ before).ledger.IsPending u)
    (hok : ((run ⟨l, { datapath := d, ageOut }⟩ before).register (.plain u x created)).2 = .ok ())
    (hbetween : ∀ op ∈ between, op.Spares x (created + ageOut)) (honce : u ∉ tickets between)
    (hlast : last.hasMore = false) :
    let start : Tracker := ⟨l, { datapath := d, ageOut }⟩
    let opened := start.run (before ++ [.register u x created])
    (∀ earlier later, between = earlier ++ later → (opened.run earlier).Awaits u x) ∧
    let k := (opened.run between).resolve x (.multipartReply last)
    k.2 = true ∧ k.1.Absent u ∧
      ∃ r, MultipartReply.Reassembles (multipartReplies x between) last r ∧
        ∀ after, (k.1.run after).ledger.outcome? u = some (.reply (.multipartReply r)) := by
  intro start opened
  have hstart : start.Sound := sound_new l d ageOut
  have hopened : opened = ((start.run before).register (.plain u x created)).1 := by
    have hclaim : (Operation.register u x created).claim? = some (.plain u x created) := rfl
    rw [← apply_of_claim? hclaim]
    exact run_append ..
  have htracks : opened.Tracks (.plain u x created) _ [] :=
    hopened ▸ tracks_register (hstart.run before) habsent hpending hok
  have hsound : opened.Sound := hstart.run _
  have hageOut : opened.table.ageOut = ageOut := (hstart.settings_run _).2
  -- both the prefixes and the whole of what comes in between spare the request
  have hspared {ops : List Operation} (hsub : ops ⊆ between) (hops : u ∉ tickets ops) :
      (opened.run ops).Tracks (.plain u x created) _ ([] ++ multipartReplies x ops) :=
    htracks.spared hsound (hageOut.symm ▸ fun op hop => hbetween op (hsub hop)) hops
  refine ⟨?_, ?_⟩
  · rintro earlier later rfl
    rw [tickets_append, List.mem_append, not_or] at honce
    exact (hspared (List.subset_append_left _ _) honce.1).awaits
  · intro k
    obtain ⟨htaken, hdecided⟩ :=
      (hspared (List.Subset.refl _) honce).completed (hsound.run between) hlast
    obtain ⟨r, hr, hreassembles⟩ :=
      MultipartReply.exists_completing (multipartReplies x between) last
    refine ⟨htaken, hdecided.absent, r, hreassembles, fun after => ?_⟩
    have hk : k.1.Sound := (hsound.run between).apply (.resolve x (.multipartReply last))
    exact hk.outcome?_run_of_some (hr ▸ hdecided.outcome) after

/-- The fragments of two replies come in turns, and a third request asks in vain for the id of the
first. -/
theorem reassembles_run_mixed :
    let l : Ledger := ⟨[{ datapath := ⟨7⟩, xid := 1, type := .multipartRequest, created := 0 },
      { datapath := ⟨7⟩, xid := 2, type := .multipartRequest, created := 0 },
      { datapath := ⟨7⟩, xid := 1, type := .echoRequest, created := 3 }]⟩
    let between : List Operation := [
      .resolve 1 (.multipartReply { kind := .flow, flags := 1, body := .raw [1] }),
      .resolve 2 (.multipartReply { kind := .flow, flags := 1, body := .raw [9] }),
      .register 2 1 3, .prune 8,
      .resolve 1 (.multipartReply { kind := .flow, flags := 1, body := .raw [2, 3] }),
      .resolve 2 (.multipartReply { kind := .flow, body := .raw [8] })]
    let k := run ⟨l, { datapath := ⟨7⟩, ageOut := 9 }⟩ ([.register 1 2 0] ++ [.register 0 1 0])
    ∃ r : MultipartReply, r.flags = 0 ∧ r.body = .raw [1, 2, 3, 4] ∧
      (((k.run between).resolve 1 (.multipartReply
        { kind := .flow, body := .raw [4] })).1.run [.failAll]).ledger.outcome? 0 =
          some (.reply (.multipartReply r)) := by
  intro l between k
  have hspares : ∀ op ∈ between, op.Spares 1 (0 + 9) := by
    intro op hop
    simp only [between, List.mem_cons, List.not_mem_nil, or_false] at hop
    -- a fragment of another request, a registration, a prune before the deadline
    rcases hop with rfl | rfl | rfl | rfl | rfl | rfl
    · exact fun _ => .inl ⟨_, rfl, rfl⟩
    · exact fun h => absurd h (by decide)
    · exact trivial
    · show 8 < 0 + 9
      decide
    · exact fun _ => .inl ⟨_, rfl, rfl⟩
    · exact fun h => absurd h (by decide)
  have habsent : (run ⟨l, { datapath := ⟨7⟩, ageOut := 9 }⟩ [.register 1 2 0]).Absent 0 :=
    (Absent.run (fun he => by simp at he) (sound_new l ⟨7⟩ 9) (by decide)).1
  obtain ⟨-, -, -, r, hr, houtcome⟩ := reassembles_run l ⟨7⟩ 9 [.register 1 2 0] between 0 1 0
    { kind := .flow, body := .raw [4] } habsent ⟨_, rfl, rfl⟩ rfl hspares (by decide) rfl
  exact ⟨r, hr.flags, hr.raw [[1], [2, 3], [4]] rfl, houtcome [.failAll]⟩

end Tracker

end Southbound
