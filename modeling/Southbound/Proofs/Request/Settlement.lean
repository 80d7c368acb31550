import Southbound.Proofs.Request.Index

/-!
# Which message ends which request

`OpenRequest.EndsBy e x m o` says that message `m` under transaction id `x` ends request `e` with
outcome `o`. At most one open request is ended by a message, because no two share an id
(`Indexed.eq_of_endsBy`), and `Effect` lists everything a message can do to a table: end that
request, be kept as a fragment, or nothing.
-/

namespace Southbound

/-- A reply that no fragment follows. Errors are replies, but they answer in their own way. -/
def Message.isLastReply : Message → Bool
  | .error _ => false
  | .multipartReply r => !r.hasMore
  | m => m.type.isReply

/-- A message under a transaction id ends a request. -/
inductive OpenRequest.EndsBy (e : OpenRequest) (x : Xid) : Message → Outcome → Prop
  | error (err : ErrorMessage) (h : x ∈ e.xids) : EndsBy e x (.error err) (.refused err)
  | barrier (h : e.barrier = some x) : EndsBy e x .barrierReply .confirmed
  | reply {m : Message} (hx : e.xid = x) (hc : e.completion = .byReply)
      (hm : m.isLastReply = true) : EndsBy e x m (.reply (RequestTable.wholeReply e.fragments m))

/-- A request is ended only under an id that it occupies. -/
theorem OpenRequest.EndsBy.mem_xids {e : OpenRequest} {x : Xid} {m : Message} {o : Outcome}
    (h : e.EndsBy x m o) : x ∈ e.xids := by
  cases h with
  | error _ h => exact h
  | barrier h => exact RequestTable.mem_xids.2 (.inr (.inl h))
  | reply hx => exact hx ▸ RequestTable.mem_xids_self e

namespace RequestTable

variable {t : RequestTable} {x : Xid}

/-- The request with the fragments of its reply up to `r`. -/
def withFragment (e : OpenRequest) (r : MultipartReply) : OpenRequest :=
  { e with fragments := some (match e.fragments with
      | some before => before.merge r
      | none => r) }

/-- A message ends at most one request, in one way only. -/
theorem Indexed.eq_of_endsBy (h : t.Indexed) {k j : Xid} {e f : OpenRequest} {m : Message}
    {o p : Outcome} (he : t.entries.find? k = some e) (hf : t.entries.find? j = some f)
    (hem : e.EndsBy x m o) (hfm : f.EndsBy x m p) : k = j ∧ e = f ∧ o = p := by
  obtain rfl : k = j := h.apart he hf hem.mem_xids hfm.mem_xids
  obtain rfl : e = f := Option.some.inj (he.symm.trans hf)
  refine ⟨rfl, rfl, ?_⟩
  -- a barrier reply cannot be both the answer to the request and that to its barrier
  have hdistinct (hb : e.barrier = some e.xid) : False := by
    have hn := h.nodup he
    rw [OpenRequest.xids, hb] at hn
    simp at hn
  cases hem with
  | error err => cases hfm with
    | error => rfl
    | reply _ _ hm => simp [Message.isLastReply] at hm
  | barrier hb => cases hfm with
    | barrier => rfl
    | reply hx => exact absurd (hx ▸ hb) hdistinct
  | reply hx hc hm => cases hfm with
    | error => simp [Message.isLastReply] at hm
    | barrier hb => exact absurd (hx ▸ hb) hdistinct
    | reply => rfl

/-- An open request is taken out and settled. -/
private theorem finish_of_find? {k : Xid} {e : OpenRequest} (he : t.entries.find? k = some e)
    (o : OpenRequest → Outcome) : t.finish k o = ((t.remove k).1, .settles e.ticket (o e)) := by
  simp only [finish, remove_of_find? he]

/-- A fragment for an open request: a reply under its own id that announces more. -/
structure Continues (t : RequestTable) (x : Xid) (m : Message) (e : OpenRequest)
    (r : MultipartReply) : Prop where
  find? : t.entries.find? x = some e
  byReply : e.completion = .byReply
  message : m = .multipartReply r
  hasMore : r.hasMore = true

/-- What a message under a transaction id can do to a table. -/
inductive Effect (t : RequestTable) (x : Xid) (m : Message) : RequestTable × Verdict → Prop
  /-- It ends an open request. -/
  | ends {k : Xid} {e : OpenRequest} {o : Outcome} (he : t.entries.find? k = some e)
      (hends : e.EndsBy x m o) : Effect t x m ((t.remove k).1, .settles e.ticket o)
  /-- It is kept with the fragments of an open request. -/
  | continues {e : OpenRequest} {r : MultipartReply} (h : t.Continues x m e r) :
      Effect t x m ({ t with entries := t.entries.put x (withFragment e r) }, .kept)
  /-- It means nothing to any of them. -/
  | nothing (hends : ∀ k e o, t.entries.find? k = some e → ¬ e.EndsBy x m o)
      (hcont : ∀ e r, ¬ t.Continues x m e r) : Effect t x m (t, .ignored)

/-- A last reply under its own id ends a request that waits for one. -/
theorem Indexed.effect_onOwnReply (h : t.Indexed) {m : Message} (hm : m.isLastReply = true)
    (hbar : m = .barrierReply → t.barriers.find? x = none) :
    t.Effect x m (t.onOwnReply x m) := by
  -- a last reply is no fragment
  have hcont (e : OpenRequest) (r : MultipartReply) : ¬ t.Continues x m e r := by
    rintro ⟨-, -, rfl, hr⟩
    simp [Message.isLastReply, hr] at hm
  have hnothing (hno : ∀ e, t.entries.find? x = some e → e.completion ≠ .byReply) :
      t.Effect x m (t, .ignored) := by
    refine .nothing ?_ hcont
    intro k e o he hends
    cases hends with
    | error => simp [Message.isLastReply] at hm
    | barrier hb =>
      -- a barrier reply comes here only if no request waits for it
      have hsome := h.barriers_iff.2 ⟨e, he, hb⟩
      rw [hbar rfl] at hsome
      cases hsome
    | reply hx hc =>
      have hk : k = x := (h.xid_eq he).symm.trans hx
      exact hno e (hk ▸ he) hc
  unfold onOwnReply
  split
  · next e he =>
    split
    · next hc =>
      rw [finish_of_find? he]
      exact .ends he (.reply (h.xid_eq he) hc hm)
    · next hc => exact hnothing fun f hf => Option.some.inj (he.symm.trans hf) ▸ hc
  · next hnone => exact hnothing fun f hf => by rw [hnone] at hf; cases hf

/-- Everything a message can do to a table. -/
theorem Indexed.effect_onMessage (h : t.Indexed) (x : Xid) (m : Message) :
    t.Effect x m (t.onMessage x m) := by
  unfold onMessage
  split
  · next err =>
    cases hown : t.owner? x with
    | some k =>
      obtain ⟨e, he, hx⟩ := h.owner?_eq_some_iff.1 hown
      simp only [finish_of_find? he]
      exact .ends he (.error err hx)
    | none =>
      refine .nothing ?_ fun e r hc => nomatch hc.message
      intro k e o he hends
      have hsome := h.owner?_eq_some_iff.2 ⟨e, he, hends.mem_xids⟩
      rw [hown] at hsome
      cases hsome
  · cases hb : t.barriers.find? x with
    | some k =>
      obtain ⟨e, he, hbar⟩ := h.barriers_iff.1 hb
      simp only [finish_of_find? he]
      exact .ends he (.barrier hbar)
    | none => exact h.effect_onOwnReply rfl fun _ => hb
  · next r =>
    split
    · next hmore =>
      have hnothing (hno : ∀ e, t.entries.find? x = some e → e.completion ≠ .byReply) :
          t.Effect x (.multipartReply r) (t, .ignored) := by
        refine .nothing ?_ fun e _ hc => hno e hc.find? hc.byReply
        intro k e o he hends
        cases hends with
        | reply _ _ hm => simp [Message.isLastReply, hmore] at hm
      unfold onFragment
      split
      · next e he =>
        split
        · next hc => exact .continues ⟨he, hc, rfl, hmore⟩
        · next hc => exact hnothing fun f hf => Option.some.inj (he.symm.trans hf) ▸ hc
      · next hnone => exact hnothing fun f hf => by rw [hnone] at hf; cases hf
    · next hmore => exact h.effect_onOwnReply (by simpa [Message.isLastReply] using hmore) nofun
  · next hne hnb hnm =>
    -- what is left is neither an error nor a barrier reply nor in parts
    have hlast : m.isLastReply = m.type.isReply := by
      cases m with
      | error err => exact absurd rfl (hne err)
      | multipartReply r => exact absurd rfl (hnm r)
      | _ => rfl
    split
    · next hreply => exact h.effect_onOwnReply (hlast.trans hreply) fun hm => absurd hm hnb
    · next hreply =>
      refine .nothing ?_ fun e r hc => hnm r hc.message
      intro k e o _ hends
      cases hends with
      | error err => exact hne err rfl
      | barrier => exact hnb rfl
      | reply _ _ hm => exact hreply (hlast.symm.trans hm)

/-- A fragment leaves the transaction ids of all requests as they were. -/
theorem Indexed.withFragment (h : t.Indexed) {e : OpenRequest} (he : t.entries.find? x = some e)
    (r : MultipartReply) :
    Indexed { t with entries := t.entries.put x (withFragment e r) } := by
  have hfind (k : Xid) :=
    Keyed.find?_put x k (RequestTable.withFragment e r) t.entries
  -- under every key stands a request with the ids of the one before
  have hsame {k : Xid} {f : OpenRequest}
      (hf : (t.entries.put x (RequestTable.withFragment e r)).find? k = some f) :
      ∃ g, t.entries.find? k = some g ∧ g.xid = f.xid ∧ g.barrier = f.barrier ∧
        g.writes = f.writes := by
    rw [hfind] at hf
    split at hf
    · next hk => exact ⟨e, hk ▸ he, Option.some.inj hf ▸ ⟨rfl, rfl, rfl⟩⟩
    · exact ⟨f, hf, rfl, rfl, rfl⟩
  have hxids {f g : OpenRequest} (hx : g.xid = f.xid) (hb : g.barrier = f.barrier)
      (hw : g.writes = f.writes) : g.xids = f.xids := by
    rw [OpenRequest.xids, OpenRequest.xids, hx, hb, hw]
  refine ⟨Keyed.ordered_put _ _ h.ordered, ?_, ?_, ?_, ?_, ?_⟩
  · intro k f hf
    obtain ⟨g, hg, hx, -, -⟩ := hsame hf
    rw [← hx]
    exact h.xid_eq hg
  · intro k f hf
    obtain ⟨g, hg, hx, hb, hw⟩ := hsame hf
    rw [← hxids hx hb hw]
    exact h.nodup hg
  · intro k j f f' y hf hf' hy hy'
    obtain ⟨g, hg, hx, hb, hw⟩ := hsame hf
    obtain ⟨g', hg', hx', hb', hw'⟩ := hsame hf'
    rw [← hxids hx hb hw] at hy
    rw [← hxids hx' hb' hw'] at hy'
    exact h.apart hg hg' hy hy'
  · exact fun {b k} => h.inverts_barriers.replace hfind he (fun _ => Iff.rfl) b k
  · exact fun {w k} => h.inverts_writes.replace hfind he (fun _ => Iff.rfl) w k

end RequestTable

end Southbound
