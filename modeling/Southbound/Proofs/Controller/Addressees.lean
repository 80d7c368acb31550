import Southbound.Proofs.Controller.Correlation
import Southbound.Proofs.Controller.Confinement

/-!
# Whose requests are open

A request is entered into the table of the datapath that it is made to, and tables are never
exchanged: what is open in a table was made to its datapath (`Controller.Addressed`). Calls and the
work for datapaths keep it so (`addressed_issue`, `addressed_sendFlows`), and so does everything
that leaves tables and the ledger alone (`addressed_of_book`).
-/

namespace Southbound

/-- A new request does not change whom the others were made to. -/
private theorem Ledger.addressee?_enter_of_some {l : Ledger} {r : Request} {u : Ticket}
    {d : DatapathId} (h : l.addressee? u = some d) : (l.enter r).1.addressee? u = some d := by
  obtain ⟨q, hq, rfl⟩ := Option.map_eq_some_iff.1 h
  exact congrArg (Option.map _) (get?_enter_of_some hq)

/-- What is open after a removal was open before. -/
private theorem RequestTable.Lists.of_remove {t : RequestTable} {x : Xid} {u : Ticket}
    (h : (t.remove x).1.Lists u) : t.Lists u := by
  obtain ⟨y, e, he, rfl⟩ := h
  exact ⟨y, e, (find?_remove_eq_some.1 he).2, rfl⟩

namespace Controller

variable {c c' : Controller} {m : LinkId}

/-- An open request was made to the datapath in whose table it is. -/
def Addressed (c : Controller) : Prop :=
  ∀ m dp u, c.datapath? m = some dp → dp.requests.Lists u →
    c.ledger.addressee? u = some dp.id

/-- Nobody is listed in the table of another datapath, and who is listed for the first time is
listed where the request was made to. -/
theorem Addressed.step (h : c.Addressed)
    (haddressee : ∀ {u d}, c.ledger.addressee? u = some d → c'.ledger.addressee? u = some d)
    (hlists : ∀ {m dp' u}, c'.datapath? m = some dp' → dp'.requests.Lists u →
      (∃ dp, c.datapath? m = some dp ∧ dp.id = dp'.id ∧ dp.requests.Lists u) ∨
      c'.ledger.addressee? u = some dp'.id) : c'.Addressed := fun m dp' u hdp hu => by
  rcases hlists hdp hu with ⟨dp, hdp, hid, hu⟩ | hnew
  · exact hid ▸ haddressee (h m dp u hdp hu)
  · exact hnew

/-- Whoever leaves the datapaths and the addressees alone keeps to it. -/
theorem Addressed.of_eq (h : c.Addressed) (hdatapaths : c'.datapaths = c.datapaths)
    (hledger : ∀ u, c'.ledger.addressee? u = c.ledger.addressee? u) : c'.Addressed :=
  h.step (hledger _).trans fun {m dp' _} hdp hu =>
    .inl ⟨dp', (congrArg (Keyed.find? m) hdatapaths).symm.trans hdp, rfl, hu⟩

/-! ## Requests -/

section Track

variable {α : Type} {dp : Datapath} {f : Tracker → Tracker × α}

/-- So does whoever enters into a table only requests to its datapath. -/
private theorem Addressed.track (h : c.Addressed) (hdp : c.datapath? dp.main = some dp)
    (haddressee : ∀ {u d}, c.ledger.addressee? u = some d →
      (f ⟨c.ledger, dp.requests⟩).1.ledger.addressee? u = some d)
    (hlists : ∀ {u}, (f ⟨c.ledger, dp.requests⟩).1.table.Lists u → dp.requests.Lists u ∨
      (f ⟨c.ledger, dp.requests⟩).1.ledger.addressee? u = some dp.id) :
    (c.track dp f).1.Addressed := by
  refine h.step haddressee fun {m dp' u} hdp' hu => ?_
  rw [datapath?_track] at hdp'
  split at hdp'
  · next hm =>
    rw [hm, hdp] at hdp'
    obtain rfl := Option.some.inj hdp'
    exact (hlists hu).imp_left fun hu => ⟨dp, hm ▸ hdp, rfl, hu⟩
  · exact .inl ⟨dp', hdp', rfl, hu⟩

/-- What is done to a table without a claim lists nobody. -/
theorem Addressed.track_of_op (h : c.Addressed) (hsound : Tracker.Sound ⟨c.ledger, dp.requests⟩)
    (hdp : c.datapath? dp.main = some dp) (op : Tracker.Operation) (hop : op.claim? = none)
    (hf : ∀ k, (f k).1 = k.apply op) : (c.track dp f).1.Addressed := by
  have hstep := hsound.step op
  rw [← hf] at hstep
  exact h.track hdp (fun hd => (hstep.addressee? _).trans hd) fun hu =>
    .inl (hstep.lists hsound hop hu)

end Track

section Issue

variable {dp : Datapath} {type : MessageType} {claim : Ticket → Claim}
  {frames : List (Xid × Message)}

/-- A claim for a request to the datapath is filed or turned down. -/
theorem addressed_register (h : c.Addressed) (hdp : c.datapath? dp.main = some dp) {claimed : Claim}
    (hself : c.ledger.addressee? claimed.ticket = some dp.id) :
    (c.track dp fun t => t.register claimed).1.Addressed := by
  -- entered or refused; in neither case does a request change its addressee
  rcases Tracker.register_cases ⟨c.ledger, dp.requests⟩ claimed with ⟨-, heq⟩ | ⟨e, heq⟩
  · refine h.track hdp (fun hd => ?_) fun hu => ?_ <;> rw [heq]
    · exact hd
    · rw [heq] at hu
      rcases hu.of_enroll with rfl | hu
      · exact .inr hself
      · exact .inl hu
  · refine h.track hdp (fun hd => ?_) fun hu => ?_
    · rw [heq]
      exact (Ledger.addressee?_settle _ _ _ _).trans hd
    · rw [heq] at hu
      exact .inl hu

/-- A request is entered into the table of the datapath that it is made to. -/
theorem addressed_issue (h : c.Addressed) (hdp : c.datapath? dp.main = some dp)
    (hclaim : ∀ ticket, (claim ticket).ticket = ticket) :
    (c.issue dp type claim frames).1.Addressed := by
  let c₀ := c.known dp type (claim 0).xid
  have hknown : c₀.Addressed := h.step Ledger.addressee?_enter_of_some fun hdp hu =>
    .inl ⟨_, hdp, rfl, hu⟩
  have hself : c₀.ledger.addressee? (claim c.nextTicket).ticket = some dp.id := by
    rw [hclaim]
    exact congrArg (Option.map _) (Ledger.get?_enter_self (l := c.ledger) _)
  have hregistered := addressed_register hknown hdp hself
  let dp₁ : Datapath := { dp with
    requests := (Tracker.register ⟨c₀.ledger, dp.requests⟩ (claim c.nextTicket)).1.table }
  have hdp₁ : (c₀.track dp fun t => t.register (claim c.nextTicket)).1.datapath? dp₁.main =
      some dp₁ := by
    rw [datapath?_track, if_pos rfl, show c₀.datapath? dp₁.main = _ from hdp]
    rfl
  cases htracked : c₀.track dp (fun t => t.register (claim c.nextTicket)) with
  | mk c₁ result =>
  rw [htracked] at hregistered hdp₁
  cases result with
  | error e =>
    rw [issue_of_refused htracked]
    exact hregistered
  | ok =>
    have hwritten := solo_writeAll c₁ dp.main frames
    have hqueued : (c₁.writeAll dp.main frames).1.Addressed :=
      hregistered.of_eq hwritten.datapaths fun _ => by rw [hwritten.ledger]
    have hdp₂ := (hwritten.datapath? dp.main).trans hdp₁
    cases hresult : c₁.writeAll dp.main frames with
    | mk c₂ result =>
    rw [hresult] at hqueued hdp₂
    cases result with
    | ok =>
      rw [issue_of_written htracked hresult]
      exact hqueued
    | error e =>
      -- the request is taken out of the table again
      rw [issue_of_failed htracked hresult hdp₂]
      have hremoved : (c₂.track dp₁ fun t => t.remove (claim 0).xid).1.Addressed :=
        Addressed.track hqueued hdp₂ id fun hu => .inl hu.of_remove
      exact hremoved.of_eq rfl fun u => Ledger.addressee?_settle _ _ u _

end Issue

/-! ## Calls -/

/-- What is done behind a check keeps to it if it does so when the check passes. -/
private theorem addressed_andThen {α β : Type} {checked : Except Failure α}
    {next : α → Controller × Except Failure β} (h : c.Addressed)
    (hnext : ∀ a, checked = .ok a → (next a).1.Addressed) :
    (c.andThen checked next).1.Addressed := by
  cases checked with
  | error e => exact h
  | ok a => exact hnext a rfl

variable (h : c.Addressed) (hsound : c.outline.Sound)
include h hsound

/-- A request is entered into the table of the datapath it is made to. -/
private theorem addressed_sendRequest (d : DatapathId) (o : Outbound) :
    (c.sendRequest d o).1.Addressed := by
  refine addressed_andThen h fun dp hdp => addressed_andThen h fun _ _ => ?_
  obtain ⟨n, hn⟩ := draws_xidFor c o.xid
  exact addressed_issue (hn ▸ h) (hn ▸ (permit_eq_ok hsound hdp).1) fun _ => rfl

/-- So is a message with a barrier. -/
private theorem addressed_sendWithBarrier (d : DatapathId) (o : Outbound) (barrier : Option Xid) :
    (c.sendWithBarrier d o barrier).1.Addressed := by
  refine addressed_andThen h fun dp hdp => addressed_andThen h fun _ _ =>
    addressed_andThen h fun _ _ => ?_
  obtain ⟨n, hn⟩ := (draws_xidFor c o.xid).trans (draws_xidFor _ barrier)
  exact addressed_issue (hn ▸ h) (hn ▸ (permit_eq_ok hsound hdp).1) fun _ => rfl

/-- So is a message with a companion. -/
private theorem addressed_sendWithCompanion (d : DatapathId) (o companion : Outbound) :
    (c.sendWithCompanion d o companion).1.Addressed := by
  unfold sendWithCompanion
  split
  · exact h
  · split
    · exact h
    · exact addressed_sendWithBarrier h hsound d o _

omit hsound in
/-- So is a batch. -/
private theorem addressed_sendBatchOn {dp : Datapath} (hdp : c.datapath? dp.main = some dp)
    (ms : List Message) : (c.sendBatchOn dp ms).1.Addressed := by
  cases ms with
  | nil => exact h
  | cons first more =>
    refine addressed_andThen h fun _ _ => ?_
    obtain ⟨n, hn⟩ := (draws_drawXids c (first :: more)).trans (draws_drawXid _)
    dsimp only
    split
    · exact hn ▸ h
    · exact addressed_issue (hn ▸ h) (hn ▸ hdp) fun _ => rfl

private theorem addressed_sendBatch (d : DatapathId) (ms : List Message) :
    (c.sendBatch d ms).1.Addressed :=
  addressed_andThen h fun _ hdp => addressed_sendBatchOn h (lookup_eq_ok hsound hdp).1 ms

private theorem addressed_enablePort (d : DatapathId) (n : PortNumber) (enable : Bool) :
    (c.enablePort d n enable).1.Addressed := by
  refine addressed_andThen h fun dp _ => ?_
  split
  · exact h
  · exact addressed_sendWithBarrier h hsound d _ none

omit h hsound

/-! ## The work for datapaths and sweeps -/

/-- The work for a datapath makes its requests to that datapath. -/
theorem addressed_sendFlows (h : c.Addressed) {dp : Datapath}
    (hdp : c.datapath? dp.main = some dp) (flows : List FlowMod) (awaiting : Ticket → TaskStage) :
    (c.sendFlows dp flows awaiting).1.Addressed := by
  have hsent := addressed_sendBatchOn h hdp (flows.map .flowMod)
  unfold sendFlows
  split
  · next heq =>
    rw [heq] at hsent
    exact hsent
  · next heq =>
    rw [heq] at hsent
    exact hsent

/-- A step of the work leaves the books alone or sends flows to a datapath. -/
theorem provision?_cases (hsound : c.outline.Sound) {patient : Bool} {p : Progress}
    (hstep : c.provision? patient = some (m, p)) :
    p.1.book = c.book ∨ ∃ dp flows awaiting, c.datapath? dp.main = some dp ∧
      p = c.sendFlows dp flows awaiting := by
  -- a step goes on with the running task, or takes the next one
  unfold provision? at hstep
  split at hstep
  · split at hstep
    · obtain ⟨rfl, rfl⟩ := Prod.mk.inj (Option.some.inj hstep)
      exact .inl rfl
    · next dp hdp =>
      obtain ⟨p', hp', heq⟩ := Option.map_eq_some_iff.1 hstep
      obtain ⟨rfl, rfl⟩ := Prod.mk.inj heq
      rw [← show dp.main = _ from hsound.main_eq (datapath?_outline hdp)] at hdp
      rcases continueTask_cases hdp hp' with ⟨flows, awaiting, heq⟩ | ⟨hleaves, -⟩
      · exact .inr ⟨dp, flows, awaiting, hdp, heq⟩
      · exact .inl hleaves.book
  · split at hstep
    · cases hstep
    · next main rest _ =>
      obtain ⟨rfl, rfl⟩ := Prod.mk.inj (Option.some.inj hstep)
      exact .inl (leavesRequests_beginTask { c with tasks := rest } main).book

/-- A sweep takes requests out of tables and puts none in. -/
private theorem addressed_pruneRequests (h : c.Addressed) (hsound : c.outline.Sound)
    (hbook : c.book.Sound) : c.pruneRequests.Addressed := by
  unfold pruneRequests
  generalize c.registry = registry
  -- the tables are pruned one after the other, each in the state the one before left
  induction registry generalizing c with
  | nil => exact h
  | cons e registry ih =>
    rw [List.foldl_cons]
    dsimp only
    split
    · exact ih h hsound hbook
    · next dp hdp =>
      rw [← show dp.main = e.2 from hsound.main_eq (datapath?_outline hdp)] at hdp
      have ht := table?_book hdp
      have hpruned := h.track_of_op (f := fun t => t.prune c.clock) (hbook.tracker ht) hdp
        (.prune c.clock) rfl fun _ => rfl
      refine ih hpruned ((outline_track c dp _).symm ▸ hsound) ?_
      exact (book_track hdp fun t => t.prune c.clock).symm ▸ hbook.step (.prune ht c.clock)

/-! ## Operations -/

/-- A datapath with open requests keeps its id. -/
theorem Kept.id_apply (h : c.Kept) {dp dp' : Datapath} {u : Ticket} (hdp : c.datapath? m = some dp)
    (hu : dp.requests.Lists u) (op : Operation) (hdp' : (c.apply op).datapath? m = some dp') :
    dp'.id = dp.id := by
  obtain ⟨⟨d, hm⟩, -⟩ := h.book.listed (table?_book hdp) hu
  obtain ⟨_, dp₀, -, hdp₀, hmain⟩ := h.healthy.sound.registered hm
  obtain rfl := Option.some.inj ((datapath?_outline hdp).symm.trans hdp₀)
  obtain ⟨dp₁, htells, hid, -⟩ :=
    stays_apply h.healthy h.orderly ⟨hdp₀, hmain.isAnnounced⟩ op
  obtain rfl := Option.some.inj ((datapath?_outline hdp').symm.trans htells.datapath?)
  exact hid

/-- What leaves tables and the ledger alone leaves requests where they were made to. -/
theorem addressed_of_book (h : c.Addressed) (hkept : c.Kept) {op : Operation}
    (hbook : (c.apply op).book = c.book) : (c.apply op).Addressed := by
  have hledger : (c.apply op).ledger = c.ledger := congrArg Book.ledger hbook
  refine h.step (fun hd => hledger ▸ hd) fun {m dp' u} hdp' hu => ?_
  have htable := table?_book hdp'
  rw [hbook] at htable
  obtain ⟨dp, hdp, hrequests⟩ := Option.map_eq_some_iff.1 htable
  have hu : dp.requests.Lists u := hrequests ▸ hu
  exact .inl ⟨dp, hdp, (hkept.id_apply hdp hu op hdp').symm, hu⟩

/-- Whatever is not done for a session leaves requests where they were made to. -/
theorem addressed_apply (h : c.Addressed) (hkept : c.Kept) {op : Operation}
    (hspeaker : speaker? op = none) (hclose : ∀ l, op ≠ .close l) : (c.apply op).Addressed := by
  have hsound := hkept.healthy.sound
  -- what leaves the books alone keeps every addressee; the other operations have a lemma each
  cases op with
  | accept remote =>
    refine addressed_of_book h hkept ?_
    rw [apply]
    split
    · next haccept => exact (rests_accept haccept).book
    · rfl
  | frame l f => cases hspeaker
  | close l => exact absurd rfl (hclose l)
  | write l w => exact addressed_of_book h hkept rfl
  | checkIdle => exact addressed_of_book h hkept (rests_checkIdle c).book
  | pruneRequests => exact addressed_pruneRequests h hsound hkept.book
  | provision patient =>
    cases hstep : c.provision? patient with
    | none =>
      have hsame : c.apply (.provision patient) = c := by simp only [apply, hstep]
      exact hsame.symm ▸ h
    | some step =>
      have hafter : c.apply (.provision patient) = step.2.1 := by simp only [apply, hstep]
      rcases provision?_cases hsound hstep with hbook | ⟨dp, flows, awaiting, hdp, heq⟩
      · exact addressed_of_book h hkept (hafter ▸ hbook)
      · rw [hafter, heq]
        exact addressed_sendFlows h hdp flows awaiting
  | send d auxiliary message =>
    exact addressed_of_book h hkept (rests_send c d auxiliary message).book
  | sendRequest d o => exact addressed_sendRequest h hsound d o
  | sendWithBarrier d o barrier => exact addressed_sendWithBarrier h hsound d o barrier
  | sendWithCompanion d o companion => exact addressed_sendWithCompanion h hsound d o companion
  | sendBatch d ms => exact addressed_sendBatch h hsound d ms
  | enablePort d n enable => exact addressed_enablePort h hsound d n enable
  | addContributor | removeContributor | wait | abandon => exact addressed_of_book h hkept rfl
  | shutDown => exact addressed_of_book h hkept (rests_shutDown c).book

end Controller

end Southbound
