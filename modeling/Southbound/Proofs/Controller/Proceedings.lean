import Southbound.Proofs.Controller.Resting

/-!
# What operations do to requests and to work

Every operation but a step of the work for datapaths `Proceeds` (`proceeds_apply`), unless it adds
or removes a contributor. Requests are made and end by the steps of the books, and so are datapaths
registered and given up.
-/

namespace Southbound.Controller

open Relation (ReflTransGen)

variable {c c' c'' : Controller} {l m : LinkId}

/-! ## Requests -/

/-- The books have the table of every datapath. -/
theorem table?_book {dp : Datapath} (hdp : c.datapath? m = some dp) :
    c.book.table? m = some dp.requests :=
  congrArg (Option.map fun dp : Datapath => dp.requests) hdp

section Track

variable {α : Type} {dp : Datapath}

/-- What is done with the requests of a datapath is done in the books. -/
theorem book_track (hdp : c.datapath? dp.main = some dp) (f : Tracker → Tracker × α) :
    (c.track dp f).1.book = c.book.put dp.main (f ⟨c.ledger, dp.requests⟩).1 := by
  refine Book.ext rfl (funext fun j => ?_) rfl
  show ((Controller.modifyDatapath _ dp.main _).datapath? j).map (·.requests) = _
  rw [datapath?_modifyDatapath]
  simp only [Book.put]
  split
  · next hj =>
    subst hj
    show ((c.datapath? dp.main).map _).map _ = _
    rw [hdp]
    rfl
  · rfl

/-- The work for datapaths waits meanwhile. -/
private theorem waits_track (c : Controller) (dp : Datapath) (f : Tracker → Tracker × α) :
    c.Waits (c.track dp f).1 := waits_of_eq rfl rfl rfl rfl rfl rfl

/-- So it is a proceeding if it is a step of the books. -/
private theorem proceeds_track (hdp : c.datapath? dp.main = some dp) (f : Tracker → Tracker × α)
    (hstep : Book.Step c.book (c.book.put dp.main (f ⟨c.ledger, dp.requests⟩).1)) :
    c.Proceeds (c.track dp f).1 :=
  ⟨waits_track c dp f, .single (book_track hdp f ▸ hstep)⟩

end Track

/-- What proceeds once does so again and again, as long as the outline stays as it is. -/
private theorem proceeds_foldl {α : Type} {f : Controller → α → Controller}
    (hf : ∀ c a, c.outline.Sound → c.Proceeds (f c a) ∧ (f c a).outline = c.outline) (as : List α)
    (h : c.outline.Sound) : c.Proceeds (as.foldl f c) := by
  induction as generalizing c with
  | nil => exact (Rests.refl c).proceeds
  | cons a as ih =>
    obtain ⟨hproceeds, hout⟩ := hf c a h
    exact hproceeds.trans (ih (hout ▸ h))

/-- A sweep over the requests prunes one table after the other. -/
private theorem proceeds_pruneRequests (h : c.outline.Sound) : c.Proceeds c.pruneRequests := by
  refine proceeds_foldl (fun c m h => ?_) c.registry h
  dsimp only
  split
  · exact ⟨(Rests.refl c).proceeds, rfl⟩
  · next dp hdp =>
    have hmain : dp.main = m.2 := h.main_eq (datapath?_outline hdp)
    rw [← hmain] at hdp
    exact ⟨proceeds_track hdp (fun t => t.prune c.clock) (.prune (table?_book hdp) c.clock),
      outline_track _ _ _⟩

/-- A message in service may end a request of its datapath. -/
private theorem proceeds_onService (h : c.outline.Sound) {k : Link} (x : Xid) (message : Message) :
    c.Proceeds (c.onService l k x message).1 := by
  unfold onService
  split
  · exact (rests_answerEcho c l x _).proceeds
  · split
    · exact (Rests.refl c).proceeds
    · next main _ =>
      split
      · exact (Rests.refl c).proceeds
      · next dp hdp =>
        have hnoted := rests_onNotification c dp message
        dsimp only
        split
        · exact hnoted.proceeds
        · next dp' hdp' =>
          -- a notification changes no table, so the message is resolved in the table there was
          have hmain : dp'.main = main := by
            refine Outline.Sound.main_eq ?_ (datapath?_outline hdp')
            rw [outline_onNotification]
            exact (h.updatePorts _ _).tell _
          rw [← hmain] at hdp'
          have hresolved := proceeds_track hdp' (fun t => t.resolve x message)
            (.resolve (table?_book hdp') x message)
          split
          · next heq =>
            rw [heq] at hresolved
            exact hnoted.proceeds.trans hresolved
          · next heq =>
            rw [heq] at hresolved
            -- nobody waited for it, so listeners are told
            exact hnoted.proceeds.trans (hresolved.trans (rests_publish _ _ _ _ _).proceeds)

/-! ## Making requests -/

/-- A connection without fault is open. -/
private theorem isClosed_eq_false_of_fault? {k : Connection} (h : k.fault? = none) :
    k.isClosed = false := by
  cases hclosed : k.isClosed with
  | false => rfl
  | true =>
    rw [Connection.fault?, if_pos hclosed] at h
    cases h

/-- Nothing is written on a connection that is closed. -/
theorem isClosed_eq_false_of_writeAll {ms : List (Xid × Message)} (hne : ms ≠ [])
    (h : (c.writeAll l ms).2 = .ok ()) : c.isClosed l = false := by
  -- the first write already finds the connection open
  match ms with
  | [] => exact absurd rfl hne
  | (x, message) :: rest =>
    rw [writeAll] at h
    cases hwritten : c.write l x message with
    | error e =>
      rw [hwritten] at h
      cases h
    | ok c' =>
      obtain ⟨k, -, hk, hfault, -⟩ := write_eq_ok hwritten
      rw [isClosed, hk]
      exact isClosed_eq_false_of_fault? hfault

/-- The ticket of the next request. -/
def nextTicket (c : Controller) : Ticket := c.ledger.requests.length

/-- Writing messages draws no ids. -/
private theorem drawn_writeAll (c : Controller) (l : LinkId) (ws : List (Xid × Message)) :
    (c.writeAll l ws).1.drawn = c.drawn := by
  induction ws generalizing c with
  | nil => rfl
  | cons w ws ih =>
    rw [writeAll]
    split
    · rfl
    · next hwritten => exact (ih _).trans (drawn_write hwritten)

/-- A write never fails for ids in use. -/
private theorem isDuplicate_of_write {l : LinkId} {y : Xid} {message : Message} {e : Failure}
    (h : c.write l y message = .error e) : e.isDuplicate = false := by
  unfold write at h
  split at h
  · obtain rfl := Except.error.inj h
    rfl
  · next k _ =>
    cases hsent : k.send Codec.encode y message with
    | ok k' =>
      rw [hsent] at h
      cases h
    | error e' =>
      rw [hsent] at h
      obtain rfl := Except.error.inj h
      -- a connection that takes no frame is at fault for what it is, and an encoder for the message
      unfold Connection.send Connection.sendFrame at hsent
      split at hsent
      · obtain rfl := Except.error.inj hsent
        rfl
      · split at hsent
        · obtain rfl := Except.error.inj hsent
          rfl
        · cases hsent

/-- What goes wrong when frames are queued has nothing to do with transaction ids. -/
theorem isDuplicate_of_writeAll {l : LinkId} {ws : List (Xid × Message)} {e : Failure}
    (h : c.writeAll l ws = (c', .error e)) : e.isDuplicate = false := by
  induction ws generalizing c with
  | nil => cases h
  | cons w ws ih =>
    rw [writeAll] at h
    split at h
    · next hwritten =>
      obtain rfl := Except.error.inj (Prod.mk.inj h).2
      exact isDuplicate_of_write hwritten
    · exact ih h

section Issue

variable {dp : Datapath} {type : MessageType} {claim : Ticket → Claim}
  {frames : List (Xid × Message)}

/-- A table that is put into the books twice is there as it was put last. -/
private theorem put_put_book {m : LinkId} {l : Ledger} {k k' : Tracker} :
    (Book.put (Book.put { c.book with ledger := l } m k) m k') = c.book.put m k' := by
  refine Book.ext rfl (funext fun j => ?_) rfl
  simp only [Book.put]
  split <;> rfl

/-- What is done with the requests of a datapath has the result that it has for the table. -/
theorem track_eq {α : Type} {dp : Datapath} {f : Tracker → Tracker × α} {k : Tracker} {a : α}
    (h : f ⟨c.ledger, dp.requests⟩ = (k, a)) : c.track dp f = ((c.track dp f).1, a) := by
  refine Prod.ext rfl ?_
  show (f ⟨c.ledger, dp.requests⟩).2 = a
  rw [h]

/-- The state and the request as `issue` enters it into the ledger. -/
def known (c : Controller) (dp : Datapath) (type : MessageType) (own : Xid) : Controller :=
  { c with
    ledger := (c.ledger.enter { datapath := dp.id, xid := own, type, created := c.clock }).1 }

/-- A request whose ids are not free is not written. -/
theorem issue_of_refused {c₁ : Controller} {f : Failure}
    (h : (c.known dp type (claim 0).xid).track dp (fun t => t.register (claim c.nextTicket)) =
      (c₁, .error f)) : c.issue dp type claim frames = (c₁, c.nextTicket) := by
  unfold issue
  dsimp only [known, nextTicket, Ledger.enter] at h ⊢
  rw [h]

/-- A request that is written stays in the table. -/
theorem issue_of_written {c₁ c₂ : Controller}
    (h : (c.known dp type (claim 0).xid).track dp (fun t => t.register (claim c.nextTicket)) =
      (c₁, .ok ())) (hwritten : c₁.writeAll dp.main frames = (c₂, .ok ())) :
    c.issue dp type claim frames = (c₂, c.nextTicket) := by
  unfold issue
  dsimp only [known, nextTicket, Ledger.enter] at h ⊢
  simp only [h, hwritten]

/-- A request that cannot be written leaves the table again, and is settled. -/
theorem issue_of_failed {c₁ c₂ : Controller} {e : Failure} {dp₂ : Datapath}
    (h : (c.known dp type (claim 0).xid).track dp (fun t => t.register (claim c.nextTicket)) =
      (c₁, .ok ())) (hwritten : c₁.writeAll dp.main frames = (c₂, .error e))
    (hdp₂ : c₂.datapath? dp.main = some dp₂) :
    c.issue dp type claim frames =
      ({ (c₂.track dp₂ fun t => t.remove (claim 0).xid).1 with
          ledger := (c₂.track dp₂ fun t => t.remove (claim 0).xid).1.ledger.settle c.nextTicket
            (.failed e) },
        c.nextTicket) := by
  unfold issue
  dsimp only [known, nextTicket, Ledger.enter] at h ⊢
  simp only [h, hwritten, hdp₂]

/-- A request that is issued is in the books, and nothing else is done. -/
theorem enters_issue (h : c.outline.Sound) (hdp : c.datapath? dp.main = some dp)
    (hclaim : ∀ ticket, (claim ticket).ticket = ticket ∧ (claim ticket).xid = (claim 0).xid) :
    ∃ c', c.issue dp type claim frames = (c', c.nextTicket) ∧ c.Waits c' ∧ c'.drawn = c.drawn ∧
      c.book.Enters dp.main dp.requests (claim c.nextTicket)
        { datapath := dp.id, xid := (claim 0).xid, type, created := c.clock }
        (frames ≠ [] → c.isClosed dp.main = false) c'.book := by
  obtain ⟨hticket, hxid⟩ := hclaim c.nextTicket
  let c₀ := c.known dp type (claim 0).xid
  let c₁ := (c₀.track dp fun t => t.register (claim c.nextTicket)).1
  have hwaits : c.Waits c₁ := waits_of_eq rfl rfl rfl rfl rfl rfl
  have hbook : c₁.book = c.book.put dp.main _ :=
    book_track (c := c₀) hdp fun t => t.register (claim c.nextTicket)
  cases hc : dp.requests.conflict? (claim c.nextTicket) with
  | some x =>
    have hregister : Tracker.register ⟨c₀.ledger, dp.requests⟩ (claim c.nextTicket) =
        (⟨c₀.ledger.settle (claim c.nextTicket).ticket
          (.failed (.duplicateXid dp.requests.datapath x)), dp.requests⟩,
          .error (.duplicateXid dp.requests.datapath x)) := by
      simp only [Tracker.register, RequestTable.insert, hc]
    rw [hregister] at hbook
    exact ⟨c₁, issue_of_refused (track_eq hregister), hwaits, rfl, hbook ▸ .refused hc⟩
  | none =>
    have hregister : Tracker.register ⟨c₀.ledger, dp.requests⟩ (claim c.nextTicket) =
        (⟨c₀.ledger, dp.requests.enroll (claim c.nextTicket)⟩, .ok ()) := by
      simp only [Tracker.register, RequestTable.insert, hc]
    rw [hregister] at hbook
    have htracked : c₀.track dp (fun t => t.register (claim c.nextTicket)) = (c₁, .ok ()) :=
      track_eq hregister
    have hqueued := rests_writeAll c₁ dp.main frames
    have hdrawn : (c₁.writeAll dp.main frames).1.drawn = c.drawn := drawn_writeAll c₁ _ frames
    have hout := (outline_writeAll c₁ dp.main frames).trans
      (outline_track c₀ dp fun t => t.register (claim c.nextTicket))
    cases hwritten : c₁.writeAll dp.main frames with
    | mk c₂ result =>
    rw [hwritten] at hqueued hdrawn hout
    have hbook₂ : c₂.book =
        c.book.put dp.main ⟨c₀.ledger, dp.requests.enroll (claim c.nextTicket)⟩ :=
      hqueued.book.trans hbook
    cases result with
    | ok =>
      refine ⟨c₂, issue_of_written htracked hwritten, hwaits.trans hqueued.toWaits, hdrawn,
        hbook₂ ▸ .entered hc fun hne => ?_⟩
      have hopen : c₁.isClosed dp.main = false :=
        isClosed_eq_false_of_writeAll hne (congrArg Prod.snd hwritten)
      exact hopen
    | error e =>
      have hfound : (c₂.datapath? dp.main).map (·.requests) =
          some (dp.requests.enroll (claim c.nextTicket)) := by
        show c₂.book.table? dp.main = _
        rw [hbook₂]
        exact if_pos rfl
      obtain ⟨dp₂, hdp₂, hrequests⟩ := Option.map_eq_some_iff.1 hfound
      have hmain : dp₂.main = dp.main :=
        Outline.Sound.main_eq (hout ▸ h) (datapath?_outline hdp₂)
      refine ⟨_, issue_of_failed htracked hwritten hdp₂,
        hwaits.trans (hqueued.toWaits.trans (waits_of_eq rfl rfl rfl rfl rfl rfl)), hdrawn, ?_⟩
      -- its transaction ids are free again, and what is written down is that it failed
      have hwithdrawn := Book.Enters.withdrawn (b := c.book) (m := dp.main)
        (r := { datapath := dp.id, xid := (claim 0).xid, type, created := c.clock })
        (Q := frames ≠ [] → c.isClosed dp.main = false) hc (isDuplicate_of_writeAll hwritten)
      rw [hticket, hxid, ← put_put_book (l := c₀.ledger)
        (k := ⟨c₀.ledger, dp.requests.enroll (claim c.nextTicket)⟩)] at hwithdrawn
      have hremoved := book_track (hmain.symm ▸ hdp₂) fun t => t.remove (claim 0).xid
      rw [hmain, hbook₂, hrequests] at hremoved
      have hledger : (c₂.track dp₂ fun t => t.remove (claim 0).xid).1.ledger = c₀.ledger :=
        congrArg Book.ledger hbook₂
      refine Eq.subst (motive := c.book.Enters _ _ _ _ _) (Book.ext ?_ ?_ ?_) hwithdrawn
      · exact congrArg (Ledger.settle · c.nextTicket (.failed e)) hledger.symm
      · exact (congrArg Book.table? hremoved).symm
      · exact (congrArg Book.isRegistered hremoved).symm

/-- Whoever makes a request to a datapath that is registered, or whose connection is closed, is
kept account of. -/
theorem proceeds_issue (h : c.outline.Sound) (hdp : c.datapath? dp.main = some dp)
    (hclaim : ∀ ticket, (claim ticket).ticket = ticket ∧ (claim ticket).xid = (claim 0).xid)
    (hm : c.book.isRegistered dp.main ∨ c.isClosed dp.main = true ∧ frames ≠ []) :
    c.Proceeds (c.issue dp type claim frames).1 := by
  obtain ⟨c', hissue, hwaits, -, hbook⟩ := enters_issue h hdp hclaim
  rw [hissue]
  refine ⟨hwaits, .single (hbook.step (table?_book hdp) (hclaim _).1 fun hqueued => ?_)⟩
  -- nothing is queued on a connection that is closed, so the datapath is a registered one
  refine hm.resolve_right fun ⟨hclosed, hne⟩ => ?_
  cases (hqueued hne).symm.trans hclosed

end Issue

/-- What follows a check proceeds if it does whenever the check passes. -/
private theorem proceeds_andThen {α β : Type} {checked : Except Failure α}
    {next : α → Controller × Except Failure β}
    (h : ∀ a, checked = .ok a → c.Proceeds (next a).1) : c.Proceeds (c.andThen checked next).1 := by
  cases checked with
  | error e => exact (Rests.refl c).proceeds
  | ok a => exact h a rfl

/-- A datapath that is found is registered and filed under its main connection. -/
theorem lookup_eq_ok (h : c.outline.Sound) {d : DatapathId} {dp : Datapath}
    (hdp : c.lookup d = .ok dp) :
    c.datapath? dp.main = some dp ∧ c.book.isRegistered dp.main := by
  unfold lookup at hdp
  split at hdp
  · next dp' hregistered =>
    obtain rfl : dp' = dp := Except.ok.inj hdp
    obtain ⟨m, hm, hdp'⟩ := registered?_eq_some hregistered
    obtain rfl : dp'.main = m := h.main_eq (datapath?_outline hdp')
    exact ⟨hdp', d, hm⟩
  · cases hdp

/-- What may be sent goes to a registered datapath. -/
theorem permit_eq_ok (h : c.outline.Sound) {d : DatapathId} {ms : List Message} {path : SendPath}
    {dp : Datapath} (hdp : c.permit d ms path = .ok dp) :
    c.datapath? dp.main = some dp ∧ c.book.isRegistered dp.main := by
  unfold permit at hdp
  cases hlookup : c.lookup d with
  | error e =>
    rw [hlookup] at hdp
    cases hdp
  | ok dp' =>
    rw [hlookup] at hdp
    simp only [bind, Except.bind, pure, Except.pure] at hdp
    split at hdp
    · cases hdp
    · obtain rfl : dp' = dp := Except.ok.inj hdp
      exact lookup_eq_ok h hlookup

/-- At most transaction ids are drawn. -/
def Draws (c c' : Controller) : Prop := ∃ n, c' = { c with drawn := n }

/-- Ids can be drawn in two steps. -/
theorem Draws.trans (h : c.Draws c') (h' : c'.Draws c'') : c.Draws c'' := by
  obtain ⟨n, rfl⟩ := h
  obtain ⟨n', rfl⟩ := h'
  exact ⟨n', rfl⟩

theorem draws_drawXid (c : Controller) : c.Draws c.drawXid.1 := ⟨c.drawn + 1, rfl⟩

/-- An id that was chosen need not be drawn. -/
theorem draws_xidFor (c : Controller) (x : Option Xid) : c.Draws (c.xidFor x).1 := by
  cases x with
  | none => exact draws_drawXid c
  | some x => exact ⟨c.drawn, rfl⟩

/-- Each message of a batch draws an id, and that is all. -/
theorem draws_drawXids (c : Controller) (ms : List Message) : c.Draws (c.drawXids ms).1 := by
  induction ms generalizing c with
  | nil => exact ⟨c.drawn, rfl⟩
  | cons m ms ih => exact (draws_drawXid c).trans (ih c.drawXid.1)

/-- A request enters the books of its datapath. -/
private theorem proceeds_sendRequest (h : c.outline.Sound) (d : DatapathId) (o : Outbound) :
    c.Proceeds (c.sendRequest d o).1 := by
  refine proceeds_andThen fun dp hdp => proceeds_andThen fun _ _ => ?_
  obtain ⟨hdp, hm⟩ := permit_eq_ok h hdp
  refine (rests_xidFor c o.xid).proceeds.trans ?_
  obtain ⟨n, hn⟩ := draws_xidFor c o.xid
  exact proceeds_issue (hn ▸ h) (hn ▸ hdp) (fun _ => ⟨rfl, rfl⟩) (.inl (hn ▸ hm))

/-- So does a message with a barrier. -/
private theorem proceeds_sendWithBarrier (h : c.outline.Sound) (d : DatapathId) (o : Outbound)
    (barrier : Option Xid) : c.Proceeds (c.sendWithBarrier d o barrier).1 := by
  refine proceeds_andThen fun dp hdp => proceeds_andThen fun _ _ => proceeds_andThen fun _ _ => ?_
  obtain ⟨hdp, hm⟩ := permit_eq_ok h hdp
  refine ((rests_xidFor c o.xid).trans (rests_xidFor _ barrier)).proceeds.trans ?_
  obtain ⟨n, hn⟩ := (draws_xidFor c o.xid).trans (draws_xidFor _ barrier)
  exact proceeds_issue (hn ▸ h) (hn ▸ hdp) (fun _ => ⟨rfl, rfl⟩) (.inl (hn ▸ hm))

/-- So does a message with a companion. -/
private theorem proceeds_sendWithCompanion (h : c.outline.Sound) (d : DatapathId)
    (o companion : Outbound) :
    c.Proceeds (c.sendWithCompanion d o companion).1 := by
  unfold sendWithCompanion
  split
  · exact (Rests.refl c).proceeds
  · split
    · exact (Rests.refl c).proceeds
    · exact proceeds_sendWithBarrier h d o _

/-- A batch is kept account of if it goes to a registered datapath, or to one whose connection is
closed. -/
theorem proceeds_sendBatchOn (h : c.outline.Sound) {dp : Datapath}
    (hdp : c.datapath? dp.main = some dp)
    (hm : c.book.isRegistered dp.main ∨ c.isClosed dp.main = true) (ms : List Message) :
    c.Proceeds (c.sendBatchOn dp ms).1 := by
  cases ms with
  | nil => exact (Rests.refl c).proceeds
  | cons first more =>
    refine proceeds_andThen fun _ _ => ?_
    -- the ids of the messages and of the barrier are drawn first
    have hdrawn := (rests_drawXids c (first :: more)).trans (rests_drawXid _)
    obtain ⟨n, hn⟩ := (draws_drawXids c (first :: more)).trans (draws_drawXid _)
    dsimp only
    split
    · exact hdrawn.proceeds
    -- the state that the induction goes on from is sound again, with the same datapath in place
    · have hm' : (c.drawXids (first :: more)).1.drawXid.1.book.isRegistered dp.main ∨
          (c.drawXids (first :: more)).1.drawXid.1.isClosed dp.main = true := by
        rw [hn]
        exact hm
      exact hdrawn.proceeds.trans (proceeds_issue (hn ▸ h) (hn ▸ hdp) (fun _ => ⟨rfl, rfl⟩)
        (hm'.imp_right fun hclosed => ⟨hclosed, List.append_ne_nil_of_right_ne_nil _ nofun⟩))

/-- So does a batch. -/
private theorem proceeds_sendBatch (h : c.outline.Sound) (d : DatapathId) (ms : List Message) :
    c.Proceeds (c.sendBatch d ms).1 :=
  proceeds_andThen fun _ hlookup =>
    have ⟨hdp, hm⟩ := lookup_eq_ok h hlookup
    proceeds_sendBatchOn h hdp (.inl hm) ms

/-- So does a change of a port. -/
private theorem proceeds_enablePort (h : c.outline.Sound) (d : DatapathId) (n : PortNumber)
    (enable : Bool) : c.Proceeds (c.enablePort d n enable).1 := by
  refine proceeds_andThen fun dp _ => ?_
  split
  · exact (Rests.refl c).proceeds
  · exact proceeds_sendWithBarrier h d _ none

/-! ## Coming and going -/

/-- Closing connections leaves the datapaths alone. -/
theorem datapath?_closeLinks (c : Controller) (ls : List LinkId) :
    (c.closeLinks ls).datapath? = c.datapath? := by
  induction ls generalizing c with
  | nil => rfl
  | cons l ls ih => exact ih (c.modifyConnection l Connection.close)

/-- The requests of a datapath that goes fail. -/
theorem teardown_spec {dp : Datapath} (hdp : c.datapath? m = some dp) (hm : dp.main = m)
    (kind : DatapathEventKind) :
    (c.teardown m kind).book = c.book.put m (Tracker.failAll ⟨c.ledger, dp.requests⟩).1 ∧
      c.Waits (c.teardown m kind) ∧
      ∀ j, j ≠ m → (c.teardown m kind).datapath? j = c.datapath? j := by
  subst hm
  -- four changes one after the other, of which only the last concerns requests
  let dp' : Datapath := { dp with auxiliaries := [], provisioning := .cancelled }
  let c₁ := c.modifyConnection dp.main
    (if kind = .revoked then Connection.revoke else Connection.close)
  let c₂ := c₁.closeLinks dp.auxiliaries.values
  let c₃ := c₂.modifyDatapath dp.main fun _ => dp'
  let c₄ := (c₃.track dp' Tracker.failAll).1
  have hsame : c₂.datapath? = c.datapath? := datapath?_closeLinks c₁ _
  have hclosed : c.Rests c₃ :=
    (rests_modifyLink c dp.main _).trans ((rests_closeLinks c₁ _).trans
      (rests_modifyDatapath fun old hold => by
        rw [hsame, hdp] at hold
        rw [← Option.some.inj hold]))
  have hdp₃ : c₃.datapath? dp'.main = some dp' := by
    rw [datapath?_modifyDatapath, hsame, if_pos rfl, hdp]
    rfl
  -- the table that is failed is still the one that the datapath had before
  have hbook : c₄.book = c.book.put dp.main (Tracker.failAll ⟨c.ledger, dp.requests⟩).1 := by
    have htracked := book_track hdp₃ Tracker.failAll
    rw [hclosed.book, show c₃.ledger = c.ledger from congrArg Book.ledger hclosed.book] at htracked
    exact htracked
  have hwaits : c.Waits c₄ := hclosed.toWaits.trans (waits_track c₃ dp' Tracker.failAll)
  have hothers (j : LinkId) (hj : j ≠ dp.main) : c₄.datapath? j = c.datapath? j := by
    show (Controller.modifyDatapath _ dp.main _).datapath? j = _
    rw [datapath?_modifyDatapath, if_neg hj]
    show c₃.datapath? j = _
    rw [datapath?_modifyDatapath, if_neg hj, hsame]
  -- what is told afterwards depends on whether the datapath was announced
  have heq : c.teardown dp.main kind = if dp.isAnnounced then c₄.emitDatapath kind dp' else c₄ := by
    simp only [teardown, hdp]
    rfl
  rw [heq]
  split
  · exact ⟨hbook, hwaits.trans (rests_emit c₄ _).toWaits, hothers⟩
  · exact ⟨hbook, hwaits, hothers⟩

/-- Datapaths are filed under their main connections, and registered under their ids. -/
structure Filed (c : Controller) : Prop where
  main_eq : ∀ {m dp}, c.datapath? m = some dp → dp.main = m
  registered : ∀ {d m}, c.registry.find? d = some m → ∃ dp, c.datapath? m = some dp ∧ dp.id = d

/-- In a sound outline all datapaths are filed where they belong. -/
private theorem filed_of_sound {o : Outline} (h : o.Sound)
    (hdatapath : c.outline.datapath? = o.datapath?) (hmain : c.outline.main? = o.main?) :
    c.Filed where
  main_eq hdp := h.main_eq (hdatapath ▸ datapath?_outline hdp)
  registered {d m} hd := by
    have hd' : c.outline.main? d = some m := hd
    obtain ⟨_, dp₀, -, hdp₀, hspec⟩ := h.registered (hmain ▸ hd')
    rw [← hdatapath] at hdp₀
    obtain ⟨dp, hdp, rfl⟩ := Option.map_eq_some_iff.1 hdp₀
    exact ⟨dp, hdp, hspec.id_eq⟩

/-- Nobody is registered twice. -/
theorem Filed.eq_of_registered (h : c.Filed) {d d' : DatapathId}
    (hd : c.registry.find? d = some m) (hd' : c.registry.find? d' = some m) : d = d' := by
  obtain ⟨dp, hdp, rfl⟩ := h.registered hd
  obtain ⟨dp', hdp', rfl⟩ := h.registered hd'
  rw [Option.some.inj (hdp.symm.trans hdp')]

/-- Whoever else was registered still is when an id becomes free. -/
private theorem isRegistered_erase (h : c.Filed) {d : DatapathId} (hd : c.registry.find? d = some m)
    (j : LinkId) :
    ({ c with registry := c.registry.erase d } : Controller).book.isRegistered j ↔
      j ≠ m ∧ c.book.isRegistered j := by
  simp only [book, Keyed.find?_erase]
  constructor
  -- a connection is registered under one id only, so no other id leads to `m`
  · rintro ⟨i, hi⟩
    split at hi
    · cases hi
    · next hid =>
      refine ⟨?_, i, hi⟩
      rintro rfl
      exact hid (h.eq_of_registered hi hd)
  · rintro ⟨hj, i, hi⟩
    refine ⟨i, (if_neg ?_).trans hi⟩
    rintro rfl
    exact hj (Option.some.inj (hi.symm.trans hd))

/-- The datapath of connection `m` goes, and nobody comes in its place. -/
theorem proceeds_unregister (h : c.Filed) {d : DatapathId} (hd : c.registry.find? d = some m)
    (kind : DatapathEventKind) :
    c.Proceeds ({ c with registry := c.registry.erase d }.teardown m kind) := by
  obtain ⟨dp, hdp, -⟩ := h.registered hd
  obtain ⟨hbook, hwaits, -⟩ :=
    teardown_spec (c := { c with registry := c.registry.erase d }) hdp (h.main_eq hdp) kind
  refine ⟨hwaits.of_registry, .single ?_⟩
  rw [hbook]
  exact .retire (table?_book hdp) (isRegistered_erase h hd)

/-- A connection is registered if it is the new one or keeps its id. -/
private theorem isRegistered_put (c : Controller) (d : DatapathId) (l j : LinkId) :
    ({ c with registry := c.registry.put d l } : Controller).book.isRegistered j ↔
      j = l ∨ ∃ i, i ≠ d ∧ c.registry.find? i = some j := by
  -- registering under `d` displaces whatever was there before
  simp only [book, Keyed.find?_put]
  constructor
  · rintro ⟨i, hi⟩
    split at hi
    · exact .inl (Option.some.inj hi).symm
    · next hid => exact .inr ⟨i, hid, hi⟩
  · rintro (rfl | ⟨i, hid, hi⟩)
    · exact ⟨d, if_pos rfl⟩
    · exact ⟨i, (if_neg hid).trans hi⟩

/-- An id goes to connection `l`, which has none, and whoever had it goes. -/
theorem proceeds_takeOver (h : c.Filed) (hnew : ∀ i, c.registry.find? i ≠ some l)
    (d : DatapathId) :
    c.Proceeds (c.takeOver d l) ∧ (c.takeOver d l).datapath? l = c.datapath? l := by
  have hput := isRegistered_put c d l
  unfold takeOver
  cases hd : c.registry.find? d with
  -- the id is free: nobody goes
  | none =>
    refine ⟨⟨waits_of_eq rfl rfl rfl rfl rfl rfl,
      .single (.enlist (m := l) fun j => (hput j).trans (or_congr_right ?_))⟩, rfl⟩
    refine ⟨fun ⟨i, _, hi⟩ => ⟨i, hi⟩, fun ⟨i, hi⟩ => ⟨i, ?_, hi⟩⟩
    rintro rfl
    rw [hd] at hi
    cases hi
  -- the datapath that had the id is given up before the new one is enlisted
  | some m =>
    obtain ⟨old, hold, -⟩ := h.registered hd
    have hlm : l ≠ m := by
      rintro rfl
      exact hnew d hd
    obtain ⟨hbook, hwaits, hothers⟩ := teardown_spec
      (c := { c with registry := c.registry.put d l }) hold (h.main_eq hold) .revoked
    refine ⟨⟨hwaits.of_registry, ?_⟩, hothers l hlm⟩
    have hretire := Book.Step.retire (b := c.book) (table?_book hold) fun _ => Iff.rfl
    refine .tail (.single hretire) ?_
    rw [hbook]
    refine .enlist (m := l) fun j => (hput j).trans (or_congr_right ?_)
    refine ⟨fun ⟨i, hid, hi⟩ => ⟨?_, i, hi⟩, fun ⟨hj, i, hi⟩ => ⟨i, ?_, hi⟩⟩
    · rintro rfl
      exact hid (h.eq_of_registered hi hd)
    -- in both directions, ids other than `d` are left as they are
    · rintro rfl
      exact hj (Option.some.inj (hi.symm.trans hd))

/-- The datapath of connection `l`, which nobody was told of, is registered. -/
theorem proceeds_register (h : c.Filed) {dp : Datapath} (hdp : c.datapath? l = some dp)
    (hannounced : dp.isAnnounced = false) (hnew : ∀ i, c.registry.find? i ≠ some l) :
    c.Proceeds (c.register l) := by
  obtain ⟨htaken, hself⟩ := proceeds_takeOver h hnew dp.id
  -- the id is taken over first, the announcement tells nothing new to the books
  have hknown : (c.takeOver dp.id l).Rests ((c.takeOver dp.id l).announce l dp) := by
    refine (rests_modifyDatapath fun old hold => ?_).trans (rests_emit _ _)
    rw [hself, hdp] at hold
    rw [← Option.some.inj hold]
  rw [register_eq hdp hannounced]
  split
  · exact htaken.trans hknown.proceeds
  · refine (htaken.trans hknown.proceeds).trans (Rests.proceeds
      ⟨⟨⟨rfl, rfl, Nat.le_refl _⟩, rfl, rfl, ?_⟩, rfl⟩)
    exact List.prefix_append _ _

/-- A switch that has been described is registered, and the one before it given up. -/
private theorem proceeds_finishDescriptions (h : c.outline.Sound) (ha : c.outline.Attached)
    {k : Link} (hk : c.link? l = some k) (hs : k.connection.stage = .extendedHandshake) :
    c.Proceeds (c.finishDescriptions l k.session) := by
  have hko := link?_outline hk
  obtain ⟨-, hserves, d, ports, -, hdp⟩ := (h.link hko).collecting hs
  obtain ⟨hcalm, -⟩ := news_finishDescriptions h ha hk hs
  have hsound := h.calms hcalm
  have hout := outline_described c l k.session.descriptions
  have hfiled : (c.described l k.session.descriptions).Filed :=
    filed_of_sound hsound (congrArg (·.datapath?) hout) (congrArg (·.main?) hout)
  -- its datapath is still the one that it brought along, with its ports
  have hself : (c.described l k.session.descriptions).outline.datapath? l =
      some (.new d l (k.session.descriptions.settle ports)) := by
    rw [hout]
    simp only [Outline.describe, Outline.datapath?_updateLink, Outline.datapath?_updateDatapath,
      ↓reduceIte, hdp]
    rfl
  obtain ⟨dp, hdp', hnew⟩ := Option.map_eq_some_iff.1 hself
  rw [finishDescriptions_eq hserves]
  refine (rests_described c l _).proceeds.trans (proceeds_register hfiled hdp'
    (congrArg (·.isAnnounced) hnew) fun i hi => ?_)
  exact h.not_main hko (LinkOutline.not_isSettled (.inr (.inr (.inr hs)))) (d := i) hi

/-- The end of a session is the end of its datapath at most. -/
theorem proceeds_connectionClosed (h : c.outline.Sound) (l : LinkId) :
    c.Proceeds (c.connectionClosed l) := by
  unfold connectionClosed
  split
  · exact (Rests.refl c).proceeds
  · split
    · exact (Rests.refl c).proceeds
    · exact (Rests.refl c).proceeds
    · split
      · exact (Rests.refl c).proceeds
      · next d _ _ dp hdp =>
        obtain ⟨m, hm, hdp⟩ := registered?_eq_some hdp
        obtain rfl : dp.main = m := h.main_eq (datapath?_outline hdp)
        split
        -- an auxiliary connection is only detached
        · refine (rests_modifyDatapath fun old _ => ?_).proceeds
          unfold Datapath.detach
          split <;> rfl
        · split
          -- a main connection takes its datapath with it
          · next hl => exact hl ▸ proceeds_unregister (filed_of_sound h rfl rfl) hm .disconnected
          · exact (Rests.refl c).proceeds

/-- With a session, the requests of its datapath end. -/
theorem proceeds_endSession (h : c.outline.Sound) (l : LinkId) : c.Proceeds (c.endSession l) := by
  cases hk : c.link? l with
  | none =>
    simp only [endSession, hk]
    exact (Rests.refl c).proceeds
  | some k =>
    cases hover : k.session.isOver with
    -- a session ends once
    | true =>
      simp only [endSession, hk, hover, ↓reduceIte]
      exact (Rests.refl c).proceeds
    | false =>
      rw [(endSession_eq hk hover).1]
      have hfinished : c.Rests (c.finish l) :=
        (rests_modifyLink c l _).trans (rests_modifyLink _ l _)
      exact hfinished.proceeds.trans (proceeds_connectionClosed (outline_finish c l ▸ h.finish l) l)

/-! ## Sessions -/

/-- A switch introduces itself on a connection that is not put to use yet. -/
theorem proceeds_onMainFeatures (hnew : ∀ i, c.registry.find? i ≠ some l) (f : SwitchFeatures) :
    c.Proceeds (c.onMainFeatures l f).1 := by
  let dp := Datapath.new f l c.settings.ageOut
  let c₁ : Controller := { c with datapaths := c.datapaths.put l dp }
  -- the new datapath has an empty table, under a connection that is not registered
  have hbook : c₁.book = c.book.put l ⟨c.ledger, dp.requests⟩ := by
    refine Book.ext rfl (funext fun j => ?_) rfl
    show (Keyed.find? j (c.datapaths.put l dp)).map (·.requests) = _
    rw [Keyed.find?_put]
    simp only [Book.put]
    split <;> rfl
  have hintroduced : c.Proceeds c₁ := by
    refine ⟨waits_of_eq rfl rfl rfl rfl rfl rfl, .single ?_⟩
    rw [hbook]
    exact .introduce (not_exists.2 hnew) _ _
  -- what is written after that concerns no request
  have hconfigured := rests_configureSwitch c₁ l
  unfold onMainFeatures
  dsimp only
  split
  · next heq =>
    rw [heq] at hconfigured
    exact hintroduced.trans hconfigured.proceeds
  · next c₂ heq =>
    rw [heq] at hconfigured
    let c₃ := (c₂.modifyConnection l fun k => k.enter .extendedHandshake).modifySession l fun s =>
      { s with datapath := some l }
    have hentered : c₁.Rests c₃ :=
      hconfigured.trans ((rests_modifyLink c₂ l _).trans (rests_modifyLink _ l _))
    split
    · exact hintroduced.trans hentered.proceeds
    · exact hintroduced.trans (hentered.trans (rests_requestDescriptions c₃ l _)).proceeds

/-- The features introduce a datapath without requests. -/
theorem proceeds_onFeatures (h : c.outline.Sound) {k : Link} (hk : c.link? l = some k)
    (hs : k.connection.stage = .basicHandshake) (f : SwitchFeatures) :
    c.Proceeds (c.onFeatures l f).1 := by
  let c₁ := c.modifyConnection l fun k => k.bind ⟨f.datapathId⟩ f.auxiliaryId
  have hbound : c.Proceeds c₁ := (rests_modifyLink c l _).proceeds
  unfold onFeatures
  split
  -- a main connection: it is in its basic handshake, so no id leads to it yet
  · refine hbound.trans (proceeds_onMainFeatures (fun i hi => ?_) f)
    exact h.not_main (link?_outline hk) (LinkOutline.not_isSettled (.inr (.inr (.inl hs))))
      (d := i) hi
  · have hout : c₁.outline = c.outline.updateLink l (.bind ⟨f.datapathId⟩ f.auxiliaryId) :=
      outline_modifyLink fun _ _ => rfl
    have hbind : Outline.Calm (some l) c.outline c₁.outline :=
      hout ▸ .bind (link?_outline hk) hs _ _
    exact hbound.trans (rests_onAuxiliaryFeatures (h.calm hbind) l).proceeds

/-- Before that there are no requests. -/
private theorem proceeds_onBasic (h : c.outline.Sound) {k : Link} (hk : c.link? l = some k)
    (hs : k.connection.stage = .basicHandshake) (s : Session) (x : Xid) (message : Message) :
    c.Proceeds (c.onBasic l s x message).1 := by
  unfold onBasic
  split
  · exact (rests_answerEcho c l x _).proceeds
  · split
    · exact proceeds_onFeatures h hk hs _
    · exact (Rests.refl c).proceeds
  · exact (Rests.refl c).proceeds
  · exact (Rests.refl c).proceeds

/-- Descriptions end no requests, unless they register a datapath. -/
theorem proceeds_onDescription (h : c.outline.Sound) (ha : c.outline.Attached) {k : Link}
    (hk : c.link? l = some k) (hs : k.connection.stage = .extendedHandshake) (x : Xid)
    (message : Message) : c.Proceeds (c.onDescription l k.session x message).1 := by
  obtain ⟨-, hserves, -⟩ := (h.link (link?_outline hk)).collecting hs
  have hlearnt := rests_learn c l k.session x message
  unfold onDescription
  split
  · exact (rests_answerEcho c l x _).proceeds
  · dsimp only
    split
    · exact hlearnt.proceeds
    · next k' hk' =>
      -- the last description registers the datapath
      split
      · have hheard := calm_hear (link?_outline hk) hs hserves x message
        rw [← outline_learn hserves x message] at hheard
        exact hlearnt.proceeds.trans (proceeds_finishDescriptions (h.calms hheard)
          (ha.calms hheard) hk' (stage_learn h hk hs hk'))
      · exact hlearnt.proceeds

/-- So a message proceeds at any stage. -/
private theorem proceeds_onMessage (h : c.outline.Sound) (ha : c.outline.Attached) {k : Link}
    (hk : c.link? l = some k) (header : Header) (message : Message) :
    c.Proceeds (c.onMessage l k header message).1 := by
  unfold onMessage
  split
  · exact (rests_onHello c l header message).proceeds
  · exact (rests_onHello c l header message).proceeds
  · next hs => exact proceeds_onBasic h hk hs k.session header.xid message
  · next hs => exact proceeds_onDescription h ha hk hs header.xid message
  · exact proceeds_onService h header.xid message
  · exact proceeds_onService h header.xid message
  · exact (Rests.refl c).proceeds
  · exact (Rests.refl c).proceeds

/-- What comes in is counted. -/
private theorem rests_received (c : Controller) (l : LinkId) : c.Rests (c.received l) :=
  ⟨waits_of_eq rfl rfl rfl rfl rfl rfl, rfl⟩

/-- A frame that cannot be read concerns no request. -/
private theorem rests_onUnreadable (c : Controller) (l : LinkId) (k : Link) (e : WireError) :
    c.Rests (c.onUnreadable l k e).1 := by
  unfold onUnreadable
  split
  · exact rests_refuse c l _
  · exact ⟨waits_of_eq rfl rfl rfl rfl rfl rfl, rfl⟩

/-- A frame proceeds as its message does. -/
private theorem proceeds_onFrame (h : c.outline.Sound) (ha : c.outline.Attached) (l : LinkId)
    (f : Frame) :
    c.Proceeds (c.onFrame l f).1 := by
  have hout := outline_received c l
  have hreceived := (rests_received c l).proceeds
  rw [onFrame_eq]
  split
  · exact hreceived
  · next k hk =>
    split
    · exact hreceived.trans (rests_onUnreadable _ l k _).proceeds
    · exact hreceived.trans (proceeds_onMessage (hout ▸ h) (hout ▸ ha) hk f.header _)

/-- So it does with the end of its session. -/
private theorem proceeds_handleFrame (h : c.outline.Sound) (ha : c.outline.Attached) (l : LinkId)
    (f : Frame) : c.Proceeds (c.handleFrame l f).1 := by
  have htakes := takes_onFrame h ha l f
  have hframe := proceeds_onFrame h ha l f
  unfold handleFrame
  split
  · next heq =>
    rw [heq] at hframe
    exact hframe
  · next c₁ heq =>
    rw [heq] at htakes hframe
    exact hframe.trans (proceeds_endSession (h.calms htakes.calm_of_ends) l)

/-! ## Operations -/

/-- Does the operation add or remove a contributor? -/
def Operation.isStaffing : Operation → Bool
  | .addContributor _ | .removeContributor _ => true
  | _ => false

/-- That changes nothing but the contributors. -/
theorem apply_of_isStaffing {op : Operation} (hop : op.isStaffing = true) :
    c.apply op = { c with
      contributors := (c.apply op).contributors
      lastContributor := (c.apply op).lastContributor } := by
  cases op with
  | addContributor | removeContributor => rfl
  | _ => cases hop

/-- Everything but a step of the work for datapaths leaves that work as it is, and keeps account of
requests. -/
theorem proceeds_apply (h : c.outline.Healthy) {op : Operation} (hop : ∀ b, op ≠ .provision b)
    (hstaff : op.isStaffing = false) : c.Proceeds (c.apply op) := by
  -- the operations that touch requests have a lemma each, the others rest
  cases op with
  | accept remote =>
    rw [apply]
    split
    · next haccept => exact (rests_accept haccept).proceeds
    · exact (Rests.refl c).proceeds
  | frame l f => exact proceeds_handleFrame h.sound h.attached l f
  | close l => exact proceeds_endSession h.sound l
  | write l w => exact (rests_modifyLink c l _).proceeds
  | checkIdle => exact (rests_checkIdle c).proceeds
  | pruneRequests => exact proceeds_pruneRequests h.sound
  | provision patient => exact absurd rfl (hop patient)
  | send d auxiliary message => exact (rests_send c d auxiliary message).proceeds
  | sendRequest d o => exact proceeds_sendRequest h.sound d o
  | sendWithBarrier d o barrier => exact proceeds_sendWithBarrier h.sound d o barrier
  | sendWithCompanion d o companion => exact proceeds_sendWithCompanion h.sound d o companion
  | sendBatch d ms => exact proceeds_sendBatch h.sound d ms
  | enablePort d n enable => exact proceeds_enablePort h.sound d n enable
  | addContributor | removeContributor => cases hstaff
  | wait | abandon => exact Rests.proceeds ⟨waits_of_eq rfl rfl rfl rfl rfl rfl, rfl⟩
  | shutDown => exact (rests_shutDown c).proceeds

end Southbound.Controller
