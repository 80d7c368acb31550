import Southbound.Controller.Provision
import Southbound.Controller.Stream
import Southbound.Controller.Sweep
import Southbound.Proofs.Controller.Outline

/-!
# The outline of the state of a controller

`Controller.outline` leaves out of a state what has no part in the coming and going of datapaths,
nor in what is known of their ports.
The basic operations of a controller change an outline in one place, and whatever sends, counts,
draws transaction ids or keeps track of requests does not change it at all.
-/

namespace Southbound

def Link.outline (k : Link) : LinkOutline where
  stage := k.connection.stage
  isClosed := k.connection.isClosed
  isRevoked := k.connection.isRevoked
  auxiliary := k.connection.auxiliary
  datapath := k.connection.datapath
  serves := k.session.datapath
  isOver := k.session.isOver
  version := k.connection.version
  featuresXid := k.session.featuresXid
  descriptions := k.session.descriptions

def Datapath.outline (dp : Datapath) : DatapathOutline where
  id := dp.id
  main := dp.main
  auxiliaries := dp.auxiliaries
  isAnnounced := dp.isAnnounced
  isReady := dp.isReady
  provisioning := dp.provisioning
  ports := dp.ports

namespace Controller

variable {c c' : Controller} {l m : LinkId}

def outline (c : Controller) : Outline where
  link? l := (c.link? l).map Link.outline
  datapath? m := (c.datapath? m).map Datapath.outline
  main? d := c.registry.find? d
  events := c.events

/-- The outline has every connection that the controller has. -/
theorem link?_outline {k : Link} (hk : c.link? l = some k) : c.outline.link? l = some k.outline :=
  congrArg (Option.map Link.outline) hk

/-- The outline has every datapath that the controller has. -/
theorem datapath?_outline {dp : Datapath} (hdp : c.datapath? m = some dp) :
    c.outline.datapath? m = some dp.outline :=
  congrArg (Option.map Datapath.outline) hdp

/-- A connection is part of the link under its number. -/
theorem connection?_eq_some {k : Connection} (hk : c.connection? l = some k) :
    ∃ j, c.link? l = some j ∧ j.connection = k :=
  Option.map_eq_some_iff.1 hk

/-! ## One place at a time -/

/-- Only the link that is changed changes. -/
theorem link?_modifyLink (c : Controller) (l j : LinkId) (f : Link → Link) :
    (c.modifyLink l f).link? j = if j = l then (c.link? j).map f else c.link? j := by
  simp only [link?, modifyLink, List.getElem?_modify]
  by_cases hj : l = j
  · simp [hj]
  · simp [hj, Ne.symm hj]

/-- Only the datapath that is changed changes. -/
theorem datapath?_modifyDatapath (c : Controller) (m j : LinkId) (f : Datapath → Datapath) :
    (c.modifyDatapath m f).datapath? j =
      if j = m then (c.datapath? j).map f else c.datapath? j :=
  Keyed.find?_adjust m j f c.datapaths

/-- What is done with the requests of a datapath changes its table and no other. -/
theorem datapath?_track {α : Type} (c : Controller) (dp : Datapath) (f : Tracker → Tracker × α)
    (j : LinkId) :
    (c.track dp f).1.datapath? j =
      if j = dp.main then
        (c.datapath? j).map fun d => { d with requests := (f ⟨c.ledger, dp.requests⟩).1.table }
      else c.datapath? j :=
  datapath?_modifyDatapath _ dp.main j _

/-- A stage is entered with the queue as it is. -/
theorem queue_enter (k : Connection) (s : Stage) : (k.enter s).queue = k.queue := by
  unfold Connection.enter
  split <;> rfl

/-- A change of a connection that leaves its queue alone. -/
theorem queue?_modifyConnection (c : Controller) (j l : LinkId) {f : Connection → Connection}
    (hf : ∀ k, (f k).queue = k.queue) :
    ((c.modifyConnection j f).connection? l).map (·.queue) =
      (c.connection? l).map (·.queue) := by
  simp only [connection?, modifyConnection, link?_modifyLink]
  split
  · cases c.link? l with
    | none => rfl
    | some k => exact congrArg some (hf k.connection)
  · rfl

/-- A change of a connection that looks like `g`. -/
theorem outline_modifyLink {f : Link → Link} {g : LinkOutline → LinkOutline}
    (h : ∀ k, c.link? l = some k → (f k).outline = g k.outline) :
    (c.modifyLink l f).outline = c.outline.updateLink l g := by
  refine Outline.ext (funext fun j => ?_) rfl rfl rfl
  show ((c.modifyLink l f).link? j).map Link.outline =
    if j = l then ((c.link? j).map Link.outline).map g else (c.link? j).map Link.outline
  rw [link?_modifyLink]
  split
  · next hj =>
    subst hj
    cases hk : c.link? j with
    | none => rfl
    | some k => exact congrArg some (h k hk)
  · rfl

/-- A change of a connection that does not show. -/
theorem outline_modifyLink_same {f : Link → Link}
    (h : ∀ k, c.link? l = some k → (f k).outline = k.outline) :
    (c.modifyLink l f).outline = c.outline := by
  rw [outline_modifyLink (g := id) h]
  exact c.outline.updateLink_same l fun _ => rfl

/-- A change of a datapath that looks like `g`. -/
theorem outline_modifyDatapath {f : Datapath → Datapath} {g : DatapathOutline → DatapathOutline}
    (h : ∀ dp, c.datapath? m = some dp → (f dp).outline = g dp.outline) :
    (c.modifyDatapath m f).outline = c.outline.updateDatapath m g := by
  refine Outline.ext rfl (funext fun j => ?_) rfl rfl
  show ((c.modifyDatapath m f).datapath? j).map Datapath.outline =
    if j = m then ((c.datapath? j).map Datapath.outline).map g
    else (c.datapath? j).map Datapath.outline
  rw [datapath?_modifyDatapath]
  split
  · next hj =>
    subst hj
    cases hdp : c.datapath? j with
    | none => rfl
    | some dp => exact congrArg some (h dp hdp)
  · rfl

/-- A change of a datapath that does not show. -/
theorem outline_modifyDatapath_same {f : Datapath → Datapath}
    (h : ∀ dp, c.datapath? m = some dp → (f dp).outline = dp.outline) :
    (c.modifyDatapath m f).outline = c.outline := by
  rw [outline_modifyDatapath (g := id) h]
  exact c.outline.updateDatapath_same m fun _ => rfl

/-- A datapath in whose place there is one that looks like `g` of it. -/
theorem outline_setDatapath {k : DatapathOutline} {dp : Datapath}
    {g : DatapathOutline → DatapathOutline} (hk : c.outline.datapath? m = some k)
    (h : dp.outline = g k) :
    (c.modifyDatapath m fun _ => dp).outline = c.outline.updateDatapath m g := by
  refine outline_modifyDatapath fun old hold => ?_
  rw [Option.some.inj ((datapath?_outline hold).symm.trans hk)]
  exact h

/-! ## Connections that close -/

/-- The outline enters the stage that the connection enters. -/
theorem outline_enter (k : Link) (s : Stage) :
    Link.outline { k with connection := k.connection.enter s } = k.outline.enter s := by
  by_cases h : k.connection.stage.isFinal <;>
    simp [Link.outline, Connection.enter, LinkOutline.enter, h]

/-- The outline is closed with the connection. -/
theorem outline_close (k : Link) :
    Link.outline { k with connection := k.connection.close } = k.outline.close :=
  congrArg (fun o : LinkOutline => { o with isClosed := true }) (outline_enter k .closed)

/-- The outline is cancelled with the connection. -/
theorem outline_cancel (k : Link) :
    Link.outline { k with connection := k.connection.cancel } = k.outline.cancel := rfl

/-- The outline is revoked with the connection. -/
theorem outline_revoke (k : Link) :
    Link.outline { k with connection := k.connection.revoke } = k.outline.revoke :=
  congrArg (fun o : LinkOutline => { o with isClosed := true, isRevoked := true })
    (outline_enter k .revoked)

/-- Closing a connection of the controller closes it in the outline. -/
@[simp] theorem outline_modifyConnection_close (c : Controller) (l : LinkId) :
    (c.modifyConnection l Connection.close).outline = c.outline.updateLink l .close :=
  outline_modifyLink fun k _ => outline_close k

/-- A stage that a connection of the controller enters is entered in the outline. -/
@[simp] theorem outline_modifyConnection_enter (c : Controller) (l : LinkId) (s : Stage) :
    (c.modifyConnection l fun k => k.enter s).outline = c.outline.updateLink l (.enter s) :=
  outline_modifyLink fun k _ => outline_enter k s

/-- What a session learns about its switch is learnt in the outline. -/
theorem outline_modifySession_learn (c : Controller) (l : LinkId)
    (f : Descriptions → Descriptions) :
    (c.modifySession l fun s => { s with descriptions := f s.descriptions }).outline =
      c.outline.updateLink l (.learn f) :=
  outline_modifyLink fun _ _ => rfl

/-- A change of the ports of a datapath is one of its outline. -/
theorem outline_modifyDatapath_ports (c : Controller) (m : LinkId) (f : PortTable → PortTable) :
    (c.modifyDatapath m fun dp => { dp with ports := f dp.ports }).outline =
      c.outline.updateDatapath m (.updatePorts f) :=
  outline_modifyDatapath fun _ _ => rfl

/-- A session that serves a datapath does so in the outline. -/
theorem outline_modifySession_serve (c : Controller) (l main : LinkId) :
    (c.modifySession l fun s => { s with datapath := some main }).outline =
      c.outline.updateLink l (.serve main) :=
  outline_modifyLink fun _ _ => rfl

/-- Closing several connections closes them in the outline. -/
@[simp] theorem outline_closeLinks (c : Controller) (ls : List LinkId) :
    (c.closeLinks ls).outline = c.outline.closeLinks ls := by
  induction ls generalizing c with
  | nil => rfl
  | cons l ls ih =>
    refine (ih (c.modifyConnection l Connection.close)).trans ?_
    rw [outline_modifyConnection_close]
    rfl

/-! ## What does not show -/

/-- A connection in whose place there is one that looks the same. -/
theorem outline_setConnection {k k' : Connection} (hk : c.connection? l = some k)
    (h : ∀ s, Link.outline ⟨k', s⟩ = Link.outline ⟨k, s⟩) :
    (c.modifyConnection l fun _ => k').outline = c.outline := by
  refine outline_modifyLink_same fun j hj => ?_
  obtain rfl : j.connection = k := Option.some.inj ((congrArg _ hj).symm.trans hk)
  exact h j.session

/-- Drawing transaction ids leaves the outline alone. -/
@[simp] theorem outline_drawXids (c : Controller) (ms : List Message) :
    (c.drawXids ms).1.outline = c.outline := by
  induction ms generalizing c with
  | nil => rfl
  | cons m ms ih => exact ih c.drawXid.1

@[simp] theorem outline_xidFor (c : Controller) (x : Option Xid) :
    (c.xidFor x).1.outline = c.outline := by
  cases x <;> rfl

/-- So does counting what is written. -/
@[simp] theorem outline_countWrite (c : Controller) (m : Message) :
    (c.countWrite m).outline = c.outline := by
  cases m <;> rfl

/-- A frame is taken by a connection without fault, and goes to the end of its queue. -/
theorem sendFrame_eq_ok {k k' : Connection} {frame : Bytes} (h : k.sendFrame frame = .ok k') :
    k.fault? = none ∧
      k' = { k with queue := k.queue ++ [frame], framesSent := k.framesSent + 1 } := by
  unfold Connection.sendFrame at h
  split at h
  · cases h
  · next hfault => exact ⟨hfault, (Except.ok.inj h).symm⟩

/-- A frame that can be written is put behind those in the queue. -/
theorem writeFrame_eq_ok {frame : Bytes} (h : c.writeFrame l frame = .ok c') :
    ∃ k, c.connection? l = some k ∧ k.fault? = none ∧ c' = c.modifyConnection l fun _ =>
      { k with queue := k.queue ++ [frame], framesSent := k.framesSent + 1 } := by
  unfold writeFrame at h
  split at h
  · cases h
  · next k hk =>
    cases hsent : k.sendFrame frame with
    | error e =>
      rw [hsent] at h
      cases h
    | ok k' =>
      rw [hsent] at h
      obtain ⟨hfault, rfl⟩ := sendFrame_eq_ok hsent
      exact ⟨k, hk, hfault, (Except.ok.inj h).symm⟩

/-- A message that can be written is encoded for the version of the connection. -/
theorem write_eq_ok {x : Xid} {message : Message} (h : c.write l x message = .ok c') :
    ∃ k frame, c.connection? l = some k ∧ k.fault? = none ∧
      Codec.encode k.version x message = .ok frame ∧
      c' = (c.modifyConnection l fun _ => { k with
        queue := k.queue ++ [frame], framesSent := k.framesSent + 1 }).countWrite message := by
  -- a write succeeds in one way only: the connection is there, the message is encoded, the frame
  -- accepted
  unfold write at h
  split at h
  · cases h
  · next k hk =>
    cases hsent : k.send Codec.encode x message with
    | error e =>
      rw [hsent] at h
      cases h
    | ok k' =>
      rw [hsent] at h
      unfold Connection.send at hsent
      split at hsent
      · cases hsent
      · next frame hframe =>
        obtain ⟨hfault, rfl⟩ := sendFrame_eq_ok hsent
        exact ⟨k, frame, hk, hfault, hframe, (Except.ok.inj h).symm⟩

/-- The outline does not show the queues. -/
theorem outline_writeFrame {frame : Bytes} (h : c.writeFrame l frame = .ok c') :
    c'.outline = c.outline := by
  obtain ⟨k, hk, -, rfl⟩ := writeFrame_eq_ok h
  exact outline_setConnection hk fun _ => rfl

/-- A message that is written does not show in the outline. -/
theorem outline_write {x : Xid} {m : Message} (h : c.write l x m = .ok c') :
    c'.outline = c.outline := by
  obtain ⟨k, frame, hk, -, -, rfl⟩ := write_eq_ok h
  rw [outline_countWrite]
  exact outline_setConnection hk fun _ => rfl

/-- Neither do several. -/
@[simp] theorem outline_writeAll (c : Controller) (l : LinkId) (ms : List (Xid × Message)) :
    (c.writeAll l ms).1.outline = c.outline := by
  induction ms generalizing c with
  | nil => rfl
  | cons m ms ih =>
    unfold writeAll
    split
    · rfl
    · next h => exact (ih _).trans (outline_write h)

/-- The outline does not show requests. -/
@[simp] theorem outline_track {α : Type} (c : Controller) (dp : Datapath)
    (f : Tracker → Tracker × α) : (c.track dp f).1.outline = c.outline :=
  outline_modifyDatapath_same fun _ _ => rfl

/-- What is done behind a check leaves the outline alone if it does so whenever it is done. -/
@[simp] theorem outline_andThen {α β : Type} (c : Controller) (checked : Except Failure α)
    {next : α → Controller × Except Failure β} (h : ∀ a, (next a).1.outline = c.outline) :
    (c.andThen checked next).1.outline = c.outline := by
  cases checked with
  | error e => rfl
  | ok a => exact h a

/-- A message that is only sent leaves the outline alone. -/
@[simp] theorem outline_send_plain (c : Controller) (d : DatapathId) (auxiliary : UInt8)
    (m : Message) : (c.send d auxiliary m).1.outline = c.outline :=
  outline_andThen c _ fun _ => outline_writeAll _ _ _

/-- A request that is made leaves the outline alone. -/
@[simp] theorem outline_issue (c : Controller) (dp : Datapath) (type : MessageType)
    (claim : Ticket → Claim) (frames : List (Xid × Message)) :
    (c.issue dp type claim frames).1.outline = c.outline := by
  simp only [issue]
  -- registered or not, written or not: none of it shows in the outline
  split
  · next h => exact (congrArg (outline ·.1) h).symm.trans (outline_track _ _ _)
  · next h =>
    have htracked := (congrArg (outline ·.1) h).symm.trans (outline_track _ _ _)
    split
    · next hw =>
      have hwritten := (congrArg (outline ·.1) hw).symm.trans (outline_writeAll _ _ _)
      exact hwritten.trans htracked
    · next c' e hw =>
      have hwritten := (congrArg (outline ·.1) hw).symm.trans (outline_writeAll _ _ _)
      split
      · exact hwritten.trans htracked
      · next dp' _ =>
        have hremoved := outline_track c' dp' fun t => t.remove (claim 0).xid
        exact hremoved.trans (hwritten.trans htracked)

@[simp] theorem outline_sendRequest (c : Controller) (d : DatapathId) (o : Outbound) :
    (c.sendRequest d o).1.outline = c.outline :=
  outline_andThen c _ fun _ => outline_andThen c _ fun _ =>
    (outline_issue _ _ _ _ _).trans (outline_xidFor c _)

@[simp] theorem outline_sendWithBarrier (c : Controller) (d : DatapathId) (o : Outbound)
    (barrier : Option Xid) : (c.sendWithBarrier d o barrier).1.outline = c.outline :=
  outline_andThen c _ fun _ => outline_andThen c _ fun _ => outline_andThen c _ fun _ =>
    (outline_issue _ _ _ _ _).trans ((outline_xidFor _ _).trans (outline_xidFor c _))

@[simp] theorem outline_sendWithCompanion (c : Controller) (d : DatapathId)
    (o companion : Outbound) : (c.sendWithCompanion d o companion).1.outline = c.outline := by
  unfold sendWithCompanion
  split
  · rfl
  · split
    · rfl
    · exact outline_sendWithBarrier c d o _

/-- A batch leaves the outline alone, whichever datapath it goes to. -/
@[simp] theorem outline_sendBatchOn (c : Controller) (dp : Datapath) (ms : List Message) :
    (c.sendBatchOn dp ms).1.outline = c.outline := by
  cases ms with
  | nil => rfl
  | cons first more =>
    refine outline_andThen c _ fun _ => ?_
    have hdrawn := outline_drawXids c (first :: more)
    dsimp only
    split
    · exact hdrawn
    · exact (outline_issue _ _ _ _ _).trans hdrawn

@[simp] theorem outline_sendBatch (c : Controller) (d : DatapathId) (ms : List Message) :
    (c.sendBatch d ms).1.outline = c.outline :=
  outline_andThen c _ fun dp => outline_sendBatchOn c dp ms

@[simp] theorem outline_enablePort (c : Controller) (d : DatapathId) (n : PortNumber)
    (enable : Bool) : (c.enablePort d n enable).1.outline = c.outline := by
  refine outline_andThen c _ fun dp => ?_
  split
  · rfl
  · exact outline_sendWithBarrier c d _ none

/-- What leaves the outline alone once does so again and again. -/
private theorem outline_foldl {α : Type} {f : Controller → α → Controller}
    (hf : ∀ c a, (f c a).outline = c.outline) (as : List α) (c : Controller) :
    (as.foldl f c).outline = c.outline := by
  induction as generalizing c with
  | nil => rfl
  | cons a as ih => exact (ih (f c a)).trans (hf c a)

/-- A sweep over the requests leaves the outline alone. -/
@[simp] theorem outline_pruneRequests (c : Controller) : c.pruneRequests.outline = c.outline := by
  refine outline_foldl (fun c m => ?_) c.registry c
  dsimp only
  split
  · rfl
  · exact outline_track _ _ _

end Controller

end Southbound
