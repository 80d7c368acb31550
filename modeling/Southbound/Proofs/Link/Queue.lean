import Mathlib.Data.List.Induction
import Southbound.Proofs.Controller.Abstraction

/-!
# Frames on their way to the writer

A connection is sent to, closed and revoked in any order, while its writer takes frames from the
queue at its own pace and may be gone at any time. What the connection has become then follows from
what was done to it (`account_run`): no frame is lost as long as there is a writer, the queue holds
one frame more than its capacity at most, sending fails for no other reason than those that were
given, and a connection that was closed or revoked stays as it was then.

Of the history only four things count for the condition of the connection (`Condition`): whether it
was closed, whether it was revoked, whether its writer went, and which final stage it entered first.
Everything else is what goes through the queue (`Books`).
-/

namespace Southbound

/-- The stage itself, if it is final. -/
def Stage.final? (s : Stage) : Option Stage := if s.isFinal then some s else none

/-- A final stage is the stage itself. -/
private theorem Stage.eq_of_final? {s s' : Stage} (h : s.final? = some s') : s = s' := by
  unfold final? at h
  split at h
  · exact Option.some.inj h
  · cases h

/-- And it is final. -/
private theorem Stage.isFinal_of_final? {s s' : Stage} (h : s.final? = some s') :
    s.isFinal = true := by
  unfold final? at h
  split at h
  · assumption
  · cases h

namespace Connection

/-- What is done to a connection. -/
inductive Operation where
  | send (xid : Xid) (m : Message)
  | sendFrame (frame : Bytes)
  /-- The writer takes a frame. -/
  | receive
  | close
  | revoke
  /-- The writer goes. -/
  | orphan
  | enter (s : Stage)
  | negotiate (v : Version)
  | bind (d : DatapathId) (auxiliary : UInt8)
  /-- The peer is heard from or checked on. -/
  | watch (l : Liveness)

/-- A connection with what has gone through it. -/
structure Traffic where
  connection : Connection
  /-- What was encoded for each frame that was accepted, in the order of acceptance. -/
  sent : List (Except WireError Bytes) := []
  /-- The frames that the writer has taken. -/
  received : List Bytes := []

namespace Traffic

variable (encode : Encoder)

/-- The connection is in a new condition; nothing has gone through it. -/
def set (t : Traffic) (k : Connection) : Traffic := { t with connection := k }

def perform (t : Traffic) : Operation → Traffic
  | .send xid m =>
    match t.connection.send encode xid m with
    | .ok k => { t.set k with sent := t.sent ++ [encode t.connection.version xid m] }
    | .error _ => t
  | .sendFrame frame =>
    match t.connection.sendFrame frame with
    | .ok k => { t.set k with sent := t.sent ++ [.ok frame] }
    | .error _ => t
  | .receive =>
    let (k, frame) := t.connection.receive
    { t.set k with received := t.received ++ frame.toList }
  | .close => t.set t.connection.close
  | .revoke => t.set t.connection.revoke
  | .orphan => t.set t.connection.orphan
  | .enter s => t.set (t.connection.enter s)
  | .negotiate v => t.set { t.connection with version := v }
  | .bind d auxiliary => t.set (t.connection.bind d auxiliary)
  | .watch l => t.set { t.connection with liveness := l }

/-- A new connection, after what was done to it. -/
def run (remote : String) (capacity now : Nat) (ops : List Operation) : Traffic :=
  ops.foldl (perform encode) { connection := .new remote capacity now }

/-- The last operation is done behind the others. -/
private theorem run_concat (remote : String) (capacity now : Nat) (ops : List Operation)
    (op : Operation) :
    run encode remote capacity now (ops ++ [op]) =
      (run encode remote capacity now ops).perform encode op := by
  simp [run]

end Traffic

/-! ## The condition of a connection -/

namespace Operation

def closes : Operation → Bool
  | .close | .revoke => true
  | _ => false

def revokes : Operation → Bool
  | .revoke => true
  | _ => false

def orphans : Operation → Bool
  | .orphan => true
  | _ => false

/-- The final stage that the operation enters, unless there is one already. -/
def final? : Operation → Option Stage
  | .close => some .closed
  | .revoke => some .revoked
  | .enter s => s.final?
  | _ => none

end Operation

/-- How a connection is after a number of operations. -/
structure Condition (capacity : Nat) (ops : List Operation) (k : Connection) : Prop where
  capacity : k.capacity = capacity
  isClosed : k.isClosed = ops.any Operation.closes
  isRevoked : k.isRevoked = ops.any Operation.revokes
  isOrphaned : k.isOrphaned = ops.any Operation.orphans
  /-- The first final stage counts. -/
  final? : k.stage.final? = ops.findSome? Operation.final?

/-- To enter a stage changes nothing but the stage. -/
theorem exists_enter (k : Connection) (s : Stage) : ∃ s', k.enter s = { k with stage := s' } ∧
    s'.final? = k.stage.final?.or s.final? := by
  cases hfinal : k.stage.isFinal with
  | true => exact ⟨k.stage, by simp [enter, hfinal], by simp [Stage.final?, hfinal]⟩
  | false => exact ⟨s, by simp [enter, hfinal], by simp [Stage.final?, hfinal]⟩

variable {encode : Encoder} {remote : String} {capacity now : Nat} {ops : List Operation}
  {op : Operation} {k k' : Connection} {t : Traffic}

/-- An operation adds to the history what it is. -/
private theorem Condition.step (h : Condition capacity ops k) (hcapacity : k'.capacity = k.capacity)
    (hclosed : k'.isClosed = (k.isClosed || op.closes))
    (hrevoked : k'.isRevoked = (k.isRevoked || op.revokes))
    (horphaned : k'.isOrphaned = (k.isOrphaned || op.orphans))
    (hfinal : k'.stage.final? = k.stage.final?.or op.final?) :
    Condition capacity (ops ++ [op]) k' where
  capacity := hcapacity.trans h.capacity
  isClosed := by rw [hclosed, h.isClosed, List.any_append, List.any_cons, List.any_nil,
    Bool.or_false]
  isRevoked := by rw [hrevoked, h.isRevoked, List.any_append, List.any_cons, List.any_nil,
    Bool.or_false]
  isOrphaned := by rw [horphaned, h.isOrphaned, List.any_append, List.any_cons, List.any_nil,
    Bool.or_false]
  final? := by rw [hfinal, h.final?, List.findSome?_append, List.findSome?_singleton]

/-- What neither closes the connection nor takes its writer leaves it as it is. -/
theorem Condition.keep (h : Condition capacity ops k) (hop : op.final? = none)
    (hclosed : op.closes = false) (horphans : op.orphans = false)
    (hk : k' = { k' with
      capacity := k.capacity, isClosed := k.isClosed, isRevoked := k.isRevoked,
      isOrphaned := k.isOrphaned, stage := k.stage }) : Condition capacity (ops ++ [op]) k' := by
  have hrevoked : op.revokes = false := by
    cases op <;> first | rfl | cases hclosed
  refine h.step ?_ ?_ ?_ ?_ ?_
  · rw [hk]
  · rw [hk, hclosed, Bool.or_false]
  · rw [hk, hrevoked, Bool.or_false]
  · rw [hk, horphans, Bool.or_false]
  · rw [hk, hop, Option.or_none]

/-! ## What sending needs -/

/-- Sending needs an open connection, a writer and room. -/
private theorem fault?_eq_none : k.fault? = none ↔
    k.isClosed = false ∧ k.isOrphaned = false ∧ k.queue.length ≤ k.capacity := by
  unfold fault?
  cases k.isClosed <;> cases k.isOrphaned <;> simp

/-- A message is sent as its frame. -/
private theorem send_eq_ok {xid : Xid} {m : Message} (h : k.send encode xid m = .ok k') :
    ∃ frame, encode k.version xid m = .ok frame ∧ k.sendFrame frame = .ok k' := by
  unfold send at h
  split at h
  · cases h
  · next frame hframe => exact ⟨frame, hframe, h⟩

/-- Sending fails if the message cannot be encoded or no frame can be queued. -/
theorem send_eq_error_iff {xid : Xid} {m : Message} :
    (∃ e, k.send encode xid m = .error e) ↔
      (∃ e, encode k.version xid m = .error e) ∨ k.fault? ≠ none := by
  unfold send sendFrame
  cases encode k.version xid m with
  | error e => simp
  | ok frame => cases k.fault? <;> simp

/-- A frame is accepted. -/
def Traffic.accept (t : Traffic) (frame : Bytes) : Traffic :=
  { t with
    connection := { t.connection with
      queue := t.connection.queue ++ [frame], framesSent := t.connection.framesSent + 1 }
    sent := t.sent ++ [.ok frame] }

namespace Traffic

/-- A message that is sent is refused, and then nothing changes, or its frame is accepted. -/
theorem perform_send (t : Traffic) (xid : Xid) (m : Message) :
    t.perform encode (.send xid m) = t ∨
      t.connection.fault? = none ∧ ∃ frame, t.perform encode (.send xid m) = t.accept frame := by
  simp only [perform]
  split
  · next k hsend =>
    obtain ⟨frame, hframe, hsent⟩ := send_eq_ok hsend
    obtain ⟨hfault, rfl⟩ := Controller.sendFrame_eq_ok hsent
    exact .inr ⟨hfault, frame, by rw [hframe]; rfl⟩
  · exact .inl rfl

/-- A frame is accepted by a connection without fault, and nothing happens otherwise. -/
private theorem perform_sendFrame (t : Traffic) (frame : Bytes) :
    t.perform encode (.sendFrame frame) = t ∨
      t.connection.fault? = none ∧ t.perform encode (.sendFrame frame) = t.accept frame := by
  simp only [perform]
  split
  · next k hsent =>
    obtain ⟨hfault, rfl⟩ := Controller.sendFrame_eq_ok hsent
    exact .inr ⟨hfault, rfl⟩
  · exact .inl rfl

/-- The writer takes the oldest frame, if there is one. -/
theorem perform_receive (t : Traffic) :
    t.connection.queue = [] ∧ t.perform encode .receive = t ∨
      ∃ frame more, t.connection.queue = frame :: more ∧ t.perform encode .receive =
        { t.set { t.connection with queue := more } with received := t.received ++ [frame] } := by
  cases hqueue : t.connection.queue with
  | nil => exact .inl ⟨rfl, by simp [perform, receive, hqueue, set]⟩
  | cons frame more => exact .inr ⟨frame, more, rfl, by simp [perform, receive, hqueue]⟩

end Traffic

/-- Every operation has the effect on the condition that it is said to have. -/
private theorem Condition.perform (h : Condition capacity ops t.connection) (op : Operation) :
    Condition capacity (ops ++ [op]) (t.perform encode op).connection := by
  -- sending and receiving leave the condition alone; the others move stage and flags one way
  cases op with
  | send xid m =>
    rcases t.perform_send xid m with heq | ⟨-, frame, heq⟩ <;> rw [heq] <;>
      exact h.keep rfl rfl rfl rfl
  | sendFrame frame =>
    rcases t.perform_sendFrame frame with heq | ⟨-, heq⟩ <;> rw [heq] <;>
      exact h.keep rfl rfl rfl rfl
  | receive =>
    rcases t.perform_receive with ⟨-, heq⟩ | ⟨frame, more, -, heq⟩ <;> rw [heq] <;>
      exact h.keep rfl rfl rfl rfl
  | negotiate v | bind d auxiliary | watch l => exact h.keep rfl rfl rfl rfl
  | close =>
    obtain ⟨s, hs, hfinal⟩ := exists_enter t.connection .closed
    rw [Traffic.perform, Traffic.set, close, hs]
    exact h.step rfl (Bool.or_true _).symm (Bool.or_false _).symm (Bool.or_false _).symm hfinal
  | revoke =>
    obtain ⟨s, hs, hfinal⟩ := exists_enter t.connection .revoked
    rw [Traffic.perform, Traffic.set, revoke, hs]
    exact h.step rfl (Bool.or_true _).symm (Bool.or_true _).symm (Bool.or_false _).symm hfinal
  | orphan =>
    exact h.step rfl (Bool.or_false _).symm (Bool.or_false _).symm (Bool.or_true _).symm
      Option.or_none.symm
  | enter s =>
    obtain ⟨s', hs, hfinal⟩ := exists_enter t.connection s
    rw [Traffic.perform, Traffic.set, hs]
    exact h.step rfl (Bool.or_false _).symm (Bool.or_false _).symm (Bool.or_false _).symm hfinal

/-! ## What goes through the queue -/

/-- What has been accepted is with the writer, or on its way, or was lost with the writer. -/
structure Books (t : Traffic) : Prop where
  sent : ∃ lost, t.sent = (t.received ++ t.connection.queue ++ lost).map .ok ∧
    (t.connection.isOrphaned = false → lost = [])
  framesSent : t.connection.framesSent = t.sent.length
  length_le : t.connection.queue.length ≤ t.connection.capacity + 1

/-- Nothing is sent or taken, and the writer does not go. -/
theorem Books.set (h : Books t) (hqueue : k.queue = t.connection.queue)
    (hcapacity : k.capacity = t.connection.capacity)
    (hsent : k.framesSent = t.connection.framesSent)
    (horphaned : k.isOrphaned = t.connection.isOrphaned) : Books (t.set k) where
  sent := by
    obtain ⟨lost, hlost, hnone⟩ := h.sent
    refine ⟨lost, ?_, fun hwriter => hnone (horphaned ▸ hwriter)⟩
    rw [Traffic.set, hqueue]
    exact hlost
  framesSent := hsent.trans h.framesSent
  length_le := by
    rw [Traffic.set, hqueue, hcapacity]
    exact h.length_le

/-- An accepted frame is on its way. -/
private theorem Books.accept (h : Books t) (hfault : t.connection.fault? = none) (frame : Bytes) :
    Books (t.accept frame) := by
  obtain ⟨-, hwriter, hroom⟩ := fault?_eq_none.1 hfault
  obtain ⟨lost, hlost, hnone⟩ := h.sent
  obtain rfl := hnone hwriter
  refine ⟨⟨[], ?_, fun _ => rfl⟩, ?_, ?_⟩
  · simp [Traffic.accept, hlost]
  · simp [Traffic.accept, h.framesSent]
  · simpa [Traffic.accept] using hroom

/-- No operation loses a frame while there is a writer. -/
private theorem Books.perform (h : Books t) (op : Operation) : Books (t.perform encode op) := by
  -- only an accepted frame, a received one and the loss of the writer show in the books
  cases op with
  | send xid m =>
    rcases t.perform_send xid m with heq | ⟨hfault, frame, heq⟩ <;> rw [heq]
    · exact h
    · exact h.accept hfault frame
  | sendFrame frame =>
    rcases t.perform_sendFrame frame with heq | ⟨hfault, heq⟩ <;> rw [heq]
    · exact h
    · exact h.accept hfault frame
  | receive =>
    rcases t.perform_receive with ⟨-, heq⟩ | ⟨frame, more, hqueue, heq⟩ <;> rw [heq]
    · exact h
    · obtain ⟨lost, hlost, hnone⟩ := h.sent
      have hroom := h.length_le
      rw [hqueue] at hlost hroom
      exact ⟨⟨lost, by simpa [Traffic.set] using hlost, hnone⟩, h.framesSent,
        Nat.le_of_succ_le hroom⟩
  | negotiate v | bind d auxiliary | watch l => exact h.set rfl rfl rfl rfl
  | close =>
    obtain ⟨s, hs, -⟩ := exists_enter t.connection .closed
    rw [Traffic.perform, close, hs]
    exact h.set rfl rfl rfl rfl
  | revoke =>
    obtain ⟨s, hs, -⟩ := exists_enter t.connection .revoked
    rw [Traffic.perform, revoke, hs]
    exact h.set rfl rfl rfl rfl
  | enter s =>
    obtain ⟨s', hs, -⟩ := exists_enter t.connection s
    rw [Traffic.perform, hs]
    exact h.set rfl rfl rfl rfl
  | orphan =>
    obtain ⟨lost, hlost, -⟩ := h.sent
    refine ⟨⟨t.connection.queue ++ lost, ?_, nofun⟩, h.framesSent, Nat.zero_le _⟩
    simpa [Traffic.perform, Traffic.set, orphan] using hlost

/-! ## All operations -/

/-- By induction on the operations, the condition is what the history says. -/
private theorem condition_run (ops : List Operation) :
    Condition capacity ops (Traffic.run encode remote capacity now ops).connection := by
  induction ops using List.reverseRecOn with
  | nil => exact ⟨rfl, rfl, rfl, rfl, rfl⟩
  | append_singleton ops op ih =>
    rw [Traffic.run_concat]
    exact ih.perform op

/-- So is what has gone through the queue. -/
private theorem books_run (ops : List Operation) :
    Books (Traffic.run encode remote capacity now ops) := by
  induction ops using List.reverseRecOn with
  | nil => exact ⟨⟨[], rfl, fun _ => rfl⟩, rfl, Nat.zero_le _⟩
  | append_singleton ops op ih =>
    rw [Traffic.run_concat]
    exact ih.perform op

/-- A connection is closed by closing or revoking it. -/
private theorem any_closes : ops.any Operation.closes = true ↔ .close ∈ ops ∨ .revoke ∈ ops := by
  rw [List.any_eq_true]
  refine ⟨?_, fun h => h.elim (⟨_, ·, rfl⟩) (⟨_, ·, rfl⟩)⟩
  rintro ⟨op, hop, hcloses⟩
  cases op with
  | close => exact .inl hop
  | revoke => exact .inr hop
  | _ => cases hcloses

/-- It is revoked by revoking it. -/
private theorem any_revokes : ops.any Operation.revokes = true ↔ .revoke ∈ ops := by
  rw [List.any_eq_true]
  refine ⟨?_, (⟨_, ·, rfl⟩)⟩
  rintro ⟨op, hop, hrevokes⟩
  cases op with
  | revoke => exact hop
  | _ => cases hrevokes

/-- It has no writer when that has gone. -/
private theorem any_orphans : ops.any Operation.orphans = true ↔ .orphan ∈ ops := by
  rw [List.any_eq_true]
  refine ⟨?_, (⟨_, ·, rfl⟩)⟩
  rintro ⟨op, hop, horphans⟩
  cases op with
  | orphan => exact hop
  | _ => cases horphans

/-- So whether it is closed is said by the history. -/
private theorem Condition.isClosed_iff (h : Condition capacity ops k) :
    k.isClosed = true ↔ .close ∈ ops ∨ .revoke ∈ ops := by
  rw [h.isClosed, any_closes]

/-- So is whether it has a writer. -/
private theorem Condition.isOrphaned_iff (h : Condition capacity ops k) :
    k.isOrphaned = true ↔ .orphan ∈ ops := by
  rw [h.isOrphaned, any_orphans]

/-- Why no frame can be queued. -/
theorem Condition.fault?_ne_none (h : Condition capacity ops k)
    (hroom : k.queue.length ≤ capacity + 1) :
    k.fault? ≠ none ↔
      .close ∈ ops ∨ .revoke ∈ ops ∨ k.queue.length = capacity + 1 ∨ .orphan ∈ ops := by
  have hfull : ¬k.queue.length ≤ capacity ↔ k.queue.length = capacity + 1 := by omega
  rw [Ne, fault?_eq_none, h.capacity, ← or_assoc, ← h.isClosed_iff, ← h.isOrphaned_iff, ← hfull]
  cases k.isClosed <;> cases k.isOrphaned <;> simp

/-- An operation that closes the connection leaves a final stage, and what follows does not change
it. -/
theorem Condition.stage_lasts {pre post : List Operation}
    (h : Condition capacity (pre ++ op :: post) k) (hthen : Condition capacity (pre ++ [op]) k')
    {s : Stage} (hop : op.final? = some s) : k.stage.isFinal = true ∧ k.stage = k'.stage := by
  obtain ⟨s', hs'⟩ : ∃ s', (pre ++ [op]).findSome? Operation.final? = some s' := by
    rw [List.findSome?_append, List.findSome?_singleton, hop]
    cases pre.findSome? Operation.final? with
    | none => exact ⟨s, rfl⟩
    | some s' => exact ⟨s', rfl⟩
  -- neither before nor after the rest is there another stage that came first
  have hfirst : (pre ++ op :: post).findSome? Operation.final? = some s' := by
    rw [← hs', List.findSome?_append, List.findSome?_append, List.findSome?_cons,
      List.findSome?_singleton, hop]
  have hnow := h.final?.trans hfirst
  have hthen := hthen.final?.trans hs'
  exact ⟨Stage.isFinal_of_final? hnow, (Stage.eq_of_final? hnow).trans
    (Stage.eq_of_final? hthen).symm⟩

/-- What a connection is after what was done to it. -/
structure Account (encode : Encoder) (remote : String) (capacity now : Nat) (ops : List Operation)
    (t : Traffic) : Prop where
  /-- While there is a writer, what was accepted is with it or in the queue. -/
  delivers : .orphan ∉ ops → (t.received ++ t.connection.queue).map .ok = t.sent
  /-- In any case the writer has been given what was accepted first. -/
  received : t.received.map .ok <+: t.sent
  framesSent : t.connection.framesSent = t.sent.length
  length_le : t.connection.queue.length ≤ capacity + 1
  fails : ∀ xid m, (∃ e, t.connection.send encode xid m = .error e) ↔
    (∃ e, encode t.connection.version xid m = .error e) ∨ .close ∈ ops ∨ .revoke ∈ ops ∨
      t.connection.queue.length = capacity + 1 ∨ .orphan ∈ ops
  unchanged : ∀ xid m e, t.connection.send encode xid m = .error e →
    t.perform encode (.send xid m) = t
  /-- The stage in which the connection was left when it was closed or revoked stays. -/
  lasting : ∀ pre op post, ops = pre ++ op :: post → op = .close ∨ op = .revoke →
    t.connection.stage.isFinal = true ∧
      t.connection.stage = (Traffic.run encode remote capacity now (pre ++ [op])).connection.stage
  /-- It is the one that was entered first. -/
  stage : ∀ s, ops.findSome? Operation.final? = some s → t.connection.stage = s
  isRevoked : t.connection.isRevoked = true ↔ .revoke ∈ ops

/-- Every connection, whatever is done to it. -/
theorem account_run (encode : Encoder) (remote : String) (capacity now : Nat)
    (ops : List Operation) :
    Account encode remote capacity now ops (Traffic.run encode remote capacity now ops) := by
  have hcondition : Condition capacity ops
      (Traffic.run encode remote capacity now ops).connection := condition_run ops
  have hbooks : Books (Traffic.run encode remote capacity now ops) := books_run ops
  -- a final stage lasts, whatever comes after the operation that brought it
  have hlasting : ∀ pre op post, ops = pre ++ op :: post → op = .close ∨ op = .revoke →
      (Traffic.run encode remote capacity now ops).connection.stage.isFinal = true ∧
        (Traffic.run encode remote capacity now ops).connection.stage =
          (Traffic.run encode remote capacity now (pre ++ [op])).connection.stage := by
    rintro pre op post rfl hop
    obtain ⟨s, hs⟩ : ∃ s, op.final? = some s := by
      rcases hop with rfl | rfl
      · exact ⟨.closed, rfl⟩
      · exact ⟨.revoked, rfl⟩
    exact hcondition.stage_lasts (condition_run (pre ++ [op])) hs
  generalize Traffic.run encode remote capacity now ops = t at hcondition hbooks hlasting ⊢
  obtain ⟨lost, hlost, hnone⟩ := hbooks.sent
  have hroom := hcondition.capacity ▸ hbooks.length_le
  refine ⟨fun horphan => ?_, ?_, hbooks.framesSent, hroom, fun xid m => ?_,
    fun xid m e hsend => ?_, hlasting, fun s hs => ?_, ?_⟩
  · have hwriter := Bool.eq_false_iff.2 fun h => horphan (hcondition.isOrphaned_iff.1 h)
    rw [hlost, hnone hwriter, List.append_nil]
  · rw [hlost, List.append_assoc, List.map_append]
    exact List.prefix_append _ _
  · rw [send_eq_error_iff, hcondition.fault?_ne_none hroom]
  · simp only [Traffic.perform, hsend]
  · exact Stage.eq_of_final? (hcondition.final?.trans hs)
  · rw [hcondition.isRevoked, any_revokes]

end Connection

end Southbound
