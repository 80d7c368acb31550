import Mathlib.Data.List.DropRight
import Southbound.Dispatch.Listeners

/-!
# Who is registered

`Listeners.run` does any list of registrations and removals, successful or not. What the lists of
listeners then hold is said by the operations alone: `Stands k ops r` if `r` was registered and its
number was not removed since, `installed? ops` for the packet sequencer.

* `roster_run`     each list holds exactly the registrations that stand, in order
* `sequencer_run`  the sequencer is the first one installed since the last removal
* `numbers_run`    the numbers handed out are 1, 2, 3 and so on
* `owes_deliveries`  the calls for an event are those that the operations call for
-/

namespace Southbound

/-! ## The order of registrations -/

namespace Registration

variable {a b c : Registration}

/-- Registrations are ordered by priority, and then by number. -/
private theorem precedes_iff : a.precedes b = true ↔
    a.priority < b.priority ∨ (a.priority = b.priority ∧ a.id < b.id) := by
  simp [precedes]

/-- That is an order. -/
private theorem precedes_trans (hab : a.precedes b = true) (hbc : b.precedes c = true) :
    a.precedes c = true := by
  rw [precedes_iff] at *
  grind

/-- Of two registrations with different numbers one precedes the other. -/
theorem precedes_of_not (hne : a.id ≠ b.id) (h : ¬ a.precedes b = true) : b.precedes a = true := by
  rw [precedes_iff] at *
  grind

end Registration

/-- Message listeners must not ask for packets. -/
def Interest.asksForPackets : Interest → Bool
  | .all => false
  | .only types => types.contains .packetIn

namespace Listeners

/-- In ascending order of priority and then of registration, each registration once. -/
def InOrder (rs : List Registration) : Prop := rs.Pairwise fun a b => a.precedes b = true

/-- A registration is inserted, and none is lost. -/
private theorem mem_insert {r s : Registration} {rs : List Registration} :
    s ∈ insert r rs ↔ s = r ∨ s ∈ rs := by
  induction rs with
  | nil => simp [insert]
  | cons t rs ih =>
    unfold insert
    split
    · exact List.mem_cons
    · rw [List.mem_cons, List.mem_cons, ih, or_left_comm]

/-- It is inserted where it belongs. -/
private theorem InOrder.insert {r : Registration} {rs : List Registration} (h : InOrder rs)
    (hr : ∀ s ∈ rs, s.id ≠ r.id) : InOrder (insert r rs) := by
  induction rs with
  | nil => exact List.pairwise_singleton _ _
  | cons t rs ih =>
    obtain ⟨ht, hrs⟩ := List.pairwise_cons.1 h
    unfold Listeners.insert
    split
    · next hlt =>
      -- the new one comes first, before everything the head precedes
      refine List.pairwise_cons.2 ⟨?_, h⟩
      intro s hs
      rcases List.mem_cons.1 hs with rfl | hs
      · exact hlt
      · exact Registration.precedes_trans hlt (ht s hs)
    · next hlt =>
      have htr := Registration.precedes_of_not (hr t List.mem_cons_self).symm hlt
      have hinsert := ih hrs fun s hs => hr s (List.mem_cons_of_mem _ hs)
      refine List.pairwise_cons.2 ⟨?_, hinsert⟩
      intro s hs
      rcases mem_insert.1 hs with rfl | hs
      · exact htr
      · exact ht s hs

/-! ## Operations -/

/-- What is done to the listeners. -/
inductive Operation where
  | addMessage (l : Listener) (i : Interest) (priority : Int)
  | addDatapath (l : Listener) (priority : Int)
  | removeMessage (id : ListenerId)
  | removeDatapath (id : ListenerId)
  | setSequencer (l : Listener)
  | clearSequencer
deriving DecidableEq

/-- What comes of it. -/
inductive Answer where
  | registered (id : ListenerId)
  | installed
  /-- Was there anything to remove? -/
  | removed (found : Bool)
  | refused (f : Failure)
deriving DecidableEq

def apply (ls : Listeners) : Operation → Listeners × Answer
  | .addMessage l i priority =>
    match ls.addMessage l i priority with
    | .ok (ls', id) => (ls', .registered id)
    | .error f => (ls, .refused f)
  | .addDatapath l priority =>
    let (ls', id) := ls.addDatapath l priority
    (ls', .registered id)
  | .removeMessage id =>
    let (ls', found) := ls.removeMessage id
    (ls', .removed found)
  | .removeDatapath id =>
    let (ls', found) := ls.removeDatapath id
    (ls', .removed found)
  | .setSequencer l =>
    match ls.setSequencer l with
    | .ok ls' => (ls', .installed)
    | .error f => (ls, .refused f)
  | .clearSequencer =>
    let (ls', found) := ls.clearSequencer
    (ls', .removed found)

def run (ls : Listeners) (ops : List Operation) : Listeners :=
  ops.foldl (fun ls op => (ls.apply op).1) ls

/-- The answers to operations done one after the other. -/
def answers (ls : Listeners) : List Operation → List Answer
  | [] => []
  | op :: ops => (ls.apply op).2 :: (ls.apply op).1.answers ops

/-- Operations can be done in two parts. -/
private theorem run_append (ls : Listeners) (before after : List Operation) :
    ls.run (before ++ after) = (ls.run before).run after := List.foldl_append

/-- The number that an answer hands out. -/
def Answer.number? : Answer → Option ListenerId
  | registered id => some id
  | _ => none

/-! ## What the operations say -/

/-- The two kinds of listeners that are kept in a list. -/
inductive Audience where
  | message
  | datapath
deriving DecidableEq

def list (ls : Listeners) : Audience → List Registration
  | .message => ls.message
  | .datapath => ls.datapath

/-- The registration that an operation asks for, under the next number. -/
def Operation.entered? (id : ListenerId) : Audience → Operation → Option Registration
  | .message, .addMessage l i priority =>
    if i.asksForPackets then none else some ⟨id, priority, i, l⟩
  | .datapath, .addDatapath l priority => some ⟨id, priority, .all, l⟩
  | _, _ => none

/-- The operation that removes the listener with a number. -/
def Operation.removal (id : ListenerId) : Audience → Operation
  | .message => .removeMessage id
  | .datapath => .removeDatapath id

/-- Does an operation use up a number? -/
def Operation.isNumbered (op : Operation) : Bool :=
  (op.entered? 0 .message).isSome || (op.entered? 0 .datapath).isSome

/-- How many numbers have been handed out. -/
def numbered (ops : List Operation) : Nat := ops.countP Operation.isNumbered

/-- The registration was made and has not been removed since. -/
def Stands (k : Audience) (ops : List Operation) (r : Registration) : Prop :=
  ∃ before op after, ops = before ++ op :: after ∧
    op.entered? (numbered before + 1) k = some r ∧ Operation.removal r.id k ∉ after

/-- The listener that an operation is to install as the packet sequencer. -/
def Operation.sequencer? : Operation → Option Listener
  | setSequencer l => some l
  | _ => none

/-- The first packet sequencer that was to be installed since the last removal. -/
def installed? (ops : List Operation) : Option Listener :=
  (ops.rtakeWhile (· ≠ .clearSequencer)).findSome? Operation.sequencer?

/-! ## One operation -/

variable {ls : Listeners} {op : Operation} {ops : List Operation} {k : Audience}
  {r : Registration} {done : Listeners × Answer}

/-- Everything an operation can do. -/
inductive Does (ls : Listeners) : Operation → Listeners × Answer → Prop
  | packetsRefused {l : Listener} {i : Interest} {priority : Int} (h : i.asksForPackets = true) :
      Does ls (.addMessage l i priority) (ls, .refused (.invalidArgument .packetInListener))
  | messageAdded {l : Listener} {i : Interest} {priority : Int} (h : i.asksForPackets = false) :
      Does ls (.addMessage l i priority)
        ({ ls with
          message := insert ⟨ls.lastId + 1, priority, i, l⟩ ls.message, lastId := ls.lastId + 1 },
        .registered (ls.lastId + 1))
  | datapathAdded {l : Listener} {priority : Int} : Does ls (.addDatapath l priority)
      ({ ls with
        datapath := insert ⟨ls.lastId + 1, priority, .all, l⟩ ls.datapath
        lastId := ls.lastId + 1 }, .registered (ls.lastId + 1))
  | messageRemoved {id : ListenerId} {found : Bool} : Does ls (.removeMessage id)
      ({ ls with message := ls.message.filter (·.id ≠ id) }, .removed found)
  | datapathRemoved {id : ListenerId} {found : Bool} : Does ls (.removeDatapath id)
      ({ ls with datapath := ls.datapath.filter (·.id ≠ id) }, .removed found)
  | sequencerKept {l s : Listener} (h : ls.sequencer = some s) :
      Does ls (.setSequencer l) (ls, .refused .sequencerTaken)
  | sequencerSet {l : Listener} (h : ls.sequencer = none) :
      Does ls (.setSequencer l) ({ ls with sequencer := some l }, .installed)
  | sequencerCleared {found : Bool} :
      Does ls .clearSequencer ({ ls with sequencer := none }, .removed found)

/-- An operation does one of the things that there are. -/
theorem does_apply (ls : Listeners) (op : Operation) : ls.Does op (ls.apply op) := by
  cases op with
  | addMessage l i priority =>
    -- what is refused is settled by the interest alone
    have hadd : ls.addMessage l i priority =
        if i.asksForPackets then .error (.invalidArgument .packetInListener)
        else .ok ({ ls with
          message := insert ⟨ls.lastId + 1, priority, i, l⟩ ls.message
          lastId := ls.lastId + 1 }, ls.lastId + 1) := by
      cases i <;> rfl
    rw [apply, hadd]
    cases h : i.asksForPackets with
    | true => exact .packetsRefused h
    | false => exact .messageAdded h
  | setSequencer l =>
    rw [apply, setSequencer]
    cases h : ls.sequencer with
    | some s => exact .sequencerKept h
    | none => exact .sequencerSet h
  | addDatapath => exact .datapathAdded
  | removeMessage => exact .messageRemoved
  | removeDatapath => exact .datapathRemoved
  | clearSequencer => exact .sequencerCleared

/-- A number is used up if the operation needs one. -/
private theorem Does.lastId (h : ls.Does op done) :
    done.1.lastId = ls.lastId + if op.isNumbered then 1 else 0 := by
  cases h with
  | packetsRefused h | messageAdded h => simp [Operation.isNumbered, Operation.entered?, h]
  | _ => rfl

/-- It is handed out to whoever registered. -/
theorem Does.number? (h : ls.Does op done) :
    done.2.number? = if op.isNumbered then some (ls.lastId + 1) else none := by
  cases h with
  | packetsRefused h | messageAdded h =>
    simp [Operation.isNumbered, Operation.entered?, Answer.number?, h]
  | _ => rfl

/-- A registration is put in its place, and otherwise the one whose number is removed goes. -/
theorem Does.list (h : ls.Does op done) (k : Audience) :
    done.1.list k = match op.entered? (ls.lastId + 1) k with
      | some r => insert r (ls.list k)
      | none => (ls.list k).filter fun r => Operation.removal r.id k ≠ op := by
  cases h with
  | packetsRefused h | messageAdded h =>
    cases k <;> simp [Listeners.list, Operation.entered?, Operation.removal, h]
  | _ => cases k <;> simp [Listeners.list, Operation.entered?, Operation.removal]

/-- The sequencer is removed, or the first that is installed stays. -/
private theorem Does.sequencer (h : ls.Does op done) :
    done.1.sequencer =
      if op = .clearSequencer then none else ls.sequencer.or op.sequencer? := by
  cases h with
  | sequencerKept h | sequencerSet h => simp [Operation.sequencer?, h]
  | _ => simp [Operation.sequencer?]

/-- A refused operation changes nothing. -/
theorem Does.eq_of_refused {f : Failure} (h : ls.Does op done) (hf : done.2 = .refused f) :
    done.1 = ls := by
  cases h with
  | packetsRefused | sequencerKept => rfl
  | _ => cases hf

/-! ## Any number of operations -/

/-- Something in a list with one more at the end is that one, or was there before. -/
theorem concat_eq_append_cons {α : Type} {l before after : List α} {x y : α} :
    l ++ [x] = before ++ y :: after ↔
      (l = before ∧ x = y ∧ after = []) ∨
        ∃ after', l = before ++ y :: after' ∧ after = after' ++ [x] := by
  constructor
  · intro h
    rcases List.eq_nil_or_concat after with rfl | ⟨after', z, rfl⟩
    · obtain ⟨rfl, hxy⟩ := List.append_inj' h rfl
      exact .inl ⟨rfl, (List.cons.inj hxy).1, rfl⟩
    · rw [List.concat_eq_append, ← List.cons_append, ← List.append_assoc] at h
      obtain ⟨rfl, hxz⟩ := List.append_inj' h rfl
      obtain rfl := (List.cons.inj hxz).1
      exact .inr ⟨after', rfl, List.concat_eq_append⟩
  · rintro (⟨rfl, rfl, rfl⟩ | ⟨after', rfl, rfl⟩)
    · rfl
    · rw [List.append_assoc, List.cons_append]

/-- What stands after one more operation stood before and is not removed, or is what the operation
asks for. -/
theorem stands_append : Stands k (ops ++ [op]) r ↔
    (Stands k ops r ∧ Operation.removal r.id k ≠ op) ∨
      op.entered? (numbered ops + 1) k = some r := by
  constructor
  · rintro ⟨before, o, after, heq, hentered, hkept⟩
    rcases concat_eq_append_cons.1 heq with ⟨rfl, rfl, rfl⟩ | ⟨after', rfl, rfl⟩
    · exact .inr hentered
    · rw [List.mem_append, List.mem_singleton, not_or] at hkept
      exact .inl ⟨⟨before, o, after', rfl, hentered, hkept.1⟩, hkept.2⟩
  · rintro (⟨⟨before, o, after, rfl, hentered, hkept⟩, hne⟩ | hentered)
    · refine ⟨before, o, after ++ [op], by simp, hentered, ?_⟩
      rw [List.mem_append, List.mem_singleton, not_or]
      exact ⟨hkept, hne⟩
    · exact ⟨ops, op, [], rfl, hentered, List.not_mem_nil⟩

/-- A registration has the number that it was entered under. -/
private theorem id_of_entered? {id : ListenerId} (h : op.entered? id k = some r) : r.id = id := by
  unfold Operation.entered? at h
  split at h
  · split at h
    · cases h
    · exact Option.some.inj h ▸ rfl
  · exact Option.some.inj h ▸ rfl
  · cases h

/-- Whoever is entered uses up a number. -/
private theorem isNumbered_of_entered? {id : ListenerId} (h : op.entered? id k = some r) :
    op.isNumbered = true := by
  unfold Operation.entered? at h
  split at h
  · split at h
    · cases h
    · next hp => simp [Operation.isNumbered, Operation.entered?, hp]
  · rfl
  · cases h

/-- No registration has a number that was not handed out. -/
private theorem Stands.id_le (h : Stands k ops r) : r.id ≤ numbered ops := by
  obtain ⟨before, op, after, rfl, hentered, -⟩ := h
  rw [id_of_entered? hentered, numbered, numbered, List.countP_append,
    List.countP_cons_of_pos (isNumbered_of_entered? hentered)]
  exact Nat.add_le_add_left (Nat.le_add_left 1 _) _

/-- The list holds what stands, in order. -/
structure Roster (k : Audience) (ops : List Operation) (rs : List Registration) : Prop where
  inOrder : InOrder rs
  mem_iff : ∀ r, r ∈ rs ↔ Stands k ops r

/-- One number more has been handed out, or the same. -/
private theorem numbered_append (ops : List Operation) (op : Operation) :
    numbered (ops ++ [op]) = numbered ops + if op.isNumbered then 1 else 0 := by
  rw [numbered, List.countP_append, List.countP_singleton]
  rfl

/-- The last operation is done behind the others. -/
theorem run_concat (ls : Listeners) (ops : List Operation) (op : Operation) :
    ls.run (ops ++ [op]) = ((ls.run ops).apply op).1 := by
  rw [run_append]
  rfl

/-- So the last answer comes behind the others. -/
theorem answers_concat (ls : Listeners) (ops : List Operation) (op : Operation) :
    ls.answers (ops ++ [op]) = ls.answers ops ++ [((ls.run ops).apply op).2] := by
  induction ops generalizing ls with
  | nil => rfl
  | cons o ops ih =>
    rw [List.cons_append, answers, answers, ih, List.cons_append]
    rfl

/-- The last number is how many were handed out. -/
theorem lastId_run (ops : List Operation) : (run {} ops).lastId = numbered ops := by
  induction ops using List.reverseRecOn with
  | nil => rfl
  | append_singleton ops op ih =>
    rw [run_concat, numbered_append, (does_apply _ op).lastId, ih]

/-- By induction on the operations, the lists hold what stands. -/
theorem roster_run (k : Audience) (ops : List Operation) : Roster k ops ((run {} ops).list k) := by
  induction ops using List.reverseRecOn with
  | nil =>
    have hempty : (run {} []).list k = [] := by cases k <;> rfl
    rw [hempty]
    refine ⟨List.Pairwise.nil, fun r => ⟨nofun, ?_⟩⟩
    rintro ⟨before, op, after, heq, -, -⟩
    simp at heq
  | append_singleton ops op ih =>
    rw [run_concat, (does_apply _ op).list, lastId_run]
    cases hentered : op.entered? (numbered ops + 1) k with
    | some r =>
      -- a new number is past those of all that stand
      have hfresh : ∀ s ∈ (run {} ops).list k, s.id ≠ r.id := by
        intro s hs heq
        have := ((ih.mem_iff s).1 hs).id_le
        have := id_of_entered? hentered
        grind
      refine ⟨ih.inOrder.insert hfresh, fun s => ?_⟩
      have hkept : Operation.removal s.id k ≠ op := by
        rintro rfl
        cases k <;> cases hentered
      rw [mem_insert, ih.mem_iff, stands_append, hentered, Option.some.injEq, eq_comm (a := r),
        or_comm, and_iff_left hkept]
    | none =>
      refine ⟨ih.inOrder.filter _, fun s => ?_⟩
      rw [List.mem_filter, ih.mem_iff, stands_append, hentered]
      simp

/-- The sequencer is the first one installed since the last removal. -/
theorem sequencer_run (ops : List Operation) : (run {} ops).sequencer = installed? ops := by
  induction ops using List.reverseRecOn with
  | nil => rfl
  | append_singleton ops op ih =>
    rw [run_concat, (does_apply _ op).sequencer, ih, installed?, installed?, List.rtakeWhile_concat]
    by_cases h : op = .clearSequencer
    · simp [h]
    · rw [if_neg h, if_pos (by simpa using h), List.findSome?_append]
      cases hs : op.sequencer? <;> simp [List.findSome?, hs]

/-- The numbers are handed out in turn. -/
theorem numbers_run (ls : Listeners) (ops : List Operation) :
    (ls.answers ops).filterMap Answer.number? = List.range' (ls.lastId + 1) (numbered ops) := by
  induction ops generalizing ls with
  | nil => rfl
  | cons op ops ih =>
    have hcons : numbered (op :: ops) = numbered ops + if op.isNumbered then 1 else 0 :=
      List.countP_cons
    rw [answers, List.filterMap_cons, (does_apply ls op).number?, ih, (does_apply ls op).lastId,
      hcons]
    cases op.isNumbered <;> rfl

/-! ## The calls for an event -/

/-- The operations call for just these calls: of all registrations that stand and cover the message,
or of the packet sequencer alone. -/
def Owes (ops : List Operation) (e : Event) (ds : List Delivery) : Prop :=
  match e with
  | .message m =>
    if m.message.type = .packetIn then
      ds = (installed? ops).toList.map fun l => { listener := l, event := e, isSequencer := true }
    else
      ∃ rs, InOrder rs ∧
        (∀ r, r ∈ rs ↔ Stands .message ops r ∧ r.interest.covers m.message.type = true) ∧
        ds = rs.map fun r => { listener := r.listener, event := e }
  | .datapath _ =>
    ∃ rs, InOrder rs ∧ (∀ r, r ∈ rs ↔ Stands .datapath ops r) ∧
      ds = rs.map fun r => { listener := r.listener, event := e }

/-- The calls for an event are those that the operations call for. -/
theorem owes_deliveries (ops : List Operation) (e : Event) :
    Owes ops e ((run {} ops).deliveries e) := by
  cases e with
  | message m =>
    rw [Owes, deliveries]
    split
    · rw [sequencer_run]
    · have hroster := roster_run .message ops
      refine ⟨_, hroster.inOrder.filter _, fun r => ?_, rfl⟩
      rw [List.mem_filter]
      exact and_congr_left' (hroster.mem_iff r)
  | datapath d =>
    have hroster := roster_run .datapath ops
    exact ⟨_, hroster.inOrder, hroster.mem_iff, rfl⟩

end Listeners

end Southbound
