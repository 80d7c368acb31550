import Mathlib.Logic.Relation
import Southbound.Link.Writer

/-!
# Writing, one write at a time

`runWriter` says what a writer has done when it can do no more. A `WriterTask` is a writer on its
way there. It takes frames from the queue as long as there are any, even if the connection has been
cancelled; with an empty queue it notices the cancellation and looks through the queue a last time;
it offers what is left of a frame to the sink again and again; and in the end it shuts the sink.

* `Sink.room`                    how many bytes a sink takes in any number of writes
* `runWriter_eq`                 what a writer leaves, said without its steps
* `WriterTask.exists_runs`       a task comes to rest with what `runWriter` says
* `WriterTask.accounts_runs`     which bytes are written, and when and how a writer ends
-/

namespace Southbound

open Relation (ReflTransGen)

namespace Sink

/-- The number of bytes after which every write fails, if there is one. A write that takes nothing
has failed, so a sink that takes nothing at a time has this number at 0. -/
def limit? (s : Sink) : Option Nat := if s.perWrite = some 0 then some 0 else s.failAt

/-- How many of `n` bytes the sink takes, in as many writes as it likes, when `done` were taken
before them. -/
def room (s : Sink) (done n : Nat) : Nat :=
  match s.limit? with
  | none => n
  | some limit => min n (limit - done)

/-- The sink has taken more. -/
def push (s : Sink) (bs : Bytes) : Sink := { s with taken := s.taken ++ bs }

variable {s : Sink} {done n : Nat}

private theorem push_nil (s : Sink) : s.push [] = s := by
  simp [push]

/-- Bytes are taken one behind the other. -/
private theorem push_push (s : Sink) (bs cs : Bytes) : (s.push bs).push cs = s.push (bs ++ cs) := by
  simp [push]

/-- Nothing is taken of nothing. -/
@[simp] theorem accepts_zero (s : Sink) (done : Nat) : s.accepts done 0 = 0 :=
  Nat.le_zero.1 (s.accepts_le done 0)

/-- A sink takes no more than there is. -/
private theorem room_le (s : Sink) (done n : Nat) : s.room done n ≤ n := by
  unfold room
  split <;> omega

/-- A sink that takes nothing at a time has no room at all. -/
theorem limit?_of_perWrite_zero (h : s.perWrite = some 0) : s.limit? = some 0 := if_pos h

/-- A single write takes no more than all of them. -/
theorem accepts_le_room (s : Sink) (done n : Nat) : s.accepts done n ≤ s.room done n := by
  unfold accepts room
  by_cases hzero : s.perWrite = some 0
  · rw [limit?_of_perWrite_zero hzero, hzero]
    cases s.failAt <;> dsimp only <;> omega
  · have hlimit : s.limit? = s.failAt := if_neg hzero
    rw [hlimit]
    cases s.perWrite <;> cases s.failAt <;> dsimp only <;> omega

/-- A write fails only if there is no room left, or nothing to write. -/
theorem accepts_eq_zero_iff : s.accepts done n = 0 ↔ s.room done n = 0 := by
  unfold accepts room
  -- a sink that takes nothing per write is full from the start
  by_cases hzero : s.perWrite = some 0
  · rw [limit?_of_perWrite_zero hzero, hzero]
    cases s.failAt <;> dsimp only <;> omega
  · have hlimit : s.limit? = s.failAt := if_neg hzero
    rw [hlimit]
    cases hper : s.perWrite with
    | none => cases s.failAt <;> dsimp only <;> omega
    | some k =>
      have hpos : 0 < k := by
        refine Nat.pos_of_ne_zero fun hk => hzero ?_
        rw [hper, hk]
      cases s.failAt <;> dsimp only <;> omega

/-- What was taken leaves the less room. -/
theorem room_add {k : Nat} (hk : k ≤ s.room done (k + n)) :
    s.room done (k + n) = k + s.room (done + k) n := by
  unfold room at *
  split at hk
  · rfl
  · omega

/-- Frames that fit leave room for the next ones, and those that do not leave none. -/
theorem room_append (s : Sink) (done m n : Nat) :
    s.room done (m + n) =
      if s.room done m = m then m + s.room (done + m) n else s.room done m := by
  unfold room
  split
  · simp
  · split <;> omega

/-- A write reaches as far as there is room. -/
private theorem reach_eq (s : Sink) (done n : Nat) : s.reach done n = done + s.room done n := by
  -- a partial write leaves the rest to the next, until nothing is accepted
  fun_induction reach s done n with
  | case1 done n k hk =>
    have hroom : s.room done n = 0 := accepts_eq_zero_iff.1 hk
    omega
  | case2 done n k hk ih =>
    have hle : k ≤ n := s.accepts_le done n
    have hroom : k ≤ s.room done n := s.accepts_le_room done n
    have hsplit : s.room done (k + (n - k)) = k + s.room (done + k) (n - k) := by
      refine room_add ?_
      rwa [Nat.add_sub_cancel' hle]
    rw [Nat.add_sub_cancel' hle] at hsplit
    omega

/-- As many writes as it takes. -/
theorem writeAll_eq (s : Sink) (bs : Bytes) :
    s.writeAll bs = (s.push (bs.take (s.room s.taken.length bs.length)),
      decide (s.room s.taken.length bs.length = bs.length)) := by
  simp only [writeAll, reach_eq, Nat.add_sub_cancel_left, push]

/-- What a sink takes in all depends on how much it has taken, not on what. -/
@[simp] theorem room_push (s : Sink) (bs : Bytes) (done n : Nat) :
    (s.push bs).room done n = s.room done n := rfl

/-- It has taken that much more. -/
private theorem length_taken_push (s : Sink) (bs : Bytes) :
    (s.push bs).taken.length = s.taken.length + bs.length := List.length_append

end Sink

/-! ## What a writer leaves -/

/-- All frames fit into what the sink takes. -/
def Fits (queue : List Bytes) (s : Sink) : Prop :=
  s.room s.taken.length queue.flatten.length = queue.flatten.length

instance (queue : List Bytes) (s : Sink) : Decidable (Fits queue s) :=
  inferInstanceAs (Decidable (_ = _))

/-- No frames always fit. -/
private theorem fits_nil (s : Sink) : Fits [] s := Nat.le_zero.1 (s.room_le _ 0)

/-- Frames fit if the first does and the others do behind it. -/
private theorem fits_cons (frame : Bytes) (more : List Bytes) (s : Sink) :
    Fits (frame :: more) s ↔
      s.room s.taken.length frame.length = frame.length ∧ Fits more (s.push frame) := by
  have hroom := s.room_append s.taken.length frame.length more.flatten.length
  have hle := s.room_le s.taken.length frame.length
  have hlength : (frame :: more).flatten.length = frame.length + more.flatten.length := by simp
  simp only [Fits, hlength, hroom, s.length_taken_push, s.room_push]
  split <;> omega

/-- The first frame. -/
theorem runWriter_cons (frame : Bytes) (more : List Bytes) (cancelled senderOpen : Bool)
    (s : Sink) : runWriter (frame :: more) cancelled senderOpen s =
      if s.room s.taken.length frame.length = frame.length then
        runWriter more cancelled senderOpen (s.push frame)
      else WriterRun.finish (s.push (frame.take (s.room s.taken.length frame.length))) true := by
  rw [runWriter, Sink.writeAll_eq]
  by_cases hfull : s.room s.taken.length frame.length = frame.length
  · simp only [hfull, decide_true, List.take_length, ↓reduceIte]
  · simp only [hfull, decide_false, ↓reduceIte]

/-- If the frames fit they are all in the sink, and the writer ends over a cancellation or the end
of the queue; if they do not, as much of them as fits is in the sink, and the writer has ended. -/
theorem runWriter_eq (queue : List Bytes) (cancelled senderOpen : Bool) (s : Sink) :
    runWriter queue cancelled senderOpen s =
      if Fits queue s then
        if cancelled || !senderOpen then WriterRun.finish (s.push queue.flatten) cancelled
        else ⟨s.push queue.flatten, cancelled, false⟩
      else WriterRun.finish
        (s.push (queue.flatten.take (s.room s.taken.length queue.flatten.length))) true := by
  -- the sink fills up as the queue is written, so it is general in the induction
  induction queue generalizing s with
  | nil => rw [if_pos (fits_nil s), List.flatten_nil, s.push_nil, runWriter]
  | cons frame more ih =>
    have hroom := s.room_append s.taken.length frame.length more.flatten.length
    rw [runWriter_cons, List.flatten_cons, List.length_append, hroom]
    by_cases hfull : s.room s.taken.length frame.length = frame.length
    · -- the frame is written, and the others find what room it has left
      have hiff : Fits (frame :: more) s ↔ Fits more (s.push frame) := by
        simp only [fits_cons, hfull, true_and]
      rw [if_pos hfull, if_pos hfull, ih, s.length_taken_push, s.room_push]
      simp only [hiff, Sink.push_push, List.take_length_add_append]
    · -- a part of the frame is written, and nothing of the others
      have hnot : ¬ Fits (frame :: more) s := fun hfits => hfull ((fits_cons _ _ _).1 hfits).1
      rw [if_neg hfull, if_neg hfull, if_neg hnot,
        List.take_append_of_le_length (s.room_le _ _)]

section

variable (queue : List Bytes) (cancelled senderOpen : Bool) (s : Sink)

/-- The sink takes the frames one behind the other, as far as there is room. -/
private theorem taken_runWriter : (runWriter queue cancelled senderOpen s).sink.taken =
    s.taken ++ queue.flatten.take (s.room s.taken.length queue.flatten.length) := by
  rw [runWriter_eq]
  by_cases hfits : Fits queue s
  · have hall : queue.flatten.take (s.room s.taken.length queue.flatten.length) =
        queue.flatten := by rw [hfits, List.take_length]
    rw [if_pos hfits, hall]
    split <;> rfl
  · rw [if_neg hfits]
    rfl

/-- The connection is cancelled when a frame does not fit, if it was not before. -/
private theorem cancelled_runWriter : (runWriter queue cancelled senderOpen s).cancelled =
    (cancelled || !decide (Fits queue s)) := by
  rw [runWriter_eq]
  split <;> rename_i hfits
  · split <;> simp [WriterRun.finish, hfits]
  · simp [WriterRun.finish, hfits]

/-- A writer ends with a cancelled connection, with the last sender or with a failure. -/
private theorem finished_runWriter : (runWriter queue cancelled senderOpen s).finished =
    (cancelled || !senderOpen || !decide (Fits queue s)) := by
  rw [runWriter_eq]
  split <;> rename_i hfits
  · split <;> rename_i hends
    · simp [WriterRun.finish, hends]
    · simp [hends, hfits]
  · simp [WriterRun.finish, hfits]

/-- It shuts the sink when it ends. -/
private theorem isShut_runWriter : (runWriter queue cancelled senderOpen s).sink.isShut =
    (s.isShut || (runWriter queue cancelled senderOpen s).finished) := by
  rw [runWriter_eq]
  split
  · split <;> simp [WriterRun.finish, Sink.push]
  · simp [WriterRun.finish]

end

/-! ## A writer on its way -/

/-- What a writer is at. With `draining` it has noticed a cancellation. -/
inductive WriterPhase where
  /-- It looks for the next frame. -/
  | atQueue (draining : Bool)
  /-- It has `rest` of a frame to write. -/
  | writing (rest : Bytes) (draining : Bool)
  /-- It has only to shut the sink. -/
  | closing
  | ended

structure WriterTask where
  phase : WriterPhase
  queue : List Bytes
  /-- More frames can come. -/
  senderOpen : Bool
  cancelled : Bool
  /-- A write has failed. -/
  hasFailed : Bool
  sink : Sink

namespace WriterTask

/-- A writer that has done nothing yet. -/
def start (queue : List Bytes) (cancelled senderOpen : Bool) (s : Sink) : WriterTask where
  phase := .atQueue false
  queue := queue
  senderOpen := senderOpen
  cancelled := cancelled
  hasFailed := false
  sink := s

inductive Step : WriterTask → WriterTask → Prop
  /-- A waiting frame comes before a cancellation. -/
  | take {d o c e : Bool} {frame : Bytes} {queue : List Bytes} {s : Sink} :
      Step ⟨.atQueue d, frame :: queue, o, c, e, s⟩ ⟨.writing frame d, queue, o, c, e, s⟩
  | noMore {c e : Bool} {s : Sink} :
      Step ⟨.atQueue false, [], false, c, e, s⟩ ⟨.closing, [], false, c, e, s⟩
  | notice {e : Bool} {s : Sink} :
      Step ⟨.atQueue false, [], true, true, e, s⟩ ⟨.atQueue true, [], true, true, e, s⟩
  | drained {o c e : Bool} {s : Sink} :
      Step ⟨.atQueue true, [], o, c, e, s⟩ ⟨.closing, [], o, c, e, s⟩
  /-- The sink takes something of what it is offered. -/
  | part {d o c e : Bool} {rest : Bytes} {queue : List Bytes} {s : Sink}
      (h : s.accepts s.taken.length rest.length ≠ 0) :
      Step ⟨.writing rest d, queue, o, c, e, s⟩
        ⟨.writing (rest.drop (s.accepts s.taken.length rest.length)) d, queue, o, c, e,
          s.push (rest.take (s.accepts s.taken.length rest.length))⟩
  | written {d o c e : Bool} {queue : List Bytes} {s : Sink} :
      Step ⟨.writing [] d, queue, o, c, e, s⟩ ⟨.atQueue d, queue, o, c, e, s⟩
  /-- The connection is cancelled, unless it is known to be. -/
  | fail {d o c e : Bool} {rest : Bytes} {queue : List Bytes} {s : Sink} (hrest : rest ≠ [])
      (h : s.accepts s.taken.length rest.length = 0) :
      Step ⟨.writing rest d, queue, o, c, e, s⟩ ⟨.closing, queue, o, c || !d, true, s⟩
  | shut {o c e : Bool} {queue : List Bytes} {s : Sink} :
      Step ⟨.closing, queue, o, c, e, s⟩ ⟨.ended, queue, o, c, e, { s with isShut := true }⟩

/-- It waits or has ended. -/
def Rests (t : WriterTask) : Prop := ∀ u, ¬ Step t u

/-- A writer has no choice. -/
private theorem Step.deterministic {t u v : WriterTask} (h : Step t u) (h' : Step t v) : u = v := by
  -- a frame of which nothing is left is not offered to the sink
  cases h <;> cases h' <;> first | rfl | contradiction | simp at *

/-- All runs lead to where one of them rests. -/
theorem Rests.runs {t u v : WriterTask} (hv : v.Rests) (hrun : ReflTransGen Step t v)
    (h : ReflTransGen Step t u) : ReflTransGen Step u v := by
  have hunique : Relator.RightUnique Step := fun _ _ _ => Step.deterministic
  rcases ReflTransGen.total_of_right_unique hunique h hrun with hto | hfrom
  · exact hto
  · -- nothing comes after the rest
    rcases hfrom.cases_head with rfl | ⟨w, hstep, -⟩
    · exact .refl
    · exact absurd hstep (hv w)

section

variable {d o c e : Bool} {queue : List Bytes} {s : Sink}

/-- A writer that has ended rests. -/
private theorem rests_ended : Rests ⟨.ended, queue, o, c, e, s⟩ := fun _ h => nomatch h

/-- So does one that waits for frames. -/
private theorem rests_waiting :
    Rests ⟨.atQueue false, [], true, false, e, s⟩ := fun _ h => nomatch h

/-! ## The end of a run -/

/-- One frame: it is written, or as much of it as there is room for. -/
theorem runs_writing (rest : Bytes) (queue : List Bytes) (s : Sink) :
    ReflTransGen Step ⟨.writing rest d, queue, o, c, e, s⟩
      (if s.room s.taken.length rest.length = rest.length then
        ⟨.atQueue d, queue, o, c, e, s.push rest⟩
      else ⟨.closing, queue, o, c || !d, true,
        s.push (rest.take (s.room s.taken.length rest.length))⟩) := by
  -- by induction on what is left of the frame, each write taking some of it
  induction hn : rest.length using Nat.strongRecOn generalizing rest s with
  | ind n ih =>
    subst hn
    by_cases hempty : rest = []
    · subst hempty
      have hroom : s.room s.taken.length 0 = 0 := Nat.le_zero.1 (s.room_le _ 0)
      rw [List.length_nil, if_pos hroom, s.push_nil]
      exact .single .written
    by_cases hzero : s.accepts s.taken.length rest.length = 0
    · have hroom := Sink.accepts_eq_zero_iff.1 hzero
      have hpos : 0 ≠ rest.length := fun h => hempty (List.length_eq_zero_iff.1 h.symm)
      rw [hroom, if_neg hpos, List.take_zero, s.push_nil]
      exact .single (.fail hempty hzero)
    · refine .head (.part hzero) ?_
      have hle := s.accepts_le s.taken.length rest.length
      have hroom := s.accepts_le_room s.taken.length rest.length
      generalize s.accepts s.taken.length rest.length = k at *
      have htake : (rest.take k).length = k := by
        rw [List.length_take]
        omega
      have hdrop : (rest.drop k).length = rest.length - k := List.length_drop
      have hadd : k + (rest.length - k) = rest.length := by omega
      have hsplit : s.room s.taken.length (k + (rest.length - k)) =
          k + s.room (s.taken.length + k) (rest.length - k) :=
        Sink.room_add (hadd.symm ▸ hroom)
      have hmore := ih _ (by omega) (rest.drop k) (s.push (rest.take k)) hdrop
      rw [hadd] at hsplit
      rw [s.length_taken_push, htake, s.room_push] at hmore
      rw [hsplit]
      by_cases hfull : s.room (s.taken.length + k) (rest.length - k) = rest.length - k
      · rw [if_pos hfull, s.push_push, List.take_append_drop] at hmore
        rw [if_pos (by omega)]
        exact hmore
      · rw [if_neg hfull, s.push_push, ← List.take_add] at hmore
        rw [if_neg (by omega)]
        exact hmore

/-- A task that looks for frames comes to rest with what `runWriter` says. One that has noticed the
cancellation does so as well, with as many frames in the queue as there may be. -/
theorem exists_runs (queue : List Bytes) (hd : d = true → c = true) (s : Sink) :
    ∃ t, ReflTransGen Step ⟨.atQueue d, queue, o, c, e, s⟩ t ∧ t.Rests ∧
      t.sink = (runWriter queue c o s).sink ∧
      t.cancelled = (runWriter queue c o s).cancelled ∧
      (t.phase = .ended ↔ (runWriter queue c o s).finished = true) ∧
      t.hasFailed = (e || !decide (Fits queue s)) := by
  induction queue generalizing s with
  | nil =>
    have hends : ReflTransGen Step ⟨.closing, [], o, c, e, s⟩
        ⟨.ended, [], o, c, e, { s with isShut := true }⟩ := .single .shut
    cases d with
    | true =>
      -- the cancellation has been noticed before
      obtain rfl : c = true := hd rfl
      exact ⟨_, .head .drained hends, rests_ended, by simp [runWriter, WriterRun.finish, fits_nil]⟩
    | false =>
      cases o with
      | false =>
        exact ⟨_, .head .noMore hends, rests_ended,
          by simp [runWriter, WriterRun.finish, fits_nil]⟩
      | true =>
        cases c with
        | true =>
          exact ⟨_, .head .notice (.head .drained hends), rests_ended,
            by simp [runWriter, WriterRun.finish, fits_nil]⟩
        | false => exact ⟨_, .refl, rests_waiting, by simp [runWriter, fits_nil]⟩
  | cons frame more ih =>
    have hframe := runs_writing (d := d) (o := o) (c := c) (e := e) frame more s
    rw [runWriter_cons]
    by_cases hfull : s.room s.taken.length frame.length = frame.length
    · rw [if_pos hfull] at hframe ⊢
      obtain ⟨t, hruns, hrests, hsink, hcancelled, hended, hfailed⟩ := ih (s.push frame)
      refine ⟨t, .head .take (hframe.trans hruns), hrests, hsink, hcancelled, hended, ?_⟩
      simp only [hfailed, fits_cons, hfull, true_and]
    · -- the write that fails is the last
      rw [if_neg hfull] at hframe ⊢
      refine ⟨_, .head .take (hframe.tail .shut), rests_ended, rfl, ?_, ?_, ?_⟩
      · cases d with
        | true => simp [WriterRun.finish, hd rfl]
        | false => simp [WriterRun.finish]
      · simp [WriterRun.finish]
      · simp [fits_cons, hfull]

end

/-! ## What becomes of the bytes -/

/-- The account of a writer that came to rest as `t`: it found `queue` and the sink `before`. -/
structure Accounts (queue : List Bytes) (cancelled senderOpen : Bool) (before : Sink)
    (t : WriterTask) : Prop where
  hasFailed_iff : t.hasFailed = true ↔
    ∃ limit, before.limit? = some limit ∧
      limit - before.taken.length < queue.flatten.length
  /-- Without a failure every frame is written, cancelled or not. -/
  whole : t.hasFailed = false → t.sink.taken = before.taken ++ queue.flatten
  /-- With one, what was written ends where the writes began to fail. -/
  cut : t.hasFailed = true → ∀ limit, before.limit? = some limit →
    t.sink.taken = before.taken ++ queue.flatten.take (limit - before.taken.length)
  ended_iff : t.phase = .ended ↔ senderOpen = false ∨ cancelled = true ∨ t.hasFailed = true
  shut : t.phase = .ended → t.sink.isShut = true
  waits : t.phase ≠ .ended → t.sink.isShut = before.isShut
  cancelled_iff : t.cancelled = true ↔ cancelled = true ∨ t.hasFailed = true

/-- Frames fit unless there is a limit within them. -/
private theorem not_fits_iff (queue : List Bytes) (s : Sink) :
    ¬ Fits queue s ↔
      ∃ limit, s.limit? = some limit ∧ limit - s.taken.length < queue.flatten.length := by
  unfold Fits Sink.room
  cases s.limit? with
  | none => simp
  | some limit =>
    simp only [Option.some.injEq, exists_eq_left']
    omega

/-- What `runWriter` leaves is accounted for. -/
theorem accounts_of_eq {queue : List Bytes} {cancelled senderOpen : Bool} {s : Sink}
    {t : WriterTask} (hsink : t.sink = (runWriter queue cancelled senderOpen s).sink)
    (hcancelled : t.cancelled = (runWriter queue cancelled senderOpen s).cancelled)
    (hended : t.phase = .ended ↔ (runWriter queue cancelled senderOpen s).finished = true)
    (hfailed : t.hasFailed = !decide (Fits queue s)) :
    Accounts queue cancelled senderOpen s t where
  hasFailed_iff := by
    rw [hfailed, ← not_fits_iff]
    simp
  whole hnot := by
    have hfits : Fits queue s := by simpa [hfailed] using hnot
    rw [hsink, taken_runWriter, hfits, List.take_length]
  cut hfailure limit hlimit := by
    -- the frames do not fit, so there is room up to the limit
    have hfits : ¬ Fits queue s := by simpa [hfailed] using hfailure
    have hroom : s.room s.taken.length queue.flatten.length = limit - s.taken.length := by
      simp only [Fits, Sink.room, hlimit] at hfits ⊢
      omega
    rw [hsink, taken_runWriter, hroom]
  ended_iff := by
    rw [hended, finished_runWriter, hfailed]
    cases cancelled <;> cases senderOpen <;> simp
  shut hend := by
    rw [hsink, isShut_runWriter, hended.1 hend, Bool.or_true]
  waits hwaits := by
    rw [hsink, isShut_runWriter, Bool.eq_false_iff.2 (mt hended.2 hwaits), Bool.or_false]
  cancelled_iff := by
    rw [hcancelled, cancelled_runWriter, hfailed, Bool.or_eq_true]

/-- Every run of a writer leads to one and the same rest, which is the one `runWriter` says, and
what became of the frames there is accounted for. -/
theorem accounts_runs (queue : List Bytes) (cancelled senderOpen : Bool) (s : Sink) :
    ∃ t, ReflTransGen Step (start queue cancelled senderOpen s) t ∧ t.Rests ∧
      (∀ u, ReflTransGen Step (start queue cancelled senderOpen s) u → ReflTransGen Step u t) ∧
      t.sink = (runWriter queue cancelled senderOpen s).sink ∧
      t.cancelled = (runWriter queue cancelled senderOpen s).cancelled ∧
      (t.phase = .ended ↔ (runWriter queue cancelled senderOpen s).finished = true) ∧
      Accounts queue cancelled senderOpen s t := by
  obtain ⟨t, hruns, hrests, hsink, hcancelled, hended, hfailed⟩ :=
    exists_runs (d := false) (o := senderOpen) (c := cancelled) (e := false) queue (by simp) s
  rw [Bool.false_or] at hfailed
  exact ⟨t, hruns, hrests, fun u hu => hrests.runs hruns hu, hsink, hcancelled, hended,
    accounts_of_eq hsink hcancelled hended hfailed⟩

end WriterTask

end Southbound
