import Southbound.Bytes.BigEndian

/-!
# The writer of a connection

Moves queued frames into a sink until the queue is closed, the connection is cancelled or a write
fails. Frames queued before a cancellation are still written, and however it ends the sink is shut
down.
-/

namespace Southbound

/-- Takes bytes, some at a time. -/
structure Sink where
  /-- How many bytes one write takes; `none` for all it is given. -/
  perWrite : Option Nat := none
  /-- After this many bytes in all, every write fails. -/
  failAt : Option Nat := none
  taken : Bytes := []
  isShut : Bool := false

namespace Sink

/-- How many of `n` bytes the next write takes when `done` were taken before it; 0 if it fails. -/
def accepts (s : Sink) (done n : Nat) : Nat :=
  let step := match s.perWrite with
    | none => n
    | some k => min k n
  match s.failAt with
  | none => step
  | some limit => min step (limit - done)

/-- A stream takes no more than it is given. -/
theorem accepts_le (s : Sink) (done n : Nat) : s.accepts done n ≤ n := by
  unfold accepts
  dsimp only
  split <;> split <;> omega

/-- How many bytes were taken in all when there is no more to be done: `n` were to be written when
`done` had been taken, and a write takes nothing only if it fails. -/
def reach (s : Sink) (done n : Nat) : Nat :=
  let k := s.accepts done n
  if k = 0 then done else reach s (done + k) (n - k)
termination_by n
decreasing_by
  have := s.accepts_le done n
  omega

/-- Writes as often as it takes to get rid of `bs`; `false` if a write failed. -/
def writeAll (s : Sink) (bs : Bytes) : Sink × Bool :=
  let k := s.reach s.taken.length bs.length - s.taken.length
  ({ s with taken := s.taken ++ bs.take k }, k = bs.length)

end Sink

/-- Where a writer stands. -/
structure WriterRun where
  sink : Sink
  cancelled : Bool
  /-- Has it ended, or is it waiting for frames? -/
  finished : Bool

namespace WriterRun

/-- The sink is shut down when the writer ends. -/
def finish (sink : Sink) (cancelled : Bool) : WriterRun :=
  ⟨{ sink with isShut := true }, cancelled, true⟩

end WriterRun

/-- Runs the writer on what is queued. It ends on a failed write, which cancels the connection,
and once the queue is empty if the connection is cancelled or nothing can be queued any more. -/
def runWriter (queue : List Bytes) (cancelled senderOpen : Bool) (sink : Sink) : WriterRun :=
  match queue with
  | [] =>
    if cancelled || !senderOpen then WriterRun.finish sink cancelled
    else ⟨sink, cancelled, false⟩
  -- a cancellation does not keep queued frames from being written
  | frame :: more =>
    match sink.writeAll frame with
    | (sink', true) => runWriter more cancelled senderOpen sink'
    | (sink', false) => WriterRun.finish sink' true

end Southbound
