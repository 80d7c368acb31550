import Southbound.Failure
import Southbound.Link.Liveness
import Southbound.Link.Writer
import Southbound.Wire.Codec

/-!
# Connections

One channel to a switch: how far its handshake is, which datapath it belongs to, and the queue of
frames on their way to the writer. The queue holds one frame more than its capacity.
-/

namespace Southbound

/-- How far a connection has come. The last two stages are final. -/
inductive Stage where
  | connecting
  | versionNegotiating
  | basicHandshake
  | extendedHandshake
  | postHandshake
  | ready
  | closed
  | revoked
deriving DecidableEq

namespace Stage

def label : Stage → String
  | connecting => "Connecting"
  | versionNegotiating => "VersionNegotiating"
  | basicHandshake => "BasicHandshake"
  | extendedHandshake => "ExtendedHandshake"
  | postHandshake => "PostHandshake"
  | ready => "Ready"
  | closed => "Closed"
  | revoked => "Revoked"

def isFinal : Stage → Bool
  | closed | revoked => true
  | _ => false

end Stage

/-- Turns a message into a frame of a version. -/
abbrev Encoder := Version → Xid → Message → Except WireError Bytes

structure Connection where
  /-- What the peer is called. -/
  remote : String
  /-- How many frames may wait, not counting the one that may always wait. -/
  capacity : Nat
  liveness : Liveness
  /-- 0 until a version is negotiated. -/
  version : Version := 0
  /-- 0 on a main connection. -/
  auxiliary : UInt8 := 0
  datapath : Option DatapathId := none
  stage : Stage := .connecting
  /-- Frames waiting for the writer, oldest first. -/
  queue : List Bytes := []
  /-- The writer is gone. -/
  isOrphaned : Bool := false
  /-- Closed, revoked or cancelled: nothing more is sent or read. -/
  isClosed : Bool := false
  /-- Another connection took over the datapath. -/
  isRevoked : Bool := false
  /-- How many frames have been queued. Like everything that is counted one by one, this is a number
  without a bound. -/
  framesSent : Nat := 0
deriving DecidableEq

namespace Connection

def new (remote : String) (capacity : Nat) (now : Nat) : Connection where
  remote := remote
  capacity := capacity
  liveness := .new now

def isAuxiliary (c : Connection) : Bool := c.auxiliary != 0

/-- Moves on to a stage; a final stage is never left. -/
def enter (c : Connection) (s : Stage) : Connection :=
  if c.stage.isFinal then c else { c with stage := s }

/-- Makes the connection one of a datapath. -/
def bind (c : Connection) (d : DatapathId) (auxiliary : UInt8) : Connection :=
  { c with datapath := some d, auxiliary }

def close (c : Connection) : Connection := { c.enter .closed with isClosed := true }

/-- Closes the connection because another one took over. -/
def revoke (c : Connection) : Connection :=
  { c.enter .revoked with isClosed := true, isRevoked := true }

def touch (c : Connection) (now : Nat) : Connection :=
  { c with liveness := c.liveness.touch now }

/-- Why no frame can be queued, if so. -/
def fault? (c : Connection) : Option SendFault :=
  -- a closed connection says so whatever else is wrong with it
  if c.isClosed then some .closed
  else if c.isOrphaned then some .writerGone
  else if c.queue.length > c.capacity then some .queueFull
  else none

def sendFailure (c : Connection) (f : SendFault) : Failure :=
  .sendFailed (c.datapath.getD {}) f c.remote c.auxiliary

/-- Queues a frame. -/
def sendFrame (c : Connection) (frame : Bytes) : Except Failure Connection :=
  match c.fault? with
  | some f => .error (c.sendFailure f)
  | none => .ok { c with queue := c.queue ++ [frame], framesSent := c.framesSent + 1 }

/-- Encodes a message for the negotiated version and queues it. -/
def send (c : Connection) (encode : Encoder) (xid : Xid) (m : Message) :
    Except Failure Connection :=
  match encode c.version xid m with
  | .error e => .error (.serialization e)
  | .ok frame => c.sendFrame frame

/-- Takes the oldest frame for the writer. -/
def receive (c : Connection) : Connection × Option Bytes :=
  match c.queue with
  | [] => (c, none)
  | frame :: more => ({ c with queue := more }, some frame)

/-- The writer goes, and what it has not taken is lost. -/
def orphan (c : Connection) : Connection := { c with isOrphaned := true, queue := [] }

/-- Nothing more is sent or read. The stage is left to the session, which has yet to end. -/
def cancel (c : Connection) : Connection := { c with isClosed := true }

/-- What a run of the writer leaves: it has taken the whole queue, or a write failed, which cancels
the connection. When the writer ends it is gone. -/
def afterWriting (c : Connection) (w : WriterRun) : Connection :=
  -- a writer that goes on has taken all there was
  let c := if w.finished then c.orphan else { c with queue := [] }
  if w.cancelled then c.cancel else c

end Connection

end Southbound
