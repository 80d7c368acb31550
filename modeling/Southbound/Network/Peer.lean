import Southbound.Link.Frame
import Southbound.Link.Writer
import Southbound.Switch
import Southbound.Wire.Codec

/-!
# The far ends of connections

Whoever is at the other end of a connection of the controller: the bytes it has written and the
controller has not read, and the frames that have reached it. Behind a peer there can be a
simulated switch, which answers every message at once.
-/

namespace Southbound

structure Peer where
  /-- Answers messages; without it nobody does. -/
  switch : Option Switch := none
  /-- Bytes on their way to the controller. -/
  unread : Bytes := []
  /-- It writes no more. -/
  hasLeft : Bool := false
  /-- It reads no more either. -/
  isGone : Bool := false
  /-- The controller has closed the stream. -/
  isShut : Bool := false
  /-- The frames that have reached it, oldest first. -/
  received : List Frame := []
  /-- The transaction id of the last message it sent of its own accord. -/
  lastXid : Xid := 0x1000
deriving DecidableEq

namespace Peer

/-- Can it still write? -/
def isWriting (p : Peer) : Bool := !p.hasLeft && !p.isShut

/-- Writes bytes; `false` if that is not possible any more. -/
def write (p : Peer) (bs : Bytes) : Peer × Bool :=
  if p.isWriting then ({ p with unread := p.unread ++ bs }, true) else (p, false)

def leave (p : Peer) : Peer := { p with hasLeft := true }

/-- Gives up both directions. -/
def drop (p : Peer) : Peer := { p with hasLeft := true, isGone := true }

/-- The transaction id and the message of a frame, if it can be read. -/
def decode? (f : Frame) : Option (Xid × Message) :=
  match Codec.decode f.header f.body with
  | .ok m => some (f.header.xid, m)
  | .error _ => none

/-- The frames of messages, up to the first that cannot be written. -/
def encodeAll (v : Version) (x : Xid) : List Message → List Bytes
  | [] => []
  | m :: ms =>
    match Codec.encode v x m with
    | .ok frame => frame :: encodeAll v x ms
    | .error _ => []

/-- What a switch writes in answer to a frame. -/
def answers (s : Switch) (f : Frame) : List Bytes :=
  match decode? f with
  | some (x, m) => encodeAll s.profile.version x (s.answer m)
  | none => []

/-- Takes in a frame. -/
def receive (p : Peer) (f : Frame) : Peer :=
  let p := { p with received := p.received ++ [f] }
  match p.switch with
  | none => p
  | some s => (p.write (answers s f).flatten).1

/-- What the controller writes into. To write to a peer that is gone fails. -/
def sink (p : Peer) : Sink := { failAt := if p.isGone then some 0 else none }

/-- Takes in what was written, and learns of the end of the stream. -/
def takeIn (p : Peer) (s : Sink) : Peer :=
  -- the controller writes whole frames, so nothing is left over
  let p := (Frame.splitAll s.taken).1.foldl receive p
  { p with isShut := p.isShut || s.isShut }

/-- Sends a message in the version of its switch; `false` if that is not possible. -/
def send (p : Peer) (x : Xid) (m : Message) : Peer × Bool :=
  match p.switch with
  | none => (p, false)
  | some s =>
    match Codec.encode s.profile.version x m with
    | .error _ => (p, false)
    | .ok frame => p.write frame

/-- Opens a session: its switch says hello. -/
def activate (p : Peer) : Peer × Bool :=
  match p.switch with
  | none => (p, false)
  | some s => p.send 0 s.hello

/-- Sends a message of its own accord, under the next transaction id. -/
def notify (p : Peer) (m : Message) : Peer × Bool :=
  let x := p.lastXid + 1
  { p with lastXid := x }.send x m

/-- The messages that have reached it. -/
def messages (p : Peer) : List (Xid × Message) := p.received.filterMap decode?

/-- How many messages of a type have reached it. -/
def count (p : Peer) (t : MessageType) : Nat := p.messages.countP fun m => m.2.type = t

end Peer

end Southbound
