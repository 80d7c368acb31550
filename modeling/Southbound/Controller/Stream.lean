import Southbound.Controller.Session

/-!
# The streams of connections

What a controller does with the bytes that arrive on a connection. A session reads all complete
messages at hand before anything is written.
-/

namespace Southbound.Controller

/-- Has the session of a connection to end before anything else is read? -/
def isCut (c : Controller) (l : LinkId) : Bool := c.isShutDown || c.isClosed l

/-- Reads the complete messages at the front of `bs` and handles them, and returns what is left.
The session ends with a message it cannot go on after, with a length that cannot be right, and at
the end of the stream. -/
def readFrames (c : Controller) (l : LinkId) (hasEnded : Bool) (bs : Bytes) :
    Controller × Bytes :=
  match _h : Frame.scan bs with
  | .whole f rest =>
    match c.handleFrame l f with
    | (c, .ends) => (c, rest)
    | (c, .continues) => c.readFrames l hasEnded rest
  -- where the next message begins can never be told again
  | .bad _ => (c.endSession l, bs)
  | .partly _ => (if hasEnded then c.endSession l else c, bs)
termination_by bs.length
decreasing_by exact Frame.length_scan _h

/-- Serves a connection: ends its session if that is due, and otherwise reads what has arrived. -/
def serve (c : Controller) (l : LinkId) (hasEnded : Bool) (bs : Bytes) : Controller × Bytes :=
  match c.link? l with
  | none => (c, bs)
  | some k =>
    if k.session.isOver then (c, bs)
    else if c.isCut l then (c.endSession l, bs)
    else c.readFrames l hasEnded bs

/-- Is there anything to do for a connection on which `bs` has arrived? -/
def needsService (c : Controller) (l : LinkId) (hasEnded : Bool) (bs : Bytes) : Bool :=
  match c.link? l with
  | none => false
  | some k =>
    !k.session.isOver && (c.isCut l || match Frame.scan bs with
      | .partly _ => hasEnded
      | .bad _ | .whole _ _ => true)

end Southbound.Controller
