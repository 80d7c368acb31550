import Southbound.Wire.Header
import Southbound.Wire.V10
import Southbound.Wire.V13

/-!
# Messages on the wire

Writes a message with its header, and reads a message from a header and the bytes behind it.
A hello is read in any version, so that versions can be negotiated with a peer that speaks none
of ours.
-/

namespace Southbound.Codec

/-- The greatest length of a message, header included. -/
def maxLength : Nat := 65535

/-- The body of a message in a version that has a codec. -/
def writeBody (v : Version) (m : Message) : Except WireError Bytes :=
  if v = Version.v10 then V10.write m
  else if v = Version.v13 then .ok (V13.write m)
  else .error (.unsupportedVersion v)

/-- The message with its header. -/
def encode (v : Version) (xid : Xid) (m : Message) : Except WireError Bytes :=
  match m.type.toWire? v with
  -- a version without the type, or one that has no codec at all
  | none => .error (.unsupportedMessage v m.type)
  | some number => do
    let body ← writeBody v m
    let length := Header.size + body.length
    if length > maxLength then .error (.tooLong m.type length)
    else .ok ((Header.mk v number (UInt16.ofNat length) xid).encode ++ body)

/-- The type a header announces. Number 0 is a hello in every version there will ever be. -/
def typeOf (h : Header) : Except WireError MessageType :=
  match MessageType.ofWire? h.version h.type with
  | some t => .ok t
  | none =>
    if h.type = 0 then .ok .hello
    else if Version.isSupported h.version then .error (.unsupportedType h.version h.type)
    else .error (.unsupportedVersion h.version)

/-- Reads a body in the version of its header; any other version than those that have a codec
can only announce a hello. -/
def readBody (v : Version) (t : MessageType) (body : Bytes) : Except WireError Message :=
  if v = Version.v10 then V10.read t body
  else if v = Version.v13 then V13.read t body
  else V13.read .hello body

/-- Reads the message that a header announces. Bytes past the announced length do not count. -/
def decode (h : Header) (body : Bytes) : Except WireError Message := do
  let t ← typeOf h
  let announced := body.take h.bodyLength
  -- a length shorter than the header announces an empty body
  if announced.length < h.bodyLength then .error (.truncated h.bodyLength body.length)
  else readBody h.version t announced

end Southbound.Codec
