import Southbound.Datapath.Id
import Southbound.OpenFlow.Port
import Southbound.Wire.Error

/-!
# Failures

What the controller tells its callers when it cannot do what they ask for. Each cause is a
constructor, and its wording is in `Failure.message`.
-/

namespace Southbound

/-- Why a call is refused before anything is done. -/
inductive Refusal where
  /-- A type of message that controllers do not send. -/
  | notForControllers (type : MessageType)
  /-- A flow request on its own: it would leave no way to learn that it was carried out. -/
  | flowWithoutBarrier
  | notMaster (datapath : DatapathId) (type : MessageType)
  | reservedXid
  | emptyBatch
  | companionNotBarrier (summary : String)
  | sharedXid
  | packetInListener
deriving DecidableEq

def Refusal.message : Refusal → String
  | notForControllers type => s!"{type.label} is not a controller-initiated message"
  | flowWithoutBarrier => "FlowMod must be sent with a companion barrier"
  | notMaster datapath type => s!"not master for {datapath.text}, refusing {type.label}"
  | reservedXid => "xid 0 is reserved for unsolicited messages"
  | emptyBatch => "empty batch"
  | companionNotBarrier summary => s!"companion must be a barrier request, got {summary}"
  | sharedXid => "barrier needs its own transaction id"
  | packetInListener => "packet-in events are reserved for the packet sequencer"

/-- Why a connection does not take a frame. -/
inductive SendFault where
  | closed
  | queueFull
  | writerGone
deriving DecidableEq

def SendFault.message : SendFault → String
  | closed => "connection closed"
  | queueFull => "writer queue full"
  | writerGone => "writer gone"

inductive Failure where
  | invalidArgument (refusal : Refusal)
  | notFound (datapath : DatapathId)
  | portNotFound (datapath : DatapathId) (port : PortNumber)
  | sequencerTaken
  | duplicateXid (datapath : DatapathId) (xid : Xid)
  | sendFailed (datapath : DatapathId) (fault : SendFault) (remote : String) (auxiliary : UInt8)
  | serialization (cause : WireError)
  | timeout
  | disconnected (datapath : DatapathId)
  | agedOut (datapath : DatapathId) (xid : Xid)
  | notListening
deriving DecidableEq

namespace Failure

/-- The name of the kind of failure. -/
def label : Failure → String
  | invalidArgument _ => "InvalidArgument"
  | notFound _ => "NotFound"
  | portNotFound .. => "PortNotFound"
  | sequencerTaken => "SequencerAlreadyRegistered"
  | duplicateXid .. => "DuplicateXid"
  | sendFailed .. => "SendFailed"
  | serialization _ => "Serialization"
  | timeout => "Timeout"
  | disconnected _ => "Disconnected"
  | agedOut .. => "AgedOut"
  | notListening => "NotListening"

/-- The wording of a failure. A connection is named by its peer and auxiliary id; the letter `N`
stands in the place of a running number, which differs from run to run. -/
def message : Failure → String
  | invalidArgument refusal => s!"Invalid argument: {refusal.message}"
  | notFound datapath => s!"Datapath {datapath.text} not found"
  | portNotFound datapath port => s!"Port {port} not found on datapath {datapath.text}"
  | sequencerTaken => "A packet sequencer is already registered"
  | duplicateXid datapath xid =>
    s!"Transaction id {xid} already pending on datapath {datapath.text}"
  | sendFailed datapath fault remote auxiliary =>
    s!"Send to {datapath.text} failed: {fault.message} on Connection#N({remote}, aux {auxiliary})"
  | serialization cause => s!"Serialization error: {cause.message}"
  | timeout => "Timed out waiting for a reply"
  | disconnected datapath => s!"Datapath {datapath.text} disconnected"
  | agedOut datapath xid => s!"Request {xid} on datapath {datapath.text} aged out"
  | notListening => "Controller is not accepting connections"

/-- Was the call refused for what it asked, with nothing done? -/
def isInvalidArgument : Failure → Bool
  | invalidArgument _ => true
  | _ => false

end Failure

end Southbound
