import Southbound.Controller.State
import Southbound.Dispatch.Listeners
import Southbound.Record.Message

/-!
# Reports as records

What a controller has to say, apart from messages: failures, the state of requests, what there is
to see of datapaths, the calls of listeners, counters and settings.
-/

namespace Southbound

/-! ## Failures and requests -/

/-- A kind of error and its wording. -/
def errorEntries (label message : String) : List (String × Record) :=
  [("error", .text label), ("message", .text message)]

def WireError.toRecord (e : WireError) : Record := .fields (errorEntries e.label e.message)

namespace Failure

/-- A message that could not be written is told with the reason. -/
def entries : Failure → List (String × Record)
  | .serialization cause =>
    let e := serialization cause
    ("cause", .text cause.label) :: errorEntries e.label e.message
  | e => errorEntries e.label e.message

def toRecord (e : Failure) : Record := .fields e.entries

/-- A failed call is told with whether anything was done. -/
def toCallRecord (e : Failure) : Record :=
  .fields (("invalid_argument", .bool e.isInvalidArgument) :: e.entries)

end Failure

namespace Outcome

/-- The state and, if there is one, the outcome. -/
def entries : Option Outcome → List (String × Record)
  | none => [("state", .text "Pending")]
  | some o => [("state", .text o.label), ("ok", .bool o.isSuccess)] ++
    match o with
    | .reply m => [("reply", m.toRecord)]
    | .confirmed => []
    | .refused e => [("protocol_error", e.toRecord)]
    | .failed f => [("exception", f.toRecord)]

end Outcome

def Request.entries (r : Request) : List (String × Record) :=
  ("debug", .text r.text) :: Outcome.entries r.outcome

def Request.toRecord (r : Request) : Record := .fields r.entries

/-! ## Datapaths and listeners -/

namespace DatapathInfo

def toRecord (i : DatapathInfo) : Record := .fields [
  ("dpid", .text i.id.text), ("version", .ofU8 i.version), ("remote", .text i.remote),
  ("num_buffers", .ofU32 i.numBuffers), ("num_tables", .ofU8 i.numTables),
  ("capabilities", .ofU32 i.capabilities),
  ("descriptor", .ofOption DeviceDescriptor.toRecord i.descriptor),
  ("device_type", .ofOption .text i.deviceType), ("ports", .ofList Port.toRecord i.ports),
  ("auxiliary_ids", .ofList .ofU8 i.auxiliaryIds),
  ("supports_table_features", .bool i.supportsTableFeatures), ("ready", .bool i.isReady)]

/-- One line of a list of datapaths. -/
def toLine (i : DatapathInfo) : Record :=
  .list [.text i.id.text, .ofU8 i.version, .text i.remote, .bool i.isReady]

/-- What is told of a datapath with an event. -/
def toEventRecord (i : DatapathInfo) : Record := .fields [
  ("version", .ofU8 i.version), ("ready", .bool i.isReady),
  ("device_type", .ofOption .text i.deviceType), ("aux", .ofList .ofU8 i.auxiliaryIds),
  ("ports", .ofList (fun p => .ofU32 p.number) i.ports)]

end DatapathInfo

/-- A call of a listener: whom it went to, and what it was about. -/
def Delivery.toRecord (d : Delivery) : Record :=
  .fields (("to", .text d.listener.name) :: match d.event with
    | .message e => [
      ("as", .text (if d.isSequencer then "sequencer" else "listener")),
      ("message", .text e.message.summary), ("code", .text e.message.type.label),
      ("dpid", .text e.datapath.text), ("aux", .ofU8 e.auxiliary), ("version", .ofU8 e.version),
      ("xid", .ofU32 e.xid)]
    | .datapath e => [
      ("event", .text e.kind.label), ("dpid", .text e.datapath.text),
      ("info", .ofOption DatapathInfo.toEventRecord e.info),
      ("port", .ofOption Port.toRecord e.port)])

/-! ## Counters and settings -/

def Counters.toRecord (c : Counters) : Record := .fields [
  ("packet_in_count", .ofNat c.packetIns), ("packet_in_bytes", .ofU64 c.packetInBytes),
  ("packet_out_count", .ofNat c.packetOuts), ("packet_out_bytes", .ofU64 c.packetOutBytes),
  ("messages_rx", .ofNat c.received), ("messages_tx", .ofNat c.sent),
  ("dropped_events", .ofNat c.droppedEvents), ("parse_errors", .ofNat c.parseErrors)]

def Settings.toRecord (s : Settings) : Record := .fields [
  ("listen_addresses", .ofList (fun e => .text e.text) s.listenAddresses),
  ("worker_count", .ofNat s.workers), ("idle_check_ms", .ofWide s.idleCheck),
  ("max_idle_ms", .ofWide s.maxIdle), ("echo_interval_ms", .ofWide s.echoInterval),
  ("max_echo_attempts", .ofNat s.maxEchoAttempts), ("pending_age_out_ms", .ofWide s.ageOut),
  ("pending_sweep_ms", .ofWide s.ageSweep), ("hybrid_mode", .bool s.hybridMode),
  ("suppress_set_config", .bool s.suppressSetConfig), ("miss_send_len", .ofU16 s.missSendLength),
  ("listener_queue_capacity", .ofNat s.listenerCapacity),
  ("writer_queue_capacity", .ofNat s.writerCapacity),
  ("barrier_timeout_ms", .ofWide s.barrierTimeout), ("versions", .ofList .ofU8 s.versions),
  ("highest_version", .ofU8 s.highestVersion), ("zombie_deadline_ms", .ofWide s.zombieDeadline)]

/-- What a controller is like at the moment. -/
def Controller.status (c : Controller) : Record := .fields [
  ("connections", .ofNat c.openLinks.length), ("hybrid", .bool c.settings.hybridMode),
  ("versions", .ofList .ofU8 c.settings.versions)]

end Southbound
