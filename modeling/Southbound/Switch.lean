import Southbound.Bytes.Chunks
import Southbound.Datapath.Id
import Southbound.OpenFlow.Message

/-!
# Simulated switches

A switch that exists only as a description of itself and answers the requests of a controller by
it. It answers one message at a time and remembers nothing, so its answers are a function of the
request.
-/

namespace Southbound

/-- What a simulated switch is and has. -/
structure SwitchProfile where
  id : DatapathId
  version : Version := Version.v13
  /-- The versions its hello lists; a hello without a list if there are none. -/
  helloVersions : List Version := []
  auxiliaryId : UInt8 := 0
  ports : List Port := []
  descriptor : DeviceDescriptor := {}
deriving DecidableEq

namespace SwitchProfile

/-- Sixteen hexadecimal digits. -/
def serialNumber (d : DatapathId) : String := Hex.encode d.toBytes

/-- A switch with two ports. Its hello lists versions if its version has such lists. -/
def standard (id : DatapathId) (version : Version) : SwitchProfile where
  id := id
  version := version
  helloVersions := if version ≥ Version.v13 then [Version.v10, version] else []
  ports := [{ number := 1, name := "eth1" }, { number := 2, name := "eth2" }]
  descriptor := {
    manufacturer := "Mock Networks", hardware := "MS-1", software := "1.0"
    serialNumber := serialNumber id, description := "mock switch" }

/-- What the switch says about itself first of all. Before OpenFlow 1.3 that includes its ports. -/
def features (p : SwitchProfile) : SwitchFeatures where
  datapathId := p.id.value
  numBuffers := 256
  numTables := 8
  auxiliaryId := p.auxiliaryId
  ports := if p.version < Version.v13 then p.ports else []

end SwitchProfile

/-- How a simulated switch behaves. -/
structure SwitchHabits where
  answersEcho : Bool := true
  /-- It refuses to describe its table features. -/
  rejectsTableFeatures : Bool := false
  /-- Into how many fragments it breaks the description of its ports, at most. -/
  portFragments : Nat := 1
deriving DecidableEq

/-- A simulated switch. -/
structure Switch where
  profile : SwitchProfile
  habits : SwitchHabits := {}
deriving DecidableEq

namespace Switch

/-- How many ports go into a fragment: as few as the number of fragments allows, but at least
one. -/
def portsPerFragment (s : Switch) : Nat :=
  -- rounded up, so that no more fragments are needed
  let fragments := max s.habits.portFragments 1
  max ((s.profile.ports.length + fragments - 1) / fragments) 1

/-- A fragment of a description of ports. -/
def portFragment (ports : List Port) (isLast : Bool) : Message :=
  .multipartReply {
    kind := .portDesc, flags := if isLast then 0 else MultipartReply.moreFlag
    body := .ports ports }

/-- Announces more with every fragment but the last. -/
def portFragments : List (List Port) → List Message
  | [] => []
  | [ports] => [portFragment ports true]
  | ports :: more => portFragment ports false :: portFragments more

/-- The description of the ports; a switch without ports sends none. -/
def describePorts (s : Switch) : List Message :=
  portFragments (chunks s.portsPerFragment s.profile.ports)

/-- The refusal of a request. -/
def refusal : Message := .error { kind := ErrorMessage.badRequest, code := 1 }

/-- The answer to a multipart request: an empty one to requests for anything but descriptions. -/
def describe (s : Switch) (kind : MultipartKind) : List Message :=
  match kind with
  | .desc => [.multipartReply { kind, body := .desc s.profile.descriptor }]
  | .portDesc => s.describePorts
  | .tableFeatures =>
    if s.habits.rejectsTableFeatures then [refusal] else [.multipartReply { kind }]
  | kind => [.multipartReply { kind }]

/-- The messages that answer a message, all under its transaction id. -/
def answer (s : Switch) (m : Message) : List Message :=
  match m with
  | .featuresRequest => [.featuresReply s.profile.features]
  | .echoRequest data => if s.habits.answersEcho then [.echoReply data] else []
  | .barrierRequest => [.barrierReply]
  | .multipartRequest r => s.describe r.kind
  | _ => []

/-- The hello with which a switch opens a session. -/
def hello (s : Switch) : Message := .hello s.profile.helloVersions

end Switch

end Southbound
