import Southbound.Controller.Registry
import Southbound.Datapath.Negotiation
import Southbound.Link.Frame
import Southbound.Text.Utf8

/-!
# Sessions

The reading side of a connection. A session negotiates a version, learns the features of the
switch, collects its descriptions, registers the datapath, and from then on feeds messages to the
open requests, the port table and the listeners.
-/

namespace Southbound

/-- Does a session go on after a frame? -/
inductive SessionFate where
  | continues
  | ends
deriving DecidableEq

namespace Controller

/-- Goes on with what a successful write leaves, and ends the session otherwise. -/
def orEnd (c : Controller) (written : Except Failure Controller)
    (next : Controller → Controller × SessionFate) : Controller × SessionFate :=
  match written with
  | .error _ => (c, .ends)
  | .ok c' => next c'

/-- A list of versions as it stands in reasons. -/
def versionsText (vs : List Version) : String :=
  "[" ++ ", ".intercalate (vs.map fun v => s!"{v}") ++ "]"

/-- The error that tells a peer that there is no version to speak with it. -/
def helloFailed (reason : String) : Message := .error { data := Utf8.encode reason }

/-- Tells the peer why there can be no session, if that can be told, and ends it. -/
def refuse (c : Controller) (l : LinkId) (reason : String) : Controller × SessionFate :=
  match Codec.encode c.settings.highestVersion 0 (helloFailed reason) with
  | .error _ => (c, .ends)
  | .ok frame =>
    match c.writeFrame l frame with
    | .error _ => (c, .ends)
    | .ok c' => (c', .ends)

/-- Answers an echo request. -/
def answerEcho (c : Controller) (l : LinkId) (x : Xid) (data : Bytes) :
    Controller × SessionFate :=
  c.orEnd (c.write l x (.echoReply data)) fun c => (c, .continues)

/-! ## Version negotiation -/

/-- Our hello takes the transaction id of the peer's and is written in our greatest version,
whatever version is chosen; what follows is written in the chosen one. -/
def acceptVersion (c : Controller) (l : LinkId) (h : Header) (v : Version) :
    Controller × SessionFate :=
  match Codec.encode c.settings.highestVersion h.xid (.hello c.settings.versions) with
  | .error _ => (c, .ends)
  | .ok frame =>
    -- our own hello does not count among the messages sent
    c.orEnd (c.writeFrame l frame) fun c =>
      let c := c.modifyConnection l fun k => { k with version := v }.enter .basicHandshake
      let (c, x) := c.drawXid
      let c := c.modifySession l fun s => { s with featuresXid := some x }
      c.orEnd (c.write l x .featuresRequest) fun c => (c, .continues)

def onHello (c : Controller) (l : LinkId) (h : Header) (m : Message) : Controller × SessionFate :=
  match m with
  | .hello listed =>
    match negotiate c.settings.versions h.version listed with
    | some v => c.acceptVersion l h v
    | none =>
      let ours := versionsText c.settings.versions
      let theirs := versionsText listed
      c.refuse l s!"no common version: we speak {ours}, peer v{h.version} {theirs}"
  | other => c.refuse l s!"expected hello, got {other.summary}"

/-! ## Features -/

/-- Asks for descriptions, each under a transaction id of its own. -/
def requestDescriptions (c : Controller) (l : LinkId) :
    List DescriptionKind → Controller × SessionFate
  | [] => (c, .continues)
  | kind :: kinds =>
    let (c, x) := c.drawXid
    let c := c.modifySession l fun s => { s with descriptions := s.descriptions.expect x kind }
    match c.write l x (.multipartRequest { kind := kind.multipart }) with
    | .error _ => (c, .ends)
    | .ok c => c.requestDescriptions l kinds

/-- Sends the switch configuration, unless that is left out. -/
def configureSwitch (c : Controller) (l : LinkId) : Controller × Except Failure Unit :=
  if c.settings.suppressSetConfig then (c, .ok ())
  else
    let (c, x) := c.drawXid
    c.writeAll l [(x, .setConfig { missSendLength := c.settings.missSendLength })]

/-- The first connection of a switch: a new datapath, to be registered when it is described. -/
def onMainFeatures (c : Controller) (l : LinkId) (f : SwitchFeatures) : Controller × SessionFate :=
  let dp := Datapath.new f l c.settings.ageOut
  let c := { c with datapaths := c.datapaths.put l dp }
  match c.configureSwitch l with
  | (c, .error _) => (c, .ends)
  | (c, .ok ()) =>
    let c := c.modifyConnection l fun k => k.enter .extendedHandshake
    let c := c.modifySession l fun s => { s with datapath := some l }
    match c.connection? l with
    | none => (c, .ends)
    | some k => c.requestDescriptions l (DescriptionKind.requiredFor k.version)

/-- A further connection of a switch is of use only if the switch has a main one. -/
def onAuxiliaryFeatures (c : Controller) (l : LinkId) : Controller × SessionFate :=
  match c.attach l with
  | none => (c, .ends)
  | some (c, main) =>
    let c := c.modifySession l fun s => { s with datapath := some main }
    (c.modifyConnection l fun k => k.enter .ready, .continues)

def onFeatures (c : Controller) (l : LinkId) (f : SwitchFeatures) : Controller × SessionFate :=
  let c := c.modifyConnection l fun k => k.bind ⟨f.datapathId⟩ f.auxiliaryId
  if f.auxiliaryId = 0 then c.onMainFeatures l f else c.onAuxiliaryFeatures l

/-- Waits for the features reply; an error in its place ends the session. -/
def onBasic (c : Controller) (l : LinkId) (s : Session) (x : Xid) (m : Message) :
    Controller × SessionFate :=
  match m with
  | .echoRequest data => c.answerEcho l x data
  | .featuresReply f => if s.featuresXid = some x then c.onFeatures l f else (c, .continues)
  | .error _ => (c, .ends)
  | _ => (c, .continues)

/-! ## Descriptions -/

/-- Puts what was learnt into the datapath. -/
def describe (d : Descriptions) (dp : Datapath) : Datapath :=
  { dp with
    descriptor := d.descriptor.or dp.descriptor
    ports := match d.ports with
      | some ports => .ofList ports
      | none => dp.ports
    noTableFeatures := dp.noTableFeatures || d.noTableFeatures }

/-- All descriptions are there: the datapath is registered. -/
def finishDescriptions (c : Controller) (l : LinkId) (s : Session) : Controller :=
  match s.datapath with
  | none => c
  | some main =>
    let c := c.modifyDatapath main (describe s.descriptions)
    let c := c.modifySession l fun s => { s with descriptions := s.descriptions.takePorts.1 }
    let c := c.modifyConnection l fun k => k.enter .postHandshake
    c.register main

/-- What a message teaches during the collection of descriptions. -/
def learn (c : Controller) (l : LinkId) (s : Session) (x : Xid) (m : Message) : Controller :=
  match m with
  | .multipartReply r =>
    c.modifySession l fun s => { s with descriptions := (s.descriptions.onReply x r).1 }
  | .error _ => c.modifySession l fun s => { s with descriptions := (s.descriptions.onError x).1 }
  | .portStatus status =>
    match s.datapath with
    | some main => c.modifyDatapath main fun dp => { dp with ports := dp.ports.apply status }
    | none => c
  | _ => c

def onDescription (c : Controller) (l : LinkId) (s : Session) (x : Xid) (m : Message) :
    Controller × SessionFate :=
  match m with
  | .echoRequest data => c.answerEcho l x data
  | m =>
    -- any message may be the last that was missing, even one that teaches nothing
    let c := c.learn l s x m
    match c.link? l with
    | none => (c, .ends)
    | some k =>
      if k.session.descriptions.isComplete then
        (c.finishDescriptions l k.session, .continues)
      else (c, .continues)

/-! ## Service -/

/-- What a port notification means, given the port as it was known. -/
def portEventKind (reason : PortReason) (previous : Option Port) : DatapathEventKind :=
  match reason, previous with
  | .delete, _ => .portRemoved
  | _, none => .portAdded
  | _, some _ => .portChanged

/-- Keeps the port table up to date and tells listeners. -/
def onPortStatus (c : Controller) (dp : Datapath) (s : PortStatus) : Controller :=
  let kind := portEventKind s.reason (dp.ports.get? s.port.number)
  let c := c.modifyDatapath dp.main fun d => { d with ports := d.ports.apply s }
  if dp.isAnnounced then
    c.emit (.datapath { kind, datapath := dp.id, port := some s.port })
  else c

/-- The side effects of notifications, whoever else is told of them. -/
def onNotification (c : Controller) (dp : Datapath) (m : Message) : Controller :=
  match m with
  | .portStatus s => c.onPortStatus dp s
  | .packetIn p => { c with counters := c.counters.countPacketIn p.data.length }
  | _ => c

/-- Hands a message to the listeners; an echo reply that nobody waited for is of no interest. -/
def publish (c : Controller) (k : Connection) (dp : Datapath) (x : Xid) (m : Message) :
    Controller :=
  match m with
  | .echoReply _ => c
  | m =>
    c.emit (.message {
      datapath := dp.id, auxiliary := k.auxiliary, version := k.version, xid := x, message := m })

/-- A message of a switch in service: an echo request is answered, an awaited reply goes to the
request that waits for it, and everything else to the listeners. -/
def onService (c : Controller) (l : LinkId) (k : Link) (x : Xid) (m : Message) :
    Controller × SessionFate :=
  match m with
  | .echoRequest data => c.answerEcho l x data
  | m =>
    match k.session.datapath with
    | none => (c, .continues)
    | some main =>
      match c.datapath? main with
      | none => (c, .continues)
      | some dp =>
        -- the port table and the counters are kept whoever takes the message
        let c := c.onNotification dp m
        match c.datapath? main with
        | none => (c, .continues)
        | some dp =>
          match c.track dp (fun t => t.resolve x m) with
          | (c, true) => (c, .continues)
          | (c, false) => (c.publish k.connection dp x m, .continues)

/-! ## Frames -/

/-- A message in the stage the connection has reached. -/
def onMessage (c : Controller) (l : LinkId) (k : Link) (h : Header) (m : Message) :
    Controller × SessionFate :=
  match k.connection.stage with
  | .connecting | .versionNegotiating => c.onHello l h m
  | .basicHandshake => c.onBasic l k.session h.xid m
  | .extendedHandshake => c.onDescription l k.session h.xid m
  | .postHandshake | .ready => c.onService l k h.xid m
  | .closed | .revoked => (c, .continues)

/-- A frame that cannot be read is fatal in place of a hello, and discarded later. -/
def onUnreadable (c : Controller) (l : LinkId) (k : Link) (e : WireError) :
    Controller × SessionFate :=
  if k.connection.stage = .versionNegotiating then
    c.refuse l s!"unparsable hello: {e.message}"
  else ({ c with counters := c.counters.countParseError }, .continues)

/-- Takes in a frame. -/
def onFrame (c : Controller) (l : LinkId) (f : Frame) : Controller × SessionFate :=
  -- even bytes that mean nothing show that the peer is alive
  let c := c.modifyConnection l fun k => k.touch c.clock
  let c := { c with counters := c.counters.countReceived }
  match c.link? l with
  | none => (c, .ends)
  | some k =>
    match Codec.decode f.header f.body with
    | .error e => c.onUnreadable l k e
    | .ok m => c.onMessage l k f.header m

/-- Takes in a frame and ends the session if it is the last. -/
def handleFrame (c : Controller) (l : LinkId) (f : Frame) : Controller × SessionFate :=
  match c.onFrame l f with
  | (c, .continues) => (c, .continues)
  | (c, .ends) => (c.endSession l, .ends)

/-- Starts the session of a new connection. -/
def accept (c : Controller) (remote : String) : Except Failure (Controller × LinkId) :=
  if c.isShutDown then .error .notListening
  else
    let k := (Connection.new remote c.settings.writerCapacity c.clock).enter .versionNegotiating
    .ok ({ c with links := c.links ++ [{ connection := k }] }, c.links.length)

end Controller

end Southbound
