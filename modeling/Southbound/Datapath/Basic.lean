import Southbound.Datapath.PortTable
import Southbound.Link.Connection
import Southbound.Request.Table

/-!
# Datapaths

A switch that has introduced itself: what it is and has, its connections, its ports and its open
requests. Connections are named by their place in the order in which they were made.
-/

namespace Southbound

/-- Names a connection among all ever made. -/
abbrev LinkId := Nat

/-- Where the installation of initial flows stands. -/
inductive Provisioning where
  | notStarted
  | submitted
  /-- Called off: it can never make the datapath ready. -/
  | cancelled
deriving DecidableEq

structure Datapath where
  id : DatapathId
  features : SwitchFeatures
  main : LinkId
  /-- The auxiliary connections under their ids. -/
  auxiliaries : Keyed UInt8 LinkId := []
  ports : PortTable := {}
  requests : RequestTable
  descriptor : Option DeviceDescriptor := none
  deviceType : Option String := none
  noTableFeatures : Bool := false
  /-- Listeners have been told of it. -/
  isAnnounced : Bool := false
  isReady : Bool := false
  provisioning : Provisioning := .notStarted
deriving DecidableEq

/-- What callers and listeners get to see of a datapath. -/
structure DatapathInfo where
  id : DatapathId
  version : Version
  remote : String
  numBuffers : UInt32
  numTables : UInt8
  capabilities : UInt32
  descriptor : Option DeviceDescriptor
  deviceType : Option String
  ports : List Port
  auxiliaryIds : List UInt8
  supportsTableFeatures : Bool
  isReady : Bool
deriving DecidableEq

namespace Datapath

/-- A datapath whose features were received on connection `main`. -/
def new (features : SwitchFeatures) (main : LinkId) (ageOut : Nat) : Datapath where
  id := ⟨features.datapathId⟩
  features := features
  main := main
  ports := .ofList features.ports
  requests := { datapath := ⟨features.datapathId⟩, ageOut }

/-- Attaches an auxiliary connection; the one it replaces, if any, comes with the result. -/
def attach (d : Datapath) (id : UInt8) (link : LinkId) : Datapath × Option LinkId :=
  ({ d with auxiliaries := d.auxiliaries.put id link }, d.auxiliaries.find? id)

/-- Detaches a connection if it is still the one under its id. -/
def detach (d : Datapath) (id : UInt8) (link : LinkId) : Datapath :=
  if d.auxiliaries.find? id = some link then { d with auxiliaries := d.auxiliaries.erase id }
  else d

/-- The connection for an auxiliary id: the one attached under it if that is still open, and the
main connection otherwise. -/
def select (d : Datapath) (isClosed : LinkId → Bool) (id : UInt8) : LinkId :=
  if id = 0 then d.main
  else match d.auxiliaries.find? id with
    | some link => if isClosed link then d.main else link
    | none => d.main

/-- What there is to see, given the main connection. -/
def info (d : Datapath) (main : Connection) : DatapathInfo where
  id := d.id
  version := main.version
  remote := main.remote
  numBuffers := d.features.numBuffers
  numTables := d.features.numTables
  capabilities := d.features.capabilities
  descriptor := d.descriptor
  deviceType := d.deviceType
  ports := d.ports.toList
  auxiliaryIds := d.auxiliaries.keys
  supportsTableFeatures := !d.noTableFeatures
  isReady := d.isReady

end Datapath

end Southbound
