import Southbound.Keyed
import Southbound.OpenFlow.Multipart
import Southbound.OpenFlow.Version

/-!
# Descriptions

Before a switch is put to use it is asked for a number of descriptions at once, each request with
a transaction id of its own. This is the state of those exchanges: which are still open, and what
has been learnt.
-/

namespace Southbound

/-- What is asked for. -/
inductive DescriptionKind where
  | device
  | ports
  | tableFeatures
deriving DecidableEq

namespace DescriptionKind

def label : DescriptionKind → String
  | device => "Device"
  | ports => "Ports"
  | tableFeatures => "TableFeatures"

/-- The kind of multipart request that asks for it. -/
def multipart : DescriptionKind → MultipartKind
  | device => .desc
  | ports => .portDesc
  | tableFeatures => .tableFeatures

/-- What a switch of version `v` is asked for. Before OpenFlow 1.3 the features reply holds the
ports, and there are no table features. -/
def requiredFor (v : Version) : List DescriptionKind :=
  if v ≥ Version.v13 then [device, ports, tableFeatures] else [device]

end DescriptionKind

structure Descriptions where
  /-- The open exchanges. -/
  outstanding : Keyed Xid DescriptionKind := []
  descriptor : Option DeviceDescriptor := none
  /-- The ports described so far; `none` before the first description. -/
  ports : Option (List Port) := none
  /-- The switch refused to describe its table features. -/
  noTableFeatures : Bool := false
deriving DecidableEq

namespace Descriptions

def expect (d : Descriptions) (xid : Xid) (kind : DescriptionKind) : Descriptions :=
  { d with outstanding := d.outstanding.put xid kind }

def isExpecting (d : Descriptions) (xid : Xid) : Bool := d.outstanding.has xid

def isComplete (d : Descriptions) : Bool := d.outstanding.isEmpty

/-- Closes an exchange. -/
def close (d : Descriptions) (xid : Xid) : Descriptions :=
  { d with outstanding := d.outstanding.erase xid }

/-- Learns from a body what the exchange asked for. A body of another kind teaches nothing. -/
def learn (d : Descriptions) (kind : DescriptionKind) (body : MultipartBody) : Descriptions :=
  match kind, body with
  | .device, .desc descriptor => { d with descriptor := some descriptor }
  | .ports, .ports more => { d with ports := some (d.ports.getD [] ++ more) }
  | _, _ => d

/-- Takes a reply; `false` if its transaction id belongs to no open exchange. An exchange ends
with the reply that announces no more. -/
def onReply (d : Descriptions) (xid : Xid) (reply : MultipartReply) : Descriptions × Bool :=
  match d.outstanding.find? xid with
  | none => (d, false)
  | some kind =>
    let learnt := d.learn kind reply.body
    -- even a body of the wrong kind ends the exchange
    (if reply.hasMore then learnt else learnt.close xid, true)

/-- Takes an error, which ends its exchange, and says which one that was. -/
def onError (d : Descriptions) (xid : Xid) : Descriptions × Option DescriptionKind :=
  match d.outstanding.find? xid with
  | none => (d, none)
  | some kind =>
    let closed := d.close xid
    (if kind = .tableFeatures then { closed with noTableFeatures := true } else closed, some kind)

/-- Hands over the ports and forgets them. -/
def takePorts (d : Descriptions) : Descriptions × Option (List Port) :=
  ({ d with ports := none }, d.ports)

end Descriptions

end Southbound
