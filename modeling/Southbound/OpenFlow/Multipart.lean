import Southbound.OpenFlow.Port

/-!
# Multipart exchanges

Requests for descriptions and statistics, and their replies. A reply may come in fragments, all
but the last of which carry the flag "more"; `MultipartReply.merge` puts two of them together.
-/

namespace Southbound

/-- What a multipart request asks for. -/
inductive MultipartKind where
  | desc
  | flow
  | aggregate
  | table
  | portStats
  | queue
  | group
  | groupDesc
  | groupFeatures
  | meter
  | meterConfig
  | meterFeatures
  | tableFeatures
  | portDesc
  | experimenter
deriving DecidableEq

namespace MultipartKind

def all : List MultipartKind :=
  [desc, flow, aggregate, table, portStats, queue, group, groupDesc, groupFeatures, meter,
    meterConfig, meterFeatures, tableFeatures, portDesc, experimenter]

def label : MultipartKind → String
  | desc => "Desc"
  | flow => "Flow"
  | aggregate => "Aggregate"
  | table => "Table"
  | portStats => "PortStats"
  | queue => "Queue"
  | group => "Group"
  | groupDesc => "GroupDesc"
  | groupFeatures => "GroupFeatures"
  | meter => "Meter"
  | meterConfig => "MeterConfig"
  | meterFeatures => "MeterFeatures"
  | tableFeatures => "TableFeatures"
  | portDesc => "PortDesc"
  | experimenter => "Experimenter"

/-- The number of a kind in OpenFlow 1.3. -/
def toWire13 : MultipartKind → UInt16
  | desc => 0
  | flow => 1
  | aggregate => 2
  | table => 3
  | portStats => 4
  | queue => 5
  | group => 6
  | groupDesc => 7
  | groupFeatures => 8
  | meter => 9
  | meterConfig => 10
  | meterFeatures => 11
  | tableFeatures => 12
  | portDesc => 13
  | experimenter => 0xffff

def ofWire13? (n : UInt16) : Option MultipartKind := all.find? (fun k => k.toWire13 = n)

/-- Is the kind among the statistics of OpenFlow 1.0? Those that are have the number they have in
OpenFlow 1.3. -/
def isStats10 : MultipartKind → Bool
  | desc | flow | aggregate | table | portStats | queue | experimenter => true
  | _ => false

/-- The number of a kind in OpenFlow 1.0, if that version has it. -/
def toWire10? (k : MultipartKind) : Option UInt16 := if k.isStats10 then some k.toWire13 else none

def ofWire10? (n : UInt16) : Option MultipartKind := (ofWire13? n).filter isStats10

/-- In 1.3 every kind is read back from its number. -/
@[simp] theorem ofWire13?_toWire13 (k : MultipartKind) : ofWire13? k.toWire13 = some k := by
  cases k <;> rfl

/-- In 1.0 a kind is read back from its number, if it has one there. -/
theorem ofWire10?_toWire10? {k : MultipartKind} {n : UInt16} (h : k.toWire10? = some n) :
    ofWire10? n = some k := by
  unfold toWire10? at h
  split at h
  · next hk => rw [← Option.some.inj h, ofWire10?, ofWire13?_toWire13]; simp [hk]
  · simp at h

end MultipartKind

structure MultipartRequest where
  kind : MultipartKind
  flags : UInt16 := 0
  body : Bytes := []
deriving DecidableEq

/-- How a switch describes itself. -/
structure DeviceDescriptor where
  manufacturer : String := ""
  hardware : String := ""
  software : String := ""
  serialNumber : String := ""
  description : String := ""
deriving DecidableEq

inductive MultipartBody where
  | desc (descriptor : DeviceDescriptor)
  | ports (ports : List Port)
  /-- Any other body, in wire form. -/
  | raw (bytes : Bytes)
deriving DecidableEq

structure MultipartReply where
  kind : MultipartKind
  flags : UInt16 := 0
  body : MultipartBody := .raw []
deriving DecidableEq

namespace MultipartBody

/-- Lists of ports and raw bytes are put together; of any other two bodies the later one stays. -/
def append : MultipartBody → MultipartBody → MultipartBody
  | .ports ps, .ports qs => .ports (ps ++ qs)
  | .raw bs, .raw cs => .raw (bs ++ cs)
  | _, last => last

end MultipartBody

namespace MultipartReply

/-- The flag that more fragments follow. -/
def moreFlag : UInt16 := 1

/-- Do more fragments follow? -/
def hasMore (r : MultipartReply) : Bool := r.flags &&& moreFlag != 0

/-- A fragment with the next one of the same reply: the bodies put together, under the kind and
the flags of the later fragment. -/
def merge (r next : MultipartReply) : MultipartReply :=
  { next with body := r.body.append next.body }

end MultipartReply

end Southbound
