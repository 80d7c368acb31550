import Southbound.OpenFlow.FlowMatch
import Southbound.OpenFlow.Port
import Southbound.OpenFlow.Version

/-!
# Flow entries

The request that adds, changes or deletes flow entries, the check that one can be sent in a given
version, and the notification that an entry is gone.
-/

namespace Southbound

/-- What a flow request does to the entries it selects. -/
inductive FlowCommand where
  | add
  | modify
  | modifyStrict
  | delete
  | deleteStrict
deriving DecidableEq

namespace FlowCommand

def ofWire? (n : UInt16) : Option FlowCommand :=
  if n = 0 then some add
  else if n = 1 then some modify
  else if n = 2 then some modifyStrict
  else if n = 3 then some delete
  else if n = 4 then some deleteStrict
  else none

def toWire : FlowCommand → UInt16
  | add => 0
  | modify => 1
  | modifyStrict => 2
  | delete => 3
  | deleteStrict => 4

def label : FlowCommand → String
  | add => "Add"
  | modify => "Modify"
  | modifyStrict => "ModifyStrict"
  | delete => "Delete"
  | deleteStrict => "DeleteStrict"

/-- Does the command write entries, as opposed to deleting them? -/
def isWrite : FlowCommand → Bool
  | add | modify | modifyStrict => true
  | delete | deleteStrict => false

/-- A command is read back from its number. -/
@[simp] theorem ofWire?_toWire (c : FlowCommand) : ofWire? c.toWire = some c := by
  cases c <;> rfl

end FlowCommand

/-- Numbers that stand for no table, group or buffer in particular. -/
def allTables : UInt8 := 0xff

def anyGroup : UInt32 := 0xffffffff

/-- The buffer number that says that no packet is buffered. -/
def noBuffer : UInt32 := 0xffffffff

/-- The request to change flow entries. -/
structure FlowMod where
  /-- The version the match and instructions are written for, if they are not good for all. -/
  version : Option Version := none
  cookie : UInt64 := 0
  cookieMask : UInt64 := 0
  table : UInt8 := 0
  command : FlowCommand := .add
  idleTimeout : UInt16 := 0
  hardTimeout : UInt16 := 0
  priority : UInt16 := 0
  buffer : Option UInt32 := none
  outPort : PortNumber := PortNumber.any
  outGroup : UInt32 := anyGroup
  flags : UInt16 := 0
  flowMatch : FlowMatch := .all
  /-- The instructions (OpenFlow 1.3) or actions (OpenFlow 1.0) in wire form. -/
  instructions : Bytes := []
deriving DecidableEq

/-- The length of a match in OpenFlow 1.0. -/
def matchLength10 : Nat := 40

/-- Why a flow cannot be sent to a switch. -/
inductive FlowFault where
  | wrongVersion (built spoken : Version)
  | noSingleTable
  | matchLength (length : Nat)
  | malformedMatch
deriving DecidableEq

def FlowFault.message : FlowFault → String
  | wrongVersion built spoken => s!"built for version {built}, datapath speaks {spoken}"
  | noSingleTable => "add/modify must target a single table"
  | matchLength length => s!"1.0 match must be 40 bytes, got {length}"
  | malformedMatch => "malformed OXM match"

namespace FlowMod

/-- Removes every entry of every table. -/
def deleteAll : FlowMod := { table := allTables, command := .delete }

/-- Can the match be written in version `v`? -/
def checkMatch (v : Version) : FlowMatch → Except FlowFault Unit
  | .all => .ok ()
  | .raw bytes =>
    if v = Version.v10 then
      if bytes.length = matchLength10 then .ok () else .error (.matchLength bytes.length)
    else if v = Version.v13 then
      if Oxm.wellFormed bytes then .ok () else .error .malformedMatch
    else .ok ()

/-- Can the flow be sent to a switch that speaks `v`? The version is looked at first, then the
table, then the match. -/
def validate (f : FlowMod) (v : Version) : Except FlowFault Unit :=
  match f.version with
  | some built =>
    if built = v then rest else .error (.wrongVersion built v)
  | none => rest
where
  rest : Except FlowFault Unit :=
    -- only a deletion can mean every table at once
    if f.command.isWrite ∧ f.table = allTables then .error .noSingleTable
    else checkMatch v f.flowMatch

end FlowMod

/-- The notification that a flow entry is gone. -/
structure FlowRemoved where
  cookie : UInt64 := 0
  priority : UInt16 := 0
  reason : UInt8 := 0
  table : UInt8 := 0
  durationSec : UInt32 := 0
  durationNsec : UInt32 := 0
  idleTimeout : UInt16 := 0
  hardTimeout : UInt16 := 0
  packetCount : UInt64 := 0
  byteCount : UInt64 := 0
  flowMatch : FlowMatch := .all
deriving DecidableEq

end Southbound
