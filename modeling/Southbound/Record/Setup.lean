import Southbound.Datapath.Descriptions
import Southbound.Dispatch.Listeners
import Southbound.Policy
import Southbound.Record.Message
import Southbound.Settings
import Southbound.Switch

/-!
# Setups as records

Simulated switches, listeners and endpoints, as they are described to a network that is to be set
up.
-/

namespace Southbound

namespace SwitchProfile

/-- A standard switch, but for the fields that are given. -/
def ofRecord? (r : Record) : Option SwitchProfile := do
  let id : DatapathId := ⟨← Record.orElse 1 Record.asU64? r "dpid"⟩
  let base := standard id (← Record.orElse Version.v13 Record.asU8? r "version")
  return {
    base with
    auxiliaryId := ← r.u8 "aux"
    helloVersions := ← if r.has "hello_versions" then r.each Record.asU8? "hello_versions"
      else some base.helloVersions
    ports := ← if r.has "ports" then r.each Port.ofRecord? "ports" else some base.ports
    descriptor := ← Record.orElse base.descriptor DeviceDescriptor.ofRecord? r "descriptor" }

end SwitchProfile

def SwitchHabits.ofRecord? (r : Record) : Option SwitchHabits := do
  return {
    answersEcho := ← Record.orElse true Record.asBool? r "answer_echo"
    rejectsTableFeatures := ← r.flag "reject_table_features"
    portFragments := ← Record.orElse 1 Record.asNat? r "port_desc_fragments" }

namespace Listener

/-- How a listener takes calls, in a word. -/
def conductName : Conduct → String
  | .completes => "ok"
  | .fails => "err"
  | .panics => "panic"
  | .waits => "block"

def ofRecord? (r : Record) : Option Listener := do
  let conducts := [Conduct.completes, .fails, .panics, .waits]
  return {
    name := ← r.string "tag"
    conduct := ← Record.orElse .completes (Record.asOneOf? conducts conductName) r "behave" }

end Listener

/-- The types that a listener is interested in, all of them unless some are given. -/
def Interest.ofRecord? (r : Record) : Option Interest :=
  if r.has "interest" then (r.each MessageType.ofRecord? "interest").map .only else some .all

/-- All, none, or those that are listed. -/
def Mastership.ofRecord? : Record → Option Mastership
  | .null | .bool true => some .all
  | .bool false => some .none
  | r => do
    return .only ((← (← r.asList?).mapM Record.asU64?).map DatapathId.mk)

def DescriptionKind.ofRecord? : Record → Option DescriptionKind :=
  Record.asOneOf? [.device, .ports, .tableFeatures] label

def Endpoint.ofRecord? (r : Record) : Option Endpoint := r.asText?.bind parse?

end Southbound
