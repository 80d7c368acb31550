import Southbound.OpenFlow.Message
import Southbound.Wire.FixedText

/-!
# Parts that look the same in every version

The device descriptor, the error body, the switch configuration, and the optional buffer number.
-/

namespace Southbound

namespace Write

def deviceDescriptor (d : DeviceDescriptor) : Bytes :=
  FixedText.encode 256 d.manufacturer ++ FixedText.encode 256 d.hardware ++
    FixedText.encode 256 d.software ++ FixedText.encode 32 d.serialNumber ++
    FixedText.encode 256 d.description

def errorMessage (e : ErrorMessage) : Bytes := u16 e.kind ++ u16 e.code ++ e.data

def switchConfig (c : SwitchConfig) : Bytes := u16 c.flags ++ u16 c.missSendLength

/-- The buffer number, or the number that says that there is no buffer. -/
def buffer (b : Option UInt32) : Bytes := u32 (b.getD noBuffer)

end Write

namespace Reader

def deviceDescriptor : Reader DeviceDescriptor := do
  return {
    manufacturer := ← FixedText.read 256
    hardware := ← FixedText.read 256
    software := ← FixedText.read 256
    serialNumber := ← FixedText.read 32
    description := ← FixedText.read 256 }

def errorMessage : Reader ErrorMessage := do
  return { kind := ← u16, code := ← u16, data := ← rest }

def switchConfig : Reader SwitchConfig := do
  return { flags := ← u16, missSendLength := ← u16 }

def buffer : Reader (Option UInt32) := do
  let n ← u32
  return if n = noBuffer then none else some n

/-- The reason of a port status. -/
def portReason : Reader PortReason := do
  let n ← u8
  expect (PortReason.ofWire? n) (toString n) "reason" "PortStatus"

end Reader

end Southbound
