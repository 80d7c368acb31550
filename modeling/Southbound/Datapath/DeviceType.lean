import Southbound.OpenFlow.Multipart
import Southbound.Text.Blank

/-!
# Device types

The name of a kind of device, made from what the device says about its maker and hardware.
-/

namespace Southbound.DeviceType

def unknown : String := "unknown"

/-- Maker and hardware without blanks around them, parted by a slash; unknown if neither is
given. -/
def resolve (descriptor : Option DeviceDescriptor) : String :=
  match descriptor with
  | none => unknown
  | some d =>
    if d.manufacturer.isEmpty && d.hardware.isEmpty then unknown
    else Blank.trim d.manufacturer ++ "/" ++ Blank.trim d.hardware

end Southbound.DeviceType
