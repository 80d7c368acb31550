import Southbound.Text.Hex

/-!
# Datapath ids

The 64-bit number a switch goes by, written as eight colon-separated bytes.
-/

namespace Southbound

structure DatapathId where
  value : UInt64 := 0
deriving DecidableEq

namespace DatapathId

instance : LT DatapathId := ⟨fun a b => a.value < b.value⟩

instance : DecidableLT DatapathId := fun a b => inferInstanceAs (Decidable (a.value < b.value))

/-- The bytes of the number, most significant first. -/
def toBytes (d : DatapathId) : Bytes := BigEndian.ofNat 8 d.value.toNat

def text (d : DatapathId) : String :=
  ":".intercalate (d.toBytes.map fun b => String.ofList (Hex.ofByte b))

end DatapathId

end Southbound
