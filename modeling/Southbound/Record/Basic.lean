import Southbound.Text.Hex

/-!
# Records

Structured values: what messages and reports look like to programs that do not speak the wire
format. A record is read field by field; a field that is not there counts as zero, empty, false or
absent, and a field that cannot be what it has to be makes the whole reading fail.
-/

namespace Southbound

inductive Record where
  | null
  | bool (b : Bool)
  | number (n : Int)
  | text (s : String)
  | list (items : List Record)
  | fields (entries : List (String × Record))
deriving Inhabited

namespace Record

/-! ## Writing -/

def ofNat (n : Nat) : Record := number n

def ofU8 (n : UInt8) : Record := ofNat n.toNat

def ofU16 (n : UInt16) : Record := ofNat n.toNat

def ofU32 (n : UInt32) : Record := ofNat n.toNat

/-- A number that may be too great for other programs is written as decimal text. -/
def ofWide (n : Nat) : Record := text (toString n)

def ofU64 (n : UInt64) : Record := ofWide n.toNat

def ofBytes (bs : Bytes) : Record := text (Hex.encode bs)

/-- What is absent is written as null. -/
def ofOption {α : Type} (f : α → Record) : Option α → Record
  | some a => f a
  | none => null

def ofList {α : Type} (f : α → Record) (xs : List α) : Record := list (xs.map f)

/-! ## Reading -/

/-- The field named `k`, null if there is none. -/
def get (r : Record) (k : String) : Record :=
  match r with
  | fields entries => (entries.lookup k).getD null
  | _ => null

def isNull : Record → Bool
  | null => true
  | _ => false

def has (r : Record) (k : String) : Bool := !(r.get k).isNull

/-- A number, which may be given as decimal text. -/
def asInt? : Record → Option Int
  | null => some 0
  | number n => some n
  | text s => s.toInt?
  | _ => none

/-- A number from 0 up to but not including `limit`. -/
def asBelow? (limit : Nat) (r : Record) : Option Nat := do
  match ← r.asInt? with
  | .ofNat n => if n < limit then some n else none
  | .negSucc _ => none

def asNat? (r : Record) : Option Nat := do
  match ← r.asInt? with
  | .ofNat n => some n
  | .negSucc _ => none

def asU8? (r : Record) : Option UInt8 := (r.asBelow? UInt8.size).map UInt8.ofNat

def asU16? (r : Record) : Option UInt16 := (r.asBelow? UInt16.size).map UInt16.ofNat

def asU32? (r : Record) : Option UInt32 := (r.asBelow? UInt32.size).map UInt32.ofNat

def asU64? (r : Record) : Option UInt64 := (r.asBelow? UInt64.size).map UInt64.ofNat

def asText? : Record → Option String
  | null => some ""
  | text s => some s
  | _ => none

def asBool? : Record → Option Bool
  | null => some false
  | bool b => some b
  | _ => none

def asList? : Record → Option (List Record)
  | null => some []
  | list items => some items
  | _ => none

/-- The name of one of `all`, as `label` gives it. -/
def asOneOf? {α : Type} (all : List α) (label : α → String) (r : Record) : Option α := do
  let name ← r.asText?
  all.find? fun a => label a = name

mutual

/-- Bytes are given in hexadecimal, as a piece and how often it is repeated, or in parts. -/
def asBytes? : Record → Option Bytes
  | null => some []
  | text s => Hex.decode? s
  | list items => partsBytes? items
  | r => do
    let piece ← Hex.decode? (← (r.get "repeat").asText?)
    return (List.replicate (← (r.get "count").asNat?) piece).flatten

def partsBytes? : List Record → Option Bytes
  | [] => some []
  | r :: rs => do return (← r.asBytes?) ++ (← partsBytes? rs)

end

/-- A field if it is there, and `default` otherwise. -/
def orElse {α : Type} (default : α) (read : Record → Option α) (r : Record) (k : String) :
    Option α :=
  if r.has k then read (r.get k) else some default

/-- A field that need not be there. -/
def optional {α : Type} (read : Record → Option α) (r : Record) (k : String) :
    Option (Option α) :=
  if r.has k then (read (r.get k)).map some else some none

def each {α : Type} (read : Record → Option α) (r : Record) (k : String) : Option (List α) := do
  (← (r.get k).asList?).mapM read

def nat (r : Record) (k : String) : Option Nat := (r.get k).asNat?

def u8 (r : Record) (k : String) : Option UInt8 := (r.get k).asU8?

def u16 (r : Record) (k : String) : Option UInt16 := (r.get k).asU16?

def u32 (r : Record) (k : String) : Option UInt32 := (r.get k).asU32?

def u64 (r : Record) (k : String) : Option UInt64 := (r.get k).asU64?

def string (r : Record) (k : String) : Option String := (r.get k).asText?

def flag (r : Record) (k : String) : Option Bool := (r.get k).asBool?

def bytes (r : Record) (k : String) : Option Bytes := (r.get k).asBytes?

end Record

end Southbound
