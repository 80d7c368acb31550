import Southbound.Keyed
import Southbound.OpenFlow.Port

/-!
# Port tables

The ports of a switch in the order of their numbers, filled from a description and kept up to date
by port notifications.
-/

namespace Southbound

structure PortTable where
  ports : Keyed PortNumber Port := []
deriving DecidableEq

namespace PortTable

def get? (t : PortTable) (n : PortNumber) : Option Port := t.ports.find? n

/-- The ports in the order of their numbers. -/
def toList (t : PortTable) : List Port := t.ports.values

def size (t : PortTable) : Nat := t.ports.length

def insert (t : PortTable) (p : Port) : PortTable := ⟨t.ports.put p.number p⟩

def erase (t : PortTable) (n : PortNumber) : PortTable := ⟨t.ports.erase n⟩

/-- The table of a list of ports; of two with the same number the later one counts. -/
def ofList (ports : List Port) : PortTable := ports.foldl insert {}

/-- The table after a notification. -/
def apply (t : PortTable) (s : PortStatus) : PortTable :=
  match s.reason with
  | .delete => t.erase s.port.number
  | .add | .modify => t.insert s.port

/-- A port is found under its number, and the others are found as before. -/
@[simp] theorem get?_insert (t : PortTable) (p : Port) (n : PortNumber) :
    (t.insert p).get? n = if n = p.number then some p else t.get? n :=
  Keyed.find?_put p.number n p t.ports

/-- No port is found under a number that was erased, and the others are found as before. -/
@[simp] theorem get?_erase (t : PortTable) (m n : PortNumber) :
    (t.erase m).get? n = if n = m then none else t.get? n :=
  Keyed.find?_erase m n t.ports

end PortTable

end Southbound
