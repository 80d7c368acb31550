/-!
# Liveness of a connection

A peer that has been silent for too long is probed; each probe gives it some time to answer, and
when all probes are used up it is given up. Times count from any fixed instant, in any unit, and a
difference that would be negative counts as 0.
-/

namespace Southbound

/-- What is to be done about a peer. -/
inductive LivenessAction where
  | alive
  | sendEcho
  | disconnect
deriving DecidableEq

def LivenessAction.label : LivenessAction → String
  | alive => "Alive"
  | sendEcho => "SendEcho"
  | disconnect => "Disconnect"

/-- The limits that a check goes by. -/
structure LivenessLimits where
  /-- Silence after which a peer is probed. -/
  maxIdle : Nat
  /-- Time from one probe to the next. -/
  echoInterval : Nat
  maxAttempts : Nat
deriving DecidableEq

structure Liveness where
  lastSeen : Nat
  /-- No probe before this time. -/
  nextEcho : Option Nat := none
  /-- Probes since the peer was last heard from. -/
  attempts : Nat := 0
deriving DecidableEq

namespace Liveness

def new (now : Nat) : Liveness := { lastSeen := now }

/-- The peer was heard from, which restores the full allowance of probes. -/
def touch (now : Nat) (_ : Liveness) : Liveness := new now

/-- Is it too early for the next probe? -/
def isEarly (l : Liveness) (now : Nat) : Bool :=
  match l.nextEcho with
  | some next => now < next
  | none => false

def check (l : Liveness) (now : Nat) (limits : LivenessLimits) : Liveness × LivenessAction :=
  -- silence too short to matter, or the last probe still has time to be answered
  if now - l.lastSeen < limits.maxIdle ∨ l.isEarly now then (l, .alive)
  else if l.attempts < limits.maxAttempts then
    ({ l with attempts := l.attempts + 1, nextEcho := some (now + limits.echoInterval) }, .sendEcho)
  else (l, .disconnect)

end Liveness

end Southbound
