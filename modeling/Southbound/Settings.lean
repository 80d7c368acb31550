import Southbound.Endpoint
import Southbound.OpenFlow.Version

/-!
# Settings

The configuration of a controller, fixed once it is built. All times are in milliseconds.
-/

namespace Southbound

structure Settings where
  listenAddresses : List Endpoint := [Endpoint.everywhere]
  /-- How many workers run listeners. -/
  workers : Nat := 4
  idleCheck : Nat := 500
  /-- Silence after which a connection is probed. -/
  maxIdle : Nat := 5000
  /-- Time from one probe to the next. -/
  echoInterval : Nat := 5000
  maxEchoAttempts : Nat := 5
  /-- How long a request may stay open. -/
  ageOut : Nat := 120000
  ageSweep : Nat := 10000
  hybridMode : Bool := false
  /-- Leave the switch configuration alone during the handshake. -/
  suppressSetConfig : Bool := false
  missSendLength : UInt16 := 0xffff
  /-- How many messages may wait for a worker before new ones are dropped. -/
  listenerCapacity : Nat := 2000
  /-- How many frames may wait for a writer. -/
  writerCapacity : Nat := 1000
  /-- How long the confirmation of initial flows is waited for. -/
  barrierTimeout : Nat := 5000
  /-- The versions offered to a peer, in ascending order. -/
  versions : List Version := Version.supported
deriving DecidableEq

namespace Settings

def withListenAddresses (s : Settings) (addresses : List Endpoint) : Settings :=
  { s with listenAddresses := addresses }

/-- There is always one worker. -/
def withWorkers (s : Settings) (count : Nat) : Settings :=
  { s with workers := max count 1 }

def withIdleDetection (s : Settings) (check maxIdle echoInterval attempts : Nat) : Settings :=
  { s with idleCheck := check, maxIdle, echoInterval, maxEchoAttempts := attempts }

def withAgeOut (s : Settings) (ageOut sweep : Nat) : Settings :=
  { s with ageOut, ageSweep := sweep }

/-- Offers each of the versions once, in ascending order. -/
def withVersions (s : Settings) (versions : List Version) : Settings :=
  { s with versions := ((List.range 256).map UInt8.ofNat).filter versions.contains }

/-- The greatest version offered, 0 if none is. -/
def highestVersion (s : Settings) : Version := s.versions.getLast?.getD 0

/-- How long a silent peer can stay connected at most. -/
def zombieDeadline (s : Settings) : Nat :=
  s.maxIdle + s.echoInterval * s.maxEchoAttempts + s.idleCheck

end Settings

end Southbound
