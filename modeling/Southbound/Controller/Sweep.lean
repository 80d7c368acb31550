import Southbound.Controller.Registry

/-!
# Sweeps

What a controller does from time to time: it probes connections that have been silent for too long
and closes those that do not answer, and it gives up requests that have been open for too long.
-/

namespace Southbound.Controller

/-- The limits that liveness checks go by. -/
def livenessLimits (c : Controller) : LivenessLimits where
  maxIdle := c.settings.maxIdle
  echoInterval := c.settings.echoInterval
  maxAttempts := c.settings.maxEchoAttempts

/-- Checks one connection. Before a version is negotiated a probe is due but not sent. -/
def checkLink (c : Controller) (l : LinkId) : Controller :=
  match c.connection? l with
  | none => c
  | some k =>
    let (liveness, action) := k.liveness.check c.clock c.livenessLimits
    -- the probe is used up even if it cannot be sent
    let c := c.modifyConnection l fun k => { k with liveness }
    match action with
    | .alive => c
    | .sendEcho =>
      if k.version = 0 then c
      else
        let (c, x) := c.drawXid
        match c.write l x (.echoRequest []) with
        | .ok c => c
        | .error _ => c
    | .disconnect => c.modifyConnection l Connection.close

/-- Checks every connection whose session has not ended. -/
def checkIdle (c : Controller) : Controller := c.openLinks.foldl checkLink c

/-- Gives up the old requests of every registered datapath. -/
def pruneRequests (c : Controller) : Controller :=
  c.registry.foldl (fun c (_, main) =>
    match c.datapath? main with
    | none => c
    | some dp => (c.track dp fun t => t.prune c.clock).1) c

/-- Stops serving: no new connection is accepted, and all there are closed. -/
def shutDown (c : Controller) : Controller :=
  { c with isShutDown := true }.closeLinks c.openLinks

end Southbound.Controller
