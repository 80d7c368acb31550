import Southbound.Controller.Send
import Southbound.Datapath.DeviceType

/-!
# Initial flows

What is done for a datapath between its registration and its being ready: its device type is
determined, all its flows are deleted, and the flows of the contributors are installed. Datapaths
are taken in the order of their registration, one at a time, and anything can happen between two
steps of the work. A datapath whose flows were not confirmed stays unready, and one that goes away
in the meantime never becomes ready.
-/

namespace Southbound

/-- How the work for a datapath ended. -/
inductive TaskOutcome where
  | completed
  /-- The datapath or the controller had gone away before the work began. -/
  | aborted
  /-- The datapath went away during the work. -/
  | readySuppressed
  /-- A batch of flows was not confirmed. -/
  | flowsFailed
deriving DecidableEq

def TaskOutcome.label : TaskOutcome → String
  | completed => "Completed"
  | aborted => "Aborted"
  | readySuppressed => "ReadySuppressed"
  | flowsFailed => "FlowsFailed"

namespace Controller

/-- The flows that contributors offer, in the order of the contributors. Of a contributor that
offers a flow that cannot be sent, none is taken. -/
def initialFlows (contributors : List Contributor) (info : DatapathInfo) (hybrid : Bool) :
    List FlowMod :=
  contributors.flatMap fun k =>
    let flows := k.flows info hybrid
    if flows.all (fun f => (f.validate info.version).isOk) then flows else []

/-- May the work for a datapath go on? -/
def isWanted (c : Controller) (dp : Datapath) : Bool :=
  dp.provisioning = .submitted && !c.isClosed dp.main

/-- What a step of the work leaves: the outcome, if the work is done. -/
abbrev Progress := Controller × Option TaskOutcome

/-- The work is over. -/
def finishTask (c : Controller) (o : TaskOutcome) : Progress :=
  ({ c with activeTask := none }, some o)

/-- The work goes on from a stage. -/
def enterStage (c : Controller) (main : LinkId) (stage : TaskStage) : Progress :=
  ({ c with activeTask := some ⟨main, stage⟩ }, none)

/-- A batch was not confirmed or could not be sent. -/
def failTask (c : Controller) (dp : Datapath) : Progress :=
  c.finishTask (if c.isWanted dp then .flowsFailed else .readySuppressed)

/-- All is done: the datapath is ready, unless it has gone away. -/
def completeTask (c : Controller) (dp : Datapath) : Progress :=
  if c.isWanted dp then
    if dp.isReady then c.finishTask .completed
    else
      let dp := { dp with isReady := true }
      let c := c.modifyDatapath dp.main fun _ => dp
      let c := c.modifyConnection dp.main fun k => k.enter .ready
      (c.emitDatapath .ready dp).finishTask .completed
  else c.finishTask .readySuppressed

/-- Begins the work for a datapath, unless that or the controller has gone away. -/
def beginTask (c : Controller) (main : LinkId) : Progress :=
  match c.datapath? main with
  | none => c.finishTask .aborted
  | some dp =>
    if c.isWanted dp && !c.isAbandoned then
      let type := DeviceType.resolve dp.descriptor
      (c.modifyDatapath main fun dp => { dp with deviceType := some type }).enterStage main .begun
    else c.finishTask .aborted

/-- Sends a batch whose confirmation is to be waited for. -/
def sendFlows (c : Controller) (dp : Datapath) (flows : List FlowMod)
    (awaiting : Ticket → TaskStage) : Progress :=
  match c.sendBatchOn dp (flows.map .flowMod) with
  | (c, .error _) => c.enterStage dp.main .failed
  | (c, .ok ticket) => c.enterStage dp.main (awaiting ticket)

/-- Collects the flows of the contributors. -/
def collectFlows (c : Controller) (dp : Datapath) : Progress :=
  match c.infoOf dp with
  | none => c.enterStage dp.main .failed
  | some info =>
    c.enterStage dp.main (.collected (initialFlows c.contributors info c.settings.hybridMode))

/-- Was a batch confirmed? `none` if that is not known yet and still waited for. -/
def confirmation? (c : Controller) (ticket : Ticket) (patient : Bool) : Option Bool :=
  match c.ledger.outcome? ticket with
  -- an outcome counts even if nobody would wait for it any longer
  | some o => some o.isSuccess
  | none => if patient then none else some false

/-- Goes on with the work for a datapath, if nothing has to be waited for. -/
def continueTask (c : Controller) (dp : Datapath) (patient : Bool) : TaskStage → Option Progress
  | .begun =>
    -- flows of a switch that somebody else masters are left alone
    some (if c.roleOf dp.id = .master then c.sendFlows dp [FlowMod.deleteAll] .purging
      else c.completeTask dp)
  | .purging ticket => (c.confirmation? ticket patient).map fun confirmed =>
    if confirmed then c.collectFlows dp else c.enterStage dp.main .failed
  | .collected [] => some (c.completeTask dp)
  | .collected flows => some (c.sendFlows dp flows .installing)
  | .installing ticket => (c.confirmation? ticket patient).map fun confirmed =>
    if confirmed then c.completeTask dp else c.enterStage dp.main .failed
  | .failed => some (c.failTask dp)

/-- The next step of the work, if one can be taken: that for a datapath goes on, or there is one to
begin with. -/
def provision? (c : Controller) (patient : Bool) : Option (LinkId × Progress) :=
  match c.activeTask with
  | some t =>
    match c.datapath? t.datapath with
    | none => some (t.datapath, c.finishTask .aborted)
    | some dp => (c.continueTask dp patient t.stage).map fun p => (t.datapath, p)
  | none =>
    match c.tasks with
    | [] => none
    | main :: rest => some (main, { c with tasks := rest }.beginTask main)

/-- The last holder lets go of the controller. Work that was submitted goes on without it. -/
def abandon (c : Controller) : Controller := { c with isAbandoned := true }

/-! ## Contributors -/

/-- Adds a contributor behind the others. -/
def addContributor (c : Controller) (flows : DatapathInfo → Bool → List FlowMod) :
    Controller × ContributorId :=
  let id := c.lastContributor + 1
  ({ c with contributors := c.contributors ++ [⟨id, flows⟩], lastContributor := id }, id)

/-- Removes a contributor; `false` if there is none with that number. -/
def removeContributor (c : Controller) (id : ContributorId) : Controller × Bool :=
  ({ c with contributors := c.contributors.filter (·.id ≠ id) },
    c.contributors.any (·.id = id))

end Controller

end Southbound
