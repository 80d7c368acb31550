import Southbound.Controller.State

/-!
# Registration and teardown

How a datapath becomes visible, gets and loses auxiliary connections, and goes: because its main
connection ended, or because another connection claimed its id.
-/

namespace Southbound.Controller

/-- Closes each of some connections. -/
def closeLinks (c : Controller) (ls : List LinkId) : Controller :=
  ls.foldl (fun c l => c.modifyConnection l Connection.close) c

/-- Ends a datapath that is not in the registry any more: its connections are closed, the
installation of its initial flows is called off, its open requests fail, and listeners that know
it are told. -/
def teardown (c : Controller) (main : LinkId) (kind : DatapathEventKind) : Controller :=
  match c.datapath? main with
  | none => c
  | some dp =>
    let c := c.modifyConnection main
      (if kind = .revoked then Connection.revoke else Connection.close)
    -- no auxiliary connection outlives its main one
    let c := c.closeLinks dp.auxiliaries.values
    let dp := { dp with auxiliaries := [], provisioning := .cancelled }
    let c := c.modifyDatapath main fun _ => dp
    let (c, _) := c.track dp Tracker.failAll
    if dp.isAnnounced then c.emitDatapath kind dp else c

/-- Makes a datapath visible in the place of any other with its id, tells listeners, and submits
the installation of its initial flows. -/
def register (c : Controller) (main : LinkId) : Controller :=
  match c.datapath? main with
  | none => c
  | some dp =>
    let incumbent := c.registry.find? dp.id
    -- from here on the end of the old connection is that of a stranger, and cannot take the new
    -- datapath out of the registry
    let c := { c with registry := c.registry.put dp.id main }
    let c := match incumbent with
      | some old => c.teardown old .revoked
      | none => c
    let announced := { dp with isAnnounced := true }
    let c := c.modifyDatapath main fun _ => { announced with provisioning := .submitted }
    let c := if dp.isAnnounced then c else c.emitDatapath .connected announced
    if c.isShutDown then c else { c with tasks := c.tasks ++ [main] }

/-- Attaches an auxiliary connection to the registered datapath it is bound to, and closes the one
it replaces. `none` if there is no such datapath. -/
def attach (c : Controller) (l : LinkId) : Option (Controller × LinkId) := do
  let k ← c.connection? l
  let dp ← c.registered? (← k.datapath)
  let (dp', replaced) := dp.attach k.auxiliary l
  let c := c.modifyDatapath dp.main fun _ => dp'
  return (c.closeLinks replaced.toList, dp.main)

/-- What the end of a session means for its datapath. A connection that was revoked has no
datapath any more, and one without features never had one. -/
def connectionClosed (c : Controller) (l : LinkId) : Controller :=
  match c.connection? l with
  | none => c
  | some k =>
    match k.isRevoked, k.datapath with
    | true, _ | _, none => c
    | false, some d =>
      match c.registered? d with
      | none => c
      | some dp =>
        -- a connection that was replaced must not detach the one that took its place
        if k.isAuxiliary then c.modifyDatapath dp.main fun dp => dp.detach k.auxiliary l
        else if dp.main = l then
          { c with registry := c.registry.erase d }.teardown l .disconnected
        else c

/-- Ends a session: its connection is closed, and its datapath learns of it. -/
def endSession (c : Controller) (l : LinkId) : Controller :=
  match c.link? l with
  | none => c
  | some k =>
    if k.session.isOver then c
    else
      let c := c.modifyConnection l Connection.close
      let c := c.modifySession l fun s => { s with isOver := true }
      c.connectionClosed l

end Southbound.Controller
