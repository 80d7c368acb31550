import Southbound.Proofs.Controller.Books
import Southbound.Proofs.Controller.Retirement

/-!
# What leaves requests and work alone

Everything but a step of the work for datapaths `Proceeds`: requests are kept account of, work is at
most submitted behind what there is, and transaction ids are drawn in turn. Most of what a
controller does leaves even more alone: it `Rests`.
-/

namespace Southbound.Controller

open Relation (ReflTransGen)

variable {c c' c'' : Controller} {l m : LinkId}

/-- What a controller knows of requests. -/
def book (c : Controller) : Book where
  ledger := c.ledger
  table? j := (c.datapath? j).map (·.requests)
  isRegistered j := ∃ d, c.registry.find? d = some j

/-- The contributors, and how many have been added. -/
def staff (c : Controller) : List Contributor × ContributorId := (c.contributors, c.lastContributor)

/-- The settings and the contributors are the same, and no transaction id that was drawn is given
back. -/
structure Abides (c c' : Controller) : Prop where
  settings : c'.settings = c.settings
  staff : c'.staff = c.staff
  drawn : c.drawn ≤ c'.drawn

/-- The work for datapaths waits: at most more of it is submitted, behind what there is. -/
structure Waits (c c' : Controller) : Prop extends Abides c c' where
  mastership : c'.mastership = c.mastership
  activeTask : c'.activeTask = c.activeTask
  tasks : c.tasks <+: c'.tasks

/-- No request is made or ends, no datapath comes or goes, and nothing is done for one. -/
structure Rests (c c' : Controller) : Prop extends Waits c c' where
  book : c'.book = c.book

/-- Requests are kept account of, and nothing is done for a datapath. -/
structure Proceeds (c c' : Controller) : Prop extends Waits c c' where
  book : ReflTransGen Book.Step c.book c'.book

/-- What changes none of the fields that the work for datapaths looks at lets that work wait. -/
theorem waits_of_eq (hsettings : c'.settings = c.settings) (hstaff : c'.staff = c.staff)
    (hdrawn : c'.drawn = c.drawn) (hmastership : c'.mastership = c.mastership)
    (hactive : c'.activeTask = c.activeTask) (htasks : c'.tasks = c.tasks) : c.Waits c' :=
  ⟨⟨hsettings, hstaff, hdrawn ▸ Nat.le_refl _⟩, hmastership, hactive,
    htasks ▸ List.prefix_refl _⟩

private theorem Waits.refl (c : Controller) : c.Waits c := waits_of_eq rfl rfl rfl rfl rfl rfl

/-- Settings, contributors and ids can be followed in two steps. -/
private theorem Abides.trans (h : c.Abides c') (h' : c'.Abides c'') : c.Abides c'' :=
  ⟨h'.settings.trans h.settings, h'.staff.trans h.staff, Nat.le_trans h.drawn h'.drawn⟩

/-- So can the work that waits. -/
theorem Waits.trans (h : c.Waits c') (h' : c'.Waits c'') : c.Waits c'' :=
  ⟨h.toAbides.trans h'.toAbides, h'.mastership.trans h.mastership,
    h'.activeTask.trans h.activeTask, h.tasks.trans h'.tasks⟩

/-- Who is registered has nothing to do with it. -/
theorem Waits.of_registry {r : Keyed DatapathId LinkId}
    (h : ({ c with registry := r } : Controller).Waits c') : c.Waits c' :=
  ⟨⟨h.settings, h.staff, h.drawn⟩, h.mastership, h.activeTask, h.tasks⟩

theorem Rests.refl (c : Controller) : c.Rests c := ⟨.refl c, rfl⟩

/-- Rest after rest is rest. -/
theorem Rests.trans (h : c.Rests c') (h' : c'.Rests c'') : c.Rests c'' :=
  ⟨h.toWaits.trans h'.toWaits, h'.book.trans h.book⟩

/-- To rest is to proceed by no step of the books. -/
theorem Rests.proceeds (h : c.Rests c') : c.Proceeds c' := ⟨h.toWaits, h.book ▸ .refl⟩

/-- The steps of the books come one after the other. -/
theorem Proceeds.trans (h : c.Proceeds c') (h' : c'.Proceeds c'') : c.Proceeds c'' :=
  ⟨h.toWaits.trans h'.toWaits, h.book.trans h'.book⟩

/-! ## Changes that do not matter -/

/-- Connections and sessions have nothing to do with requests. -/
theorem rests_modifyLink (c : Controller) (l : LinkId) (f : Link → Link) :
    c.Rests (c.modifyLink l f) := ⟨waits_of_eq rfl rfl rfl rfl rfl rfl, rfl⟩

/-- A datapath may change as long as its requests do not. -/
theorem rests_modifyDatapath {f : Datapath → Datapath}
    (hf : ∀ dp, c.datapath? m = some dp → (f dp).requests = dp.requests) :
    c.Rests (c.modifyDatapath m f) := by
  refine ⟨waits_of_eq rfl rfl rfl rfl rfl rfl, Book.ext rfl (funext fun j => ?_) rfl⟩
  simp only [book, datapath?_modifyDatapath]
  split
  · next hj =>
    subst hj
    cases hdp : c.datapath? j with
    | none => rfl
    | some dp => exact congrArg some (hf dp hdp)
  · rfl

/-- Neither have listeners. -/
theorem rests_emit (c : Controller) (e : Event) : c.Rests (c.emit e) :=
  ⟨waits_of_eq rfl rfl rfl rfl rfl rfl, rfl⟩

/-- An id is drawn, and that is all. -/
theorem rests_drawXid (c : Controller) : c.Rests c.drawXid.1 :=
  ⟨⟨⟨rfl, rfl, Nat.le_succ _⟩, rfl, rfl, List.prefix_refl _⟩, rfl⟩

/-- So it is with several. -/
theorem rests_drawXids (c : Controller) (ms : List Message) : c.Rests (c.drawXids ms).1 := by
  induction ms generalizing c with
  | nil => exact .refl c
  | cons m ms ih => exact (rests_drawXid c).trans (ih _)

/-- Nothing is drawn when an id was chosen. -/
theorem rests_xidFor (c : Controller) (x : Option Xid) : c.Rests (c.xidFor x).1 := by
  cases x with
  | none => exact rests_drawXid c
  | some x => exact .refl c

/-- Traffic is only counted. -/
private theorem rests_countWrite (c : Controller) (m : Message) : c.Rests (c.countWrite m) := by
  cases m <;> exact ⟨waits_of_eq rfl rfl rfl rfl rfl rfl, rfl⟩

/-- By induction on the connections, to close them is to rest. -/
theorem rests_closeLinks (c : Controller) (ls : List LinkId) : c.Rests (c.closeLinks ls) := by
  induction ls generalizing c with
  | nil => exact .refl c
  | cons l ls ih => exact (rests_modifyLink c l _).trans (ih _)

/-! ## Writing -/

/-- A frame is queued on a connection. -/
private theorem rests_writeFrame {frame : Bytes} (h : c.writeFrame l frame = .ok c') :
    c.Rests c' := by
  obtain ⟨k, -, -, rfl⟩ := writeFrame_eq_ok h
  exact rests_modifyLink c l _

/-- So is a message. -/
private theorem rests_write {x : Xid} {message : Message} (h : c.write l x message = .ok c') :
    c.Rests c' := by
  obtain ⟨k, frame, -, -, -, rfl⟩ := write_eq_ok h
  exact (rests_modifyLink c l _).trans (rests_countWrite _ _)

/-- So are several, up to the first that cannot be. -/
theorem rests_writeAll (c : Controller) (l : LinkId) (ms : List (Xid × Message)) :
    c.Rests (c.writeAll l ms).1 := by
  induction ms generalizing c with
  | nil => exact .refl c
  | cons m ms ih =>
    unfold writeAll
    split
    · exact .refl c
    · next h => exact (rests_write h).trans (ih _)

/-- What follows a write rests if it does whenever the write succeeds. -/
private theorem rests_orEnd {written : Except Failure Controller}
    {next : Controller → Controller × SessionFate}
    (hnext : ∀ c', written = .ok c' → c.Rests (next c').1) :
    c.Rests (c.orEnd written next).1 := by
  cases written with
  | error e => exact .refl c
  | ok c' => exact hnext c' rfl

/-- An echo is only answered. -/
theorem rests_answerEcho (c : Controller) (l : LinkId) (x : Xid) (data : Bytes) :
    c.Rests (c.answerEcho l x data).1 :=
  rests_orEnd fun _ h => rests_write h

/-- A hello is only refused. -/
theorem rests_refuse (c : Controller) (l : LinkId) (reason : String) :
    c.Rests (c.refuse l reason).1 := by
  unfold refuse
  split
  · exact .refl c
  · split
    · exact .refl c
    · next h => exact rests_writeFrame h

/-! ## The handshake -/

/-- A switch is only asked for its features. -/
private theorem rests_greet (c : Controller) (l : LinkId) (v : Version) : c.Rests (c.greet l v) :=
  (rests_modifyLink c l _).trans ((rests_drawXid _).trans (rests_modifyLink _ l _))

/-- A version concerns the connection alone. -/
private theorem rests_acceptVersion (c : Controller) (l : LinkId) (h : Header) (v : Version) :
    c.Rests (c.acceptVersion l h v).1 := by
  rw [acceptVersion_eq]
  split
  · exact .refl c
  · exact rests_orEnd fun c₁ h₁ => (rests_writeFrame h₁).trans
      ((rests_greet c₁ l v).trans (rests_orEnd fun _ h₂ => rests_write h₂))

/-- So a hello has nothing to do with requests. -/
theorem rests_onHello (c : Controller) (l : LinkId) (h : Header) (m : Message) :
    c.Rests (c.onHello l h m).1 := by
  unfold onHello
  split
  · split
    · exact rests_acceptVersion c l h _
    · exact rests_refuse c l _
  · exact rests_refuse c l _

/-- What a session asks for is not among the requests. -/
theorem rests_requestDescriptions (c : Controller) (l : LinkId) (kinds : List DescriptionKind) :
    c.Rests (c.requestDescriptions l kinds).1 := by
  induction kinds generalizing c with
  | nil => exact .refl c
  | cons kind kinds ih =>
    have hasked := (rests_drawXid c).trans (rests_modifyLink c.drawXid.1 l fun k =>
      { k with session := { k.session with
        descriptions := k.session.descriptions.expect c.drawXid.2 kind } })
    unfold requestDescriptions
    dsimp only
    split
    · exact hasked
    · next h => exact hasked.trans ((rests_write h).trans (ih _))

/-- Neither is what it sets. -/
theorem rests_configureSwitch (c : Controller) (l : LinkId) :
    c.Rests (c.configureSwitch l).1 := by
  unfold configureSwitch
  split
  · exact .refl c
  · exact (rests_drawXid c).trans (rests_writeAll _ l _)

/-- An auxiliary connection changes the list of its datapath only. -/
private theorem rests_attach (h : c.outline.Sound) (hattach : c.attach l = some (c', m)) :
    c.Rests c' := by
  unfold attach at hattach
  simp only [Option.bind_eq_bind, Option.bind_eq_some_iff] at hattach
  obtain ⟨k, -, d, -, dp, hdp, heq⟩ := hattach
  obtain ⟨i, hi, hdp⟩ := registered?_eq_some hdp
  obtain rfl : dp.main = i := h.main_eq (datapath?_outline hdp)
  simp only [Datapath.attach, Option.pure_def, Option.some.injEq, Prod.mk.injEq] at heq
  obtain ⟨rfl, -⟩ := heq
  -- only the list of auxiliaries changes, which holds no requests
  refine (rests_modifyDatapath fun old hold => ?_).trans (rests_closeLinks _ _)
  obtain rfl : dp = old := Option.some.inj (hdp.symm.trans hold)
  rfl

/-- So do the features that attach it. -/
theorem rests_onAuxiliaryFeatures (h : c.outline.Sound) (l : LinkId) :
    c.Rests (c.onAuxiliaryFeatures l).1 := by
  unfold onAuxiliaryFeatures
  split
  · exact .refl c
  · next hattach =>
    exact (rests_attach h hattach).trans
      ((rests_modifyLink _ l _).trans (rests_modifyLink _ l _))

/-! ## Descriptions and service -/

/-- What is learnt of a switch changes its ports at most. -/
theorem rests_learn (c : Controller) (l : LinkId) (s : Session) (x : Xid) (m : Message) :
    c.Rests (c.learn l s x m) := by
  unfold learn
  split
  · exact rests_modifyLink c l _
  · exact rests_modifyLink c l _
  · split
    · exact rests_modifyDatapath fun _ _ => rfl
    · exact .refl c
  · exact .refl c

/-- So does what was learnt in all. -/
theorem rests_described (c : Controller) (l : LinkId) (d : Descriptions) :
    c.Rests (c.described l d) := by
  have hdatapath : c.Rests (c.modifyDatapath l (describe d)) :=
    rests_modifyDatapath fun _ _ => rfl
  exact hdatapath.trans ((rests_modifyLink _ l _).trans (rests_modifyLink _ l _))

/-- A notification changes the ports and tells of it. -/
theorem rests_onNotification (c : Controller) (dp : Datapath) (m : Message) :
    c.Rests (c.onNotification dp m) := by
  unfold onNotification
  split
  · next s =>
    have hports : c.Rests (c.modifyDatapath dp.main fun d => { d with ports := d.ports.apply s }) :=
      rests_modifyDatapath fun _ _ => rfl
    unfold onPortStatus
    dsimp only
    split
    · exact hports.trans (rests_emit _ _)
    · exact hports
  · exact ⟨waits_of_eq rfl rfl rfl rfl rfl rfl, rfl⟩
  · exact .refl c

/-- A message is told to listeners. -/
theorem rests_publish (c : Controller) (k : Connection) (dp : Datapath) (x : Xid) (m : Message) :
    c.Rests (c.publish k dp x m) := by
  unfold publish
  split
  · exact .refl c
  · exact rests_emit c _

/-! ## Connections that come and go -/

/-- A connection that is accepted brings no datapath with it. -/
theorem rests_accept {remote : String} (h : c.accept remote = .ok (c', l)) : c.Rests c' := by
  unfold accept at h
  split at h
  · cases h
  · obtain ⟨rfl, -⟩ := Prod.mk.inj (Except.ok.inj h)
    exact ⟨waits_of_eq rfl rfl rfl rfl rfl rfl, rfl⟩

/-- An idle connection is probed or closed. -/
private theorem rests_checkLink (c : Controller) (l : LinkId) : c.Rests (c.checkLink l) := by
  unfold checkLink
  split
  · exact .refl c
  · next k _ =>
    -- the check itself only moves the liveness of this connection
    have hchecked := rests_modifyLink c l fun j =>
      { j with connection := { j.connection with
        liveness := (k.liveness.check c.clock c.livenessLimits).1 } }
    dsimp only
    split
    · exact hchecked
    · split
      · exact hchecked
      -- a probe is an echo request under a fresh id, and needs no entry in a table
      · have hdrawn := hchecked.trans (rests_drawXid _)
        split
        · next h => exact hdrawn.trans (rests_write h)
        · exact hdrawn
    · exact hchecked.trans (rests_modifyLink _ l _)

/-- So are several. -/
theorem rests_checkIdle (c : Controller) : c.Rests c.checkIdle := by
  unfold checkIdle
  generalize c.openLinks = ls
  induction ls generalizing c with
  | nil => exact .refl c
  | cons l ls ih => exact (rests_checkLink c l).trans (ih _)

/-- When the controller shuts down, connections are closed. -/
theorem rests_shutDown (c : Controller) : c.Rests c.shutDown := by
  have hstopped : c.Rests { c with isShutDown := true } :=
    ⟨waits_of_eq rfl rfl rfl rfl rfl rfl, rfl⟩
  exact hstopped.trans (rests_closeLinks _ _)

/-- A message without a reply is no request. -/
theorem rests_send (c : Controller) (d : DatapathId) (auxiliary : UInt8) (m : Message) :
    c.Rests (c.send d auxiliary m).1 := by
  unfold send andThen
  split
  · exact .refl c
  · exact (rests_drawXid c).trans (rests_writeAll _ _ _)

end Southbound.Controller
