import Southbound.Controller.State
import Southbound.Proofs.Keyed

/-!
# The outline of a controller

What decides when a datapath comes and goes, and what is known of its ports, is a small part of the
state of a controller: how far each connection has come, what its switch was asked, which datapath
it serves, who is registered, and what was told. An `Outline` is that part. `Calm` and `Eventful`
are the steps it takes, the first without a word to anybody, the second with news of the datapath
that a connection serves.
-/

namespace Southbound

/-! ## Transaction ids -/

/-- The numbers of ids go round, from 1 to the greatest. -/
theorem toNat_xidAt (n : Nat) : (xidAt n).toNat = n % (UInt32.size - 1) + 1 := by
  rw [xidAt, UInt32.toNat_ofNat']
  refine Nat.mod_eq_of_lt ?_
  have : n % (UInt32.size - 1) < UInt32.size - 1 := Nat.mod_lt _ (by decide)
  have : UInt32.size = 2 ^ 32 := rfl
  omega

/-- No id is zero. -/
theorem xidAt_ne_zero (n : Nat) : xidAt n ≠ 0 := fun h => by
  have := toNat_xidAt n
  rw [h] at this
  exact absurd this (by simp)

/-- Transaction ids repeat only when all have been drawn. -/
theorem xidAt_ne {i j : Nat} (hlt : i < j) (hnear : j < i + (UInt32.size - 1)) :
    xidAt i ≠ xidAt j := fun h => by
  have hmod := congrArg UInt32.toNat h
  rw [toNat_xidAt, toNat_xidAt, Nat.add_right_cancel_iff] at hmod
  have hsize : UInt32.size - 1 = 4294967295 := rfl
  rw [hsize] at hmod hnear
  omega

/-! ## Stages -/

namespace Stage

/-- The connection carries the messages of a datapath that listeners know. -/
def isServing : Stage → Bool
  | postHandshake | ready => true
  | _ => false

/-- A connection in service is not at its end. -/
theorem isFinal_of_isServing {s : Stage} (h : s.isServing = true) : s.isFinal = false := by
  cases s <;> simp_all [isServing, isFinal]

end Stage

namespace Descriptions

/-- What is expected when descriptions are asked for one after the other, each under the next
transaction id from number `n` on. -/
def expectAll (d : Descriptions) (n : Nat) : List DescriptionKind → Descriptions
  | [] => d
  | kind :: kinds => (d.expect (xidAt n) kind).expectAll (n + 1) kinds

/-- What a message tells in answer to what was asked. -/
def hear (d : Descriptions) (x : Xid) : Message → Descriptions
  | .multipartReply r => (d.onReply x r).1
  | .error _ => (d.onError x).1
  | _ => d

/-- The port table of a datapath whose switch has been described, given what it was before. -/
def settle (d : Descriptions) (t : PortTable) : PortTable :=
  match d.ports with
  | some ports => .ofList ports
  | none => t

end Descriptions

/-- What a message tells of ports without being asked. -/
def PortTable.hear (t : PortTable) : Message → PortTable
  | .portStatus s => t.apply s
  | _ => t

/-! ## Outlines -/

/-- What there is to a connection. -/
structure LinkOutline where
  stage : Stage
  isClosed : Bool
  isRevoked : Bool
  auxiliary : UInt8
  datapath : Option DatapathId
  /-- The main connection of the datapath that the session serves. -/
  serves : Option LinkId
  /-- The session has ended. -/
  isOver : Bool
  /-- 0 until a version is negotiated. -/
  version : Version
  /-- The transaction id under which the switch was asked for its features. -/
  featuresXid : Option Xid
  /-- What the switch was asked and has told so far. -/
  descriptions : Descriptions
deriving DecidableEq

namespace LinkOutline

/-- A connection before its hello. -/
def new : LinkOutline where
  stage := .versionNegotiating
  isClosed := false
  isRevoked := false
  auxiliary := 0
  datapath := none
  serves := none
  isOver := false
  version := 0
  featuresXid := none
  descriptions := {}

def enter (s : Stage) (k : LinkOutline) : LinkOutline :=
  if k.stage.isFinal then k else { k with stage := s }

def close (k : LinkOutline) : LinkOutline := { k.enter .closed with isClosed := true }

/-- The writer has failed, which the session has yet to find out. -/
def cancel (k : LinkOutline) : LinkOutline := { k with isClosed := true }

/-- The session ends, and its connection with it. -/
def finish (k : LinkOutline) : LinkOutline := { k.close with isOver := true }

def revoke (k : LinkOutline) : LinkOutline :=
  { k.enter .revoked with isClosed := true, isRevoked := true }

/-- The connection is one of version `v`, and its switch is asked for its features. -/
def greet (v : Version) (x : Xid) (k : LinkOutline) : LinkOutline :=
  { { k with version := v }.enter .basicHandshake with featuresXid := some x }

def bind (d : DatapathId) (auxiliary : UInt8) (k : LinkOutline) : LinkOutline :=
  { k with datapath := some d, auxiliary }

def serve (main : LinkId) (k : LinkOutline) : LinkOutline := { k with serves := some main }

def learn (f : Descriptions → Descriptions) (k : LinkOutline) : LinkOutline :=
  { k with descriptions := f k.descriptions }

/-- The connection has been put to use. -/
def IsSettled (k : LinkOutline) : Prop := k.stage.isServing = true ∨ k.stage.isFinal = true

variable (k : LinkOutline)

/-- A stage is entered unless the connection has come to its end. -/
theorem enter_of_open {k : LinkOutline} (h : k.stage.isFinal = false) (s : Stage) :
    k.enter s = { k with stage := s } := by
  simp [enter, h]

@[simp] theorem auxiliary_enter (s : Stage) : (k.enter s).auxiliary = k.auxiliary := by
  unfold enter; split <;> rfl

@[simp] theorem datapath_enter (s : Stage) : (k.enter s).datapath = k.datapath := by
  unfold enter; split <;> rfl

@[simp] theorem isRevoked_enter (s : Stage) : (k.enter s).isRevoked = k.isRevoked := by
  unfold enter; split <;> rfl

@[simp] theorem isClosed_enter (s : Stage) : (k.enter s).isClosed = k.isClosed := by
  unfold enter; split <;> rfl

@[simp] theorem serves_enter (s : Stage) : (k.enter s).serves = k.serves := by
  unfold enter; split <;> rfl

@[simp] theorem version_enter (s : Stage) : (k.enter s).version = k.version := by
  unfold enter; split <;> rfl

@[simp] theorem featuresXid_enter (s : Stage) : (k.enter s).featuresXid = k.featuresXid := by
  unfold enter; split <;> rfl

@[simp] theorem descriptions_enter (s : Stage) : (k.enter s).descriptions = k.descriptions := by
  unfold enter; split <;> rfl

/-- A final stage is entered, or another one was before. -/
private theorem isFinal_enter {s : Stage} (hs : s.isFinal = true) :
    (k.enter s).stage.isFinal = true := by
  unfold enter
  split
  · next h => exact h
  · exact hs

@[simp] theorem isFinal_close : k.close.stage.isFinal = true := k.isFinal_enter rfl

@[simp] theorem isFinal_revoke : k.revoke.stage.isFinal = true := k.isFinal_enter rfl

/-- A connection that is put to use, or ends, is settled. -/
theorem isSettled_enter {s : Stage} (hs : s.isServing = true ∨ s.isFinal = true) :
    (k.enter s).IsSettled := by
  unfold enter IsSettled
  split
  · next h => exact .inr h
  · exact hs

/-- So is one that is closed. -/
theorem isSettled_close : k.close.IsSettled := .inr k.isFinal_close

/-- No connection is settled during its handshake. -/
theorem not_isSettled {k : LinkOutline}
    (hs : k.stage = .connecting ∨ k.stage = .versionNegotiating ∨ k.stage = .basicHandshake ∨
      k.stage = .extendedHandshake) : ¬ k.IsSettled := by
  rintro (h | h) <;> rcases hs with hs | hs | hs | hs <;>
    simp [hs, Stage.isServing, Stage.isFinal] at h

@[simp] theorem isClosed_close : k.close.isClosed = true := rfl

@[simp] theorem isClosed_revoke : k.revoke.isClosed = true := rfl

@[simp] theorem auxiliary_close : k.close.auxiliary = k.auxiliary := k.auxiliary_enter _

@[simp] theorem datapath_close : k.close.datapath = k.datapath := k.datapath_enter _

@[simp] theorem isRevoked_close : k.close.isRevoked = k.isRevoked := k.isRevoked_enter _

/-- Closing twice is closing once. -/
@[simp] theorem close_close : k.close.close = k.close := by
  have henter : k.close.enter .closed = k.close := if_pos k.isFinal_close
  rw [close, henter]
  rfl

end LinkOutline

/-- What there is to a datapath. -/
structure DatapathOutline where
  id : DatapathId
  main : LinkId
  auxiliaries : Keyed UInt8 LinkId
  isAnnounced : Bool
  isReady : Bool
  provisioning : Provisioning
  ports : PortTable
deriving DecidableEq

namespace DatapathOutline

/-- A datapath nobody was told of. -/
def new (d : DatapathId) (main : LinkId) (ports : PortTable) : DatapathOutline where
  id := d
  main := main
  auxiliaries := []
  isAnnounced := false
  isReady := false
  provisioning := .notStarted
  ports := ports

def announce (dp : DatapathOutline) : DatapathOutline :=
  { dp with isAnnounced := true, provisioning := .submitted }

def withdraw (dp : DatapathOutline) : DatapathOutline :=
  { dp with auxiliaries := [], provisioning := .cancelled }

def attach (auxiliary : UInt8) (l : LinkId) (dp : DatapathOutline) : DatapathOutline :=
  { dp with auxiliaries := dp.auxiliaries.put auxiliary l }

def detach (auxiliary : UInt8) (dp : DatapathOutline) : DatapathOutline :=
  { dp with auxiliaries := dp.auxiliaries.erase auxiliary }

def getReady (dp : DatapathOutline) : DatapathOutline := { dp with isReady := true }

def updatePorts (f : PortTable → PortTable) (dp : DatapathOutline) : DatapathOutline :=
  { dp with ports := f dp.ports }

end DatapathOutline

@[ext]
structure Outline where
  link? : LinkId → Option LinkOutline
  datapath? : LinkId → Option DatapathOutline
  /-- The main connection of the registered datapath with an id. -/
  main? : DatapathId → Option LinkId
  events : List Event

/-- The event tells that `kind` happened to `d`. -/
def Event.Tells (e : Event) (kind : DatapathEventKind) (d : DatapathId) : Prop :=
  ∃ t : DatapathEvent, e = .datapath t ∧ t.kind = kind ∧ t.datapath = d

/-- The event does not tell that a datapath came, got ready or went. -/
inductive Event.Passes (d : DatapathId) : Event → Prop
  | message (m : MessageEvent) : Passes d (.message m)
  | port {t : DatapathEvent} (ht : t.datapath = d)
      (hk : t.kind = .portAdded ∨ t.kind = .portChanged ∨ t.kind = .portRemoved) :
      Passes d (.datapath t)

namespace Outline

variable {o o' : Outline}

def updateLink (o : Outline) (l : LinkId) (f : LinkOutline → LinkOutline) : Outline :=
  { o with link? := fun j => if j = l then (o.link? j).map f else o.link? j }

def updateDatapath (o : Outline) (m : LinkId) (f : DatapathOutline → DatapathOutline) : Outline :=
  { o with datapath? := fun j => if j = m then (o.datapath? j).map f else o.datapath? j }

def addLink (o : Outline) (l : LinkId) : Outline :=
  { o with link? := fun j => if j = l then some .new else o.link? j }

def putDatapath (o : Outline) (m : LinkId) (dp : DatapathOutline) : Outline :=
  { o with datapath? := fun j => if j = m then some dp else o.datapath? j }

def setMain (o : Outline) (d : DatapathId) (m : Option LinkId) : Outline :=
  { o with main? := fun i => if i = d then m else o.main? i }

def closeLinks (o : Outline) (ls : List LinkId) : Outline :=
  ls.foldl (fun o l => o.updateLink l .close) o

def tell (o : Outline) (es : List Event) : Outline := { o with events := o.events ++ es }

section Projections

variable (o : Outline) (j l m : LinkId) (i d : DatapathId)

@[simp] theorem link?_updateLink (f : LinkOutline → LinkOutline) :
    (o.updateLink l f).link? j = if j = l then (o.link? j).map f else o.link? j := rfl

@[simp] theorem datapath?_updateLink (f : LinkOutline → LinkOutline) :
    (o.updateLink l f).datapath? j = o.datapath? j := rfl

@[simp] theorem main?_updateLink (f : LinkOutline → LinkOutline) :
    (o.updateLink l f).main? i = o.main? i := rfl

@[simp] theorem events_updateLink (f : LinkOutline → LinkOutline) :
    (o.updateLink l f).events = o.events := rfl

@[simp] theorem link?_updateDatapath (f : DatapathOutline → DatapathOutline) :
    (o.updateDatapath m f).link? j = o.link? j := rfl

@[simp] theorem datapath?_updateDatapath (f : DatapathOutline → DatapathOutline) :
    (o.updateDatapath m f).datapath? j = if j = m then (o.datapath? j).map f else o.datapath? j :=
  rfl

@[simp] theorem main?_updateDatapath (f : DatapathOutline → DatapathOutline) :
    (o.updateDatapath m f).main? i = o.main? i := rfl

@[simp] theorem events_updateDatapath (f : DatapathOutline → DatapathOutline) :
    (o.updateDatapath m f).events = o.events := rfl

@[simp] theorem link?_setMain (k : Option LinkId) : (o.setMain d k).link? j = o.link? j := rfl

@[simp] theorem datapath?_setMain (k : Option LinkId) :
    (o.setMain d k).datapath? j = o.datapath? j := rfl

@[simp] theorem main?_setMain (k : Option LinkId) :
    (o.setMain d k).main? i = if i = d then k else o.main? i := rfl

@[simp] theorem events_setMain (k : Option LinkId) : (o.setMain d k).events = o.events := rfl

@[simp] theorem link?_tell (es : List Event) : (o.tell es).link? j = o.link? j := rfl

@[simp] theorem datapath?_tell (es : List Event) : (o.tell es).datapath? j = o.datapath? j := rfl

@[simp] theorem main?_tell (es : List Event) : (o.tell es).main? i = o.main? i := rfl

/-- To change nothing about a connection is to change nothing. -/
theorem updateLink_same {f : LinkOutline → LinkOutline} (hf : ∀ k, f k = k) :
    o.updateLink l f = o := by
  obtain rfl : f = id := funext hf
  simp [updateLink]

/-- To change nothing about a datapath is to change nothing. -/
theorem updateDatapath_same {f : DatapathOutline → DatapathOutline} (hf : ∀ dp, f dp = dp) :
    o.updateDatapath m f = o := by
  obtain rfl : f = id := funext hf
  simp [updateDatapath]

/-- Two changes of one connection are one change. -/
@[simp] theorem updateLink_updateLink (f g : LinkOutline → LinkOutline) :
    (o.updateLink l f).updateLink l g = o.updateLink l fun k => g (f k) := by
  refine Outline.ext (funext fun j => ?_) rfl rfl rfl
  simp only [link?_updateLink]
  split
  · exact Option.map_map g f _
  · rfl

/-- To tell nothing is to do nothing. -/
@[simp] theorem tell_nil : o.tell [] = o :=
  Outline.ext rfl rfl rfl (List.append_nil o.events)

/-- Events are told one after the other. -/
@[simp] theorem tell_tell (es fs : List Event) : (o.tell es).tell fs = o.tell (es ++ fs) :=
  Outline.ext rfl rfl rfl (List.append_assoc o.events es fs)

/-- By induction on the list, those in it are closed and the others left alone. -/
@[simp] theorem link?_closeLinks (ls : List LinkId) :
    (o.closeLinks ls).link? j = if j ∈ ls then (o.link? j).map .close else o.link? j := by
  induction ls generalizing o with
  | nil => simp [closeLinks]
  | cons l ls ih =>
    show ((o.updateLink l .close).closeLinks ls).link? j = _
    rw [ih, link?_updateLink]
    by_cases hj : j = l
    · subst hj
      cases o.link? j <;> simp
    · simp [hj]

@[simp] theorem datapath?_closeLinks (ls : List LinkId) :
    (o.closeLinks ls).datapath? j = o.datapath? j := by
  induction ls generalizing o with
  | nil => rfl
  | cons l ls ih => exact ih (o.updateLink l .close)

@[simp] theorem main?_closeLinks (ls : List LinkId) : (o.closeLinks ls).main? i = o.main? i := by
  induction ls generalizing o with
  | nil => rfl
  | cons l ls ih => exact ih (o.updateLink l .close)

@[simp] theorem events_closeLinks (ls : List LinkId) : (o.closeLinks ls).events = o.events := by
  induction ls generalizing o with
  | nil => rfl
  | cons l ls ih => exact ih (o.updateLink l .close)

end Projections

/-- Connection `l` becomes an auxiliary connection of the datapath of `m`, which closes the one it
replaces. -/
def attach (o : Outline) (l m : LinkId) (dp : DatapathOutline) (auxiliary : UInt8) : Outline :=
  ((o.closeLinks (dp.auxiliaries.find? auxiliary).toList).updateDatapath m
    (.attach auxiliary l)).updateLink l fun k => (k.serve m).enter .ready

/-- The session of connection `l` hears a message while its switch is being described. -/
def hear (o : Outline) (l : LinkId) (x : Xid) (m : Message) : Outline :=
  (o.updateLink l (.learn (·.hear x m))).updateDatapath l (.updatePorts (·.hear m))

/-- A message that tells nothing of the switch changes nothing. -/
theorem hear_same (o : Outline) (l : LinkId) {x : Xid} {m : Message}
    (hd : ∀ d : Descriptions, d.hear x m = d) (ht : ∀ t : PortTable, t.hear m = t) :
    o.hear l x m = o := by
  rw [hear, updateLink_same o l fun k => by rw [LinkOutline.learn, hd]]
  exact updateDatapath_same o l fun dp => by rw [DatapathOutline.updatePorts, ht]

/-- What was told about the switch of connection `l` is taken over. -/
def describe (o : Outline) (l : LinkId) (d : Descriptions) : Outline :=
  (o.updateDatapath l (.updatePorts d.settle)).updateLink l (.learn fun d => d.takePorts.1)

/-- Connection `l` stands for `d` from now on. -/
def register (o : Outline) (d : DatapathId) (l : LinkId) : Outline :=
  ((o.updateLink l (.enter .postHandshake)).setMain d (some l)).updateDatapath l .announce

/-- The datapath of `m` goes, and its connections with it. -/
def unregister (o : Outline) (d : DatapathId) (m : LinkId) (dp : DatapathOutline)
    (leave : LinkOutline → LinkOutline) : Outline :=
  (((o.setMain d none).updateLink m leave).closeLinks dp.auxiliaries.values).updateDatapath m
    .withdraw

section Registration

variable (o : Outline) (i d : DatapathId) (j l m : LinkId) (dp : DatapathOutline)
  (leave : LinkOutline → LinkOutline)

@[simp] theorem link?_register : (o.register d l).link? j =
    if j = l then (o.link? j).map (.enter .postHandshake) else o.link? j := rfl

@[simp] theorem datapath?_register : (o.register d l).datapath? j =
    if j = l then (o.datapath? j).map .announce else o.datapath? j := rfl

@[simp] theorem main?_register :
    (o.register d l).main? i = if i = d then some l else o.main? i := rfl

@[simp] theorem events_register : (o.register d l).events = o.events := rfl

/-- The main connection leaves in its way, and the auxiliary ones are closed. -/
@[simp] theorem link?_unregister : (o.unregister d m dp leave).link? j =
    if j ∈ dp.auxiliaries.values then
      (if j = m then (o.link? j).map leave else o.link? j).map .close
    else if j = m then (o.link? j).map leave else o.link? j := by
  simp only [unregister, link?_updateDatapath, link?_closeLinks, link?_updateLink, link?_setMain]

/-- Only the datapath that is unregistered is withdrawn. -/
@[simp] theorem datapath?_unregister : (o.unregister d m dp leave).datapath? j =
    if j = m then (o.datapath? j).map .withdraw else o.datapath? j := by
  simp only [unregister, datapath?_updateDatapath, datapath?_closeLinks, datapath?_updateLink,
    datapath?_setMain]

/-- Only its id becomes free. -/
@[simp] theorem main?_unregister : (o.unregister d m dp leave).main? i =
    if i = d then none else o.main? i := by
  simp only [unregister, main?_updateDatapath, main?_closeLinks, main?_updateLink, main?_setMain]

@[simp] theorem events_unregister : (o.unregister d m dp leave).events = o.events := by
  simp only [unregister, events_updateDatapath, events_closeLinks, events_updateLink,
    events_setMain]

/-- The old datapath goes in the midst of the registration of the new one, which makes no
difference. -/
theorem register_unregister {l m : LinkId} {dp : DatapathOutline} (hlm : l ≠ m)
    (hl : l ∉ dp.auxiliaries.values) :
    ((((((o.updateLink l (.enter .postHandshake)).setMain d (some l)).updateLink m leave).closeLinks
      dp.auxiliaries.values).updateDatapath m .withdraw).updateDatapath l .announce) =
      (o.unregister d m dp leave).register d l := by
  refine Outline.ext (funext fun j => ?_) (funext fun j => ?_) (funext fun i => ?_) ?_
  · by_cases hj : j = l
    · subst hj
      simp [hlm, hl]
    · simp [hj]
  · simp
  · by_cases hi : i = d <;> simp [hi]
  · simp

end Registration

/-- A step of which listeners learn nothing, taken by the session of a connection or by nobody in
particular. -/
inductive Calm : Option LinkId → Outline → Outline → Prop
  | accept {a : Option LinkId} {o : Outline} {l : LinkId} (hl : o.link? l = none) :
      Calm a o (o.addLink l)
  | close {a : Option LinkId} {o : Outline} (l : LinkId) : Calm a o (o.updateLink l .close)
  | cancel {a : Option LinkId} {o : Outline} (l : LinkId) : Calm a o (o.updateLink l .cancel)
  | finish {a : Option LinkId} {o : Outline} (l : LinkId) : Calm a o (o.updateLink l .finish)
  | greet {o : Outline} {l : LinkId} {k : LinkOutline} (hk : o.link? l = some k)
      (hs : k.stage = .connecting ∨ k.stage = .versionNegotiating) (v : Version)
      (x : Xid) : Calm (some l) o (o.updateLink l (.greet v x))
  | bind {o : Outline} {l : LinkId} {k : LinkOutline} (hk : o.link? l = some k)
      (hs : k.stage = .basicHandshake) (d : DatapathId) (auxiliary : UInt8) :
      Calm (some l) o (o.updateLink l (.bind d auxiliary))
  | introduce {o : Outline} {l : LinkId} {k : LinkOutline} (hk : o.link? l = some k)
      (hs : k.stage = .basicHandshake) (d : DatapathId) (ports : PortTable) :
      Calm (some l) o (o.putDatapath l (.new d l ports))
  | collect {o : Outline} {l : LinkId} {k : LinkOutline} {d : DatapathId} {ports : PortTable}
      (hk : o.link? l = some k) (hs : k.stage = .basicHandshake) (hd : k.datapath = some d)
      (haux : k.auxiliary = 0) (hdp : o.datapath? l = some (.new d l ports)) :
      Calm (some l) o (o.updateLink l fun k => (k.enter .extendedHandshake).serve l)
  /-- The switch is asked, or answers. -/
  | learn {o : Outline} {l : LinkId} {k : LinkOutline} (hk : o.link? l = some k)
      (hs : k.stage = .extendedHandshake) (f : Descriptions → Descriptions) :
      Calm (some l) o (o.updateLink l (.learn f))
  /-- The switch tells of its ports. -/
  | ports {o : Outline} {l m : LinkId} {k : LinkOutline} (hk : o.link? l = some k)
      (hs : k.stage = .extendedHandshake ∨ k.stage.isServing = true) (hm : k.serves = some m)
      (f : PortTable → PortTable) : Calm (some l) o (o.updateDatapath m (.updatePorts f))
  | attach {o : Outline} {l m : LinkId} {k : LinkOutline} {d : DatapathId} {dp : DatapathOutline}
      (hk : o.link? l = some k) (hs : k.stage = .basicHandshake) (hd : k.datapath = some d)
      (haux : k.auxiliary ≠ 0) (hm : o.main? d = some m) (hdp : o.datapath? m = some dp) :
      Calm (some l) o (o.attach l m dp k.auxiliary)
  | detach {a : Option LinkId} {o : Outline} {l m : LinkId} {k : LinkOutline} {d : DatapathId}
      {dp : DatapathOutline} {auxiliary : UInt8} (hk : o.link? l = some k)
      (hfinal : k.stage.isFinal = true) (hm : o.main? d = some m) (hdp : o.datapath? m = some dp)
      (hl : dp.auxiliaries.find? auxiliary = some l) :
      Calm a o (o.updateDatapath m (.detach auxiliary))

/-- A step of connection `l` of which listeners learn. -/
inductive Eventful (l : LinkId) : Outline → Outline → Prop
  /-- Its datapath is registered under an id that is free. -/
  | connects {o : Outline} {k : LinkOutline} {dp : DatapathOutline} {e : Event}
      (hk : o.link? l = some k) (hs : k.stage = .extendedHandshake)
      (hdp : o.datapath? l = some dp) (hfree : o.main? dp.id = none)
      (he : e.Tells .connected dp.id) : Eventful l o ((o.register dp.id l).tell [e])
  /-- Its datapath takes the place of another one with the same id. -/
  | replaces {o : Outline} {k : LinkOutline} {dp old : DatapathOutline} {m : LinkId}
      {gone e : Event} (hk : o.link? l = some k) (hs : k.stage = .extendedHandshake)
      (hdp : o.datapath? l = some dp) (hm : o.main? dp.id = some m)
      (hold : o.datapath? m = some old) (hgone : gone.Tells .revoked dp.id)
      (he : e.Tells .connected dp.id) :
      Eventful l o (((o.unregister dp.id m old .revoke).register dp.id l).tell [gone, e])
  /-- It hands on what its switch says. -/
  | serves {o : Outline} {k : LinkOutline} {m : LinkId} {dp : DatapathOutline} {es : List Event}
      (hk : o.link? l = some k) (hs : k.stage.isServing = true) (hm : k.serves = some m)
      (hdp : o.datapath? m = some dp) (hes : ∀ e ∈ es, e.Passes dp.id) : Eventful l o (o.tell es)
  /-- Its datapath becomes ready. -/
  | readies {o : Outline} {k : LinkOutline} {dp : DatapathOutline} {e : Event}
      (hk : o.link? l = some k) (hopen : k.isClosed = false) (hdp : o.datapath? l = some dp)
      (hsubmitted : dp.provisioning = .submitted) (hnew : dp.isReady = false)
      (he : e.Tells .ready dp.id) :
      Eventful l o (((o.updateDatapath l .getReady).updateLink l (.enter .ready)).tell [e])
  /-- It ends, and its datapath with it. -/
  | disconnects {o : Outline} {d : DatapathId} {dp : DatapathOutline} {e : Event}
      (hm : o.main? d = some l) (hdp : o.datapath? l = some dp) (he : e.Tells .disconnected d) :
      Eventful l o ((o.unregister d l dp .close).tell [e])

end Outline

end Southbound
