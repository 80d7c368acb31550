import Southbound.Proofs.Controller.Abstraction
import Southbound.Proofs.Controller.History

/-!
# Registration and the end of sessions as steps

`Controller.Moves` is what one operation of a connection may do to the outline of a controller:
steps without news, and at most one with news after them. Registering a datapath and ending a
session are such operations.
-/

namespace Southbound

open Relation (ReflTransGen)

namespace Controller

variable {a : Option LinkId} {c c' : Controller} {l m : LinkId}

/-- The arrival that was told last is that of the datapath that is registered now, as it is. -/
def Introduces (c : Controller) : Prop :=
  ∀ t : DatapathEvent, c.events.getLast? = some (.datapath t) → t.kind = .connected →
    ∃ i, t.info = some i ∧ c.info t.datapath = .ok i

/-- From `o`, connection `l` makes news and leaves `c`. -/
structure News (l : LinkId) (o : Outline) (c : Controller) : Prop where
  eventful : Outline.Eventful l o c.outline
  introduces : c.Introduces

/-- What an operation of connection `l` does, which takes the steps of session `a`. -/
def Moves (a : Option LinkId) (l : LinkId) (c c' : Controller) : Prop :=
  ∃ o, ReflTransGen (Outline.Calm a) c.outline o ∧ (c'.outline = o ∨ News l o c')

/-- Quiet steps are moves. -/
theorem moves_of_calm (h : ReflTransGen (Outline.Calm a) c.outline c'.outline) : Moves a l c c' :=
  ⟨_, h, .inl rfl⟩

/-- So is to do nothing. -/
theorem moves_of_eq (h : c'.outline = c.outline) : Moves a l c c' := ⟨_, .refl, .inl h⟩

/-- And so is a step that listeners hear of. -/
theorem moves_of_news (h : News l c.outline c') : Moves a l c c' := ⟨_, .refl, .inr h⟩

/-- An operation behind steps without news. -/
theorem Moves.after_calm {c₁ : Controller}
    (h : ReflTransGen (Outline.Calm a) c.outline c₁.outline) (hmoves : Moves a l c₁ c') :
    Moves a l c c' := by
  obtain ⟨o, hcalm, hlast⟩ := hmoves
  exact ⟨o, h.trans hcalm, hlast⟩

/-- A connection that was put to use is so forever. -/
theorem Moves.has {P : LinkOutline → Prop} {j : LinkId} (hmoves : Moves a l c c')
    (hP : Outline.Lasting P) (h : c.outline.Has P j) : c'.outline.Has P j := by
  obtain ⟨o, hcalm, heq | hnews⟩ := hmoves
  · exact heq ▸ h.calms hP hcalm
  · exact (h.calms hP hcalm).eventful hP hnews.eventful

/-- An event that is no arrival says nothing of who is registered. -/
theorem introduces_of_tells {es : List Event} {e : Event} {kind : DatapathEventKind}
    {d : DatapathId} (hevents : c.events = es ++ [e]) (he : e.Tells kind d)
    (hk : kind ≠ .connected) : c.Introduces := by
  intro t ht hconnected
  obtain ⟨t', rfl, rfl, -⟩ := he
  rw [hevents, List.getLast?_concat] at ht
  obtain rfl : t' = t := Event.datapath.inj (Option.some.inj ht)
  exact absurd hconnected hk

/-- An event of a datapath is told. -/
theorem outline_emitDatapath (c : Controller) (kind : DatapathEventKind) (dp : Datapath) :
    ∃ e, e.Tells kind dp.id ∧ (c.emitDatapath kind dp).outline = c.outline.tell [e] :=
  ⟨.datapath { kind, datapath := dp.id, info := c.infoOf dp }, ⟨_, rfl, rfl, rfl⟩, rfl⟩

/-! ## Teardown -/

/-- A datapath that listeners know goes, and they are told. -/
theorem outline_teardown {dp : Datapath} (hdp : c.datapath? m = some dp)
    (hannounced : dp.isAnnounced = true) {kind : DatapathEventKind}
    {leave : LinkOutline → LinkOutline}
    (hleave : leave = if kind = .revoked then .revoke else .close) :
    ∃ e, e.Tells kind dp.id ∧ (c.teardown m kind).outline =
      (((c.outline.updateLink m leave).closeLinks dp.auxiliaries.values).updateDatapath m
        .withdraw).tell [e] := by
  have hconnection : (c.modifyConnection m
      (if kind = .revoked then Connection.revoke else Connection.close)).outline =
      c.outline.updateLink m leave := by
    refine outline_modifyLink fun k _ => ?_
    rw [hleave]
    split
    · exact outline_revoke k
    · exact outline_close k
  -- closing connections leaves the datapath as it is, so its list is still the one it had
  have hself : ((c.modifyConnection m (if kind = .revoked then Connection.revoke
      else Connection.close)).closeLinks dp.auxiliaries.values).outline.datapath? m =
      some dp.outline := by
    rw [outline_closeLinks, Outline.datapath?_closeLinks, hconnection]
    exact datapath?_outline hdp
  unfold teardown
  simp only [hdp]
  rw [if_pos hannounced]
  refine (outline_emitDatapath _ kind
    { dp with auxiliaries := [], provisioning := .cancelled }).imp fun e he => ⟨he.1, he.2.trans ?_⟩
  rw [outline_track, outline_setDatapath (g := .withdraw) hself rfl, outline_closeLinks,
    hconnection]

/-! ## Registration -/

/-- The id `d` goes to connection `l`, whoever had it. -/
def takeOver (c : Controller) (d : DatapathId) (l : LinkId) : Controller :=
  let c' := { c with registry := c.registry.put d l }
  match c.registry.find? d with
  | some old => c'.teardown old .revoked
  | none => c'

/-- The datapath `dp` of connection `l` is announced. -/
def announce (c : Controller) (l : LinkId) (dp : Datapath) : Controller :=
  (c.modifyDatapath l fun _ =>
    { dp with isAnnounced := true, provisioning := .submitted }).emitDatapath .connected
    { dp with isAnnounced := true }

/-- Waiting for initial flows is put down behind the announcement. -/
theorem register_eq {dp : Datapath} (hdp : c.datapath? l = some dp)
    (hnew : dp.isAnnounced = false) :
    c.register l = if ((c.takeOver dp.id l).announce l dp).isShutDown
      then (c.takeOver dp.id l).announce l dp
      else { (c.takeOver dp.id l).announce l dp with
        tasks := ((c.takeOver dp.id l).announce l dp).tasks ++ [l] } := by
  simp only [register, hdp, hnew, Bool.false_eq_true, ↓reduceIte]
  rfl

/-- A datapath is registered by taking over its id and announcing it. -/
private theorem outline_register {dp : Datapath} (hdp : c.datapath? l = some dp)
    (hnew : dp.isAnnounced = false) :
    (c.register l).outline = ((c.takeOver dp.id l).announce l dp).outline ∧
      (((c.takeOver dp.id l).announce l dp).Introduces → (c.register l).Introduces) := by
  rw [register_eq hdp hnew]
  split
  · exact ⟨rfl, id⟩
  · exact ⟨rfl, id⟩

/-- The registry of the outline is that of the controller. -/
private theorem outline_setRegistry (c : Controller) (d : DatapathId) (l : LinkId) :
    ({ c with registry := c.registry.put d l } : Controller).outline =
      c.outline.setMain d (some l) :=
  Outline.ext rfl rfl (funext fun i => Keyed.find?_put d i l c.registry) rfl

/-- What there is to see of a registered datapath is read off it and its main connection. -/
theorem info_of_registered {d : DatapathId} {dp : Datapath} {k : Connection}
    (hdp : c.registered? d = some dp) (hk : c.connection? dp.main = some k) :
    c.info d = .ok (dp.info k) := by
  have hinfo : c.infoOf dp = some (dp.info k) := by
    rw [infoOf, hk]
    rfl
  have hlookup : c.lookup d = .ok dp := by
    rw [lookup, hdp]
  rw [info, hlookup]
  show Except.bind _ _ = _
  simp only [Except.bind, hinfo]
  rfl

/-- An announced datapath is shown to listeners as it is. -/
theorem announce_spec {dp : Datapath} (hself : c.outline.datapath? l = some dp.outline)
    (hmain : c.registry.find? dp.id = some l) (hdp : dp.main = l) {k : Link}
    (hk : c.link? l = some k) :
    ∃ e, e.Tells .connected dp.id ∧
      (c.announce l dp).outline = (c.outline.updateDatapath l .announce).tell [e] ∧
      (c.announce l dp).Introduces := by
  obtain ⟨e, he, hemit⟩ := outline_emitDatapath (c.modifyDatapath l fun _ =>
    { dp with isAnnounced := true, provisioning := .submitted }) .connected
    { dp with isAnnounced := true }
  refine ⟨e, he, ?_, ?_⟩
  · rw [announce, hemit, outline_setDatapath (g := .announce) hself rfl]
  · intro t ht hconnected
    obtain ⟨old, hold, -⟩ := Option.map_eq_some_iff.1 hself
    have hlink : (c.announce l dp).connection? l = some k.connection :=
      congrArg (Option.map fun j : Link => j.connection) hk
    have hdatapath : (c.announce l dp).datapath? l =
        some { dp with isAnnounced := true, provisioning := .submitted } := by
      show (c.modifyDatapath l fun _ =>
        { dp with isAnnounced := true, provisioning := .submitted }).datapath? l = _
      rw [datapath?_modifyDatapath, if_pos rfl, hold]
      rfl
    have hregistered : (c.announce l dp).registered? dp.id =
        some { dp with isAnnounced := true, provisioning := .submitted } := by
      unfold registered?
      rw [show (c.announce l dp).registry = c.registry from rfl, hmain]
      exact hdatapath
    -- the information was collected when the datapath was announced, and nothing changed since
    have hlast : (c.announce l dp).events = c.events ++ [.datapath
        { kind := .connected, datapath := dp.id, info := (c.announce l dp).infoOf dp }] := rfl
    rw [hlast, List.getLast?_concat] at ht
    obtain rfl := Event.datapath.inj (Option.some.inj ht)
    refine ⟨dp.info k.connection, ?_, ?_⟩
    · rw [infoOf, hdp, hlink]
      rfl
    · have hinfo := info_of_registered hregistered (k := k.connection) (hdp ▸ hlink)
      exact hinfo

/-- The id `d` is free, and goes to connection `l`. -/
theorem outline_takeOver_free {d : DatapathId} (hd : c.registry.find? d = none) (l : LinkId) :
    (c.takeOver d l).outline = c.outline.setMain d (some l) := by
  unfold takeOver
  rw [hd]
  exact outline_setRegistry c d l

/-- The id `d` of the datapath of connection `m` goes to connection `l`. -/
theorem outline_takeOver {d : DatapathId} {old : Datapath} (hd : c.registry.find? d = some m)
    (hold : c.datapath? m = some old) (hannounced : old.isAnnounced = true) (l : LinkId) :
    ∃ gone, gone.Tells .revoked old.id ∧ (c.takeOver d l).outline =
      ((((c.outline.setMain d (some l)).updateLink m .revoke).closeLinks
        old.auxiliaries.values).updateDatapath m .withdraw).tell [gone] := by
  unfold takeOver
  rw [hd, ← outline_setRegistry]
  exact outline_teardown (c := { c with registry := c.registry.put d l }) hold hannounced rfl

/-- A datapath that nobody was told of is announced, whatever the one that had its id leaves. -/
theorem register_spec {dp : Datapath} (hdp : c.datapath? l = some dp)
    (hnew : dp.isAnnounced = false) (hmain : dp.main = l)
    (hself : (c.takeOver dp.id l).outline.datapath? l = some dp.outline)
    (hfind : (c.takeOver dp.id l).outline.main? dp.id = some l) {k : LinkOutline}
    (hk : (c.takeOver dp.id l).outline.link? l = some k) :
    ∃ e, e.Tells .connected dp.id ∧
      (c.register l).outline = ((c.takeOver dp.id l).outline.updateDatapath l .announce).tell [e] ∧
      (c.register l).Introduces := by
  obtain ⟨hregister, hintroduces⟩ := outline_register hdp hnew
  obtain ⟨j, hj, -⟩ := Option.map_eq_some_iff.1 hk
  obtain ⟨e, he, hout, hin⟩ := announce_spec hself hfind hmain hj
  exact ⟨e, he, hregister.trans hout, hintroduces hin⟩

/-- Registration is the arrival of a datapath, and the end of the one that had its id. -/
theorem news_register {o : Outline} (h : o.Sound) (ha : o.Attached) {k : LinkOutline}
    (hk : o.link? l = some k) (hs : k.stage = .extendedHandshake)
    (hout : c.outline = o.updateLink l (.enter .postHandshake)) : News l o (c.register l) := by
  obtain ⟨-, -, d, ports, -, hnew⟩ := (h.link hk).collecting hs
  have hdatapath (j : LinkId) : c.outline.datapath? j = o.datapath? j := by rw [hout]; rfl
  have hregistry (i : DatapathId) : c.registry.find? i = o.main? i := by
    show c.outline.main? i = _
    rw [hout]
    rfl
  obtain ⟨dp, hdp, hdpnew⟩ := Option.map_eq_some_iff.1 ((hdatapath l).trans hnew)
  obtain rfl : dp.id = d := congrArg (·.id) hdpnew
  -- whatever becomes of the id, the datapath is announced in the end
  have harrive {k' : LinkOutline} := register_spec (k := k') hdp (congrArg (·.isAnnounced) hdpnew)
    (congrArg (·.main) hdpnew)
  have hself : o.datapath? l = some dp.outline := hnew.trans (congrArg some hdpnew.symm)
  cases hm : o.main? dp.id with
  | none =>
    have htake := outline_takeOver_free ((hregistry dp.id).trans hm) l
    rw [htake, hout] at harrive
    obtain ⟨e, he, hfinal, hin⟩ := harrive hself (by simp)
      (show _ = some (k.enter .postHandshake) by simp [hk])
    refine ⟨?_, hin⟩
    rw [hfinal]
    have hstep := Outline.Eventful.connects hk hs hself hm he
    exact hstep
  | some m =>
    obtain ⟨_, old₀, -, hold₀, hmain⟩ := h.registered hm
    obtain ⟨old, hold, rfl⟩ := Option.map_eq_some_iff.1 ((hdatapath m).trans hold₀)
    obtain ⟨hlm, hl⟩ := h.apart ha hk hs hm hold₀
    have hl : l ∉ old.auxiliaries.values := hl
    have holdid : old.id = dp.id := hmain.id_eq
    obtain ⟨gone, hgone, htake⟩ :=
      outline_takeOver ((hregistry dp.id).trans hm) hold hmain.isAnnounced l
    rw [htake, hout] at harrive
    obtain ⟨e, he, hfinal, hin⟩ := harrive (by simpa [hlm] using hself) (by simp)
      (show _ = some (k.enter .postHandshake) by simp [hlm, hl, hk])
    -- the id is handed over before the old datapath is taken down, which comes to the same as
    -- taking it down first
    have hshape := Outline.register_unregister o dp.id .revoke hlm
      (show l ∉ old.outline.auxiliaries.values from hl)
    have hevents (o : Outline) : ((o.tell [gone]).updateDatapath l .announce).tell [e] =
        (o.updateDatapath l .announce).tell [gone, e] := by
      simp [Outline.tell, Outline.updateDatapath]
    have hboth : (c.register l).outline =
        ((o.unregister dp.id m old.outline .revoke).register dp.id l).tell [gone, e] := by
      rw [hfinal, hevents]
      exact congrArg (Outline.tell · [gone, e]) hshape
    refine ⟨?_, hin⟩
    rw [hboth]
    have hstep := Outline.Eventful.replaces hk hs hself hm hold₀ (holdid ▸ hgone) he
    exact hstep

/-- What is known when the last description of the switch of connection `l` is in. -/
def described (c : Controller) (l : LinkId) (d : Descriptions) : Controller :=
  ((c.modifyDatapath l (describe d)).modifySession l fun s =>
    { s with descriptions := s.descriptions.takePorts.1 }).modifyConnection l fun k =>
      k.enter .postHandshake

/-- When the last description is in, the datapath is registered. -/
theorem finishDescriptions_eq {s : Session} (hs : s.datapath = some l) :
    c.finishDescriptions l s = (c.described l s.descriptions).register l := by
  simp only [finishDescriptions, hs]
  rfl

/-- The outline takes over what was described. -/
theorem outline_described (c : Controller) (l : LinkId) (d : Descriptions) :
    (c.described l d).outline = (c.outline.describe l d).updateLink l (.enter .postHandshake) := by
  have hdatapath : (c.modifyDatapath l (describe d)).outline =
      c.outline.updateDatapath l (.updatePorts d.settle) :=
    outline_modifyDatapath fun _ _ => rfl
  rw [described, outline_modifyConnection_enter,
    outline_modifySession_learn _ l fun d => d.takePorts.1, hdatapath, Outline.describe]

/-- The end of the descriptions of a switch is the arrival of its datapath. -/
theorem news_finishDescriptions (h : c.outline.Sound) (ha : c.outline.Attached) {k : Link}
    (hk : c.link? l = some k) (hs : k.connection.stage = .extendedHandshake) :
    ReflTransGen (Outline.Calm (some l)) c.outline
        (c.outline.describe l k.session.descriptions) ∧
      News l (c.outline.describe l k.session.descriptions) (c.finishDescriptions l k.session) := by
  have hko := link?_outline hk
  obtain ⟨-, hserves, -⟩ := (h.link hko).collecting hs
  -- the ports that were described replace those there are, and are dropped
  have hports := Outline.Calm.ports hko (.inl hs) hserves k.session.descriptions.settle
  have hlearn := Outline.Calm.learn
    (o := c.outline.updateDatapath l (.updatePorts k.session.descriptions.settle)) hko hs
    fun d => d.takePorts.1
  have hk' : (c.outline.describe l k.session.descriptions).link? l =
      some (k.outline.learn fun d => d.takePorts.1) := by
    simp [Outline.describe, hko]
  refine ⟨(ReflTransGen.single hports).tail hlearn, ?_⟩
  rw [finishDescriptions_eq hserves]
  exact news_register ((h.calm hports).calm hlearn) ((ha.calm hports).calm hlearn) hk' hs
    (outline_described c l k.session.descriptions)

/-! ## Auxiliary connections -/

/-- A registered datapath is filed under the connection that stands for it. -/
theorem registered?_eq_some {d : DatapathId} {dp : Datapath} (h : c.registered? d = some dp) :
    ∃ m, c.registry.find? d = some m ∧ c.datapath? m = some dp :=
  Option.bind_eq_some_iff.1 h

/-- An auxiliary connection that finds its datapath becomes one of its connections. -/
theorem attach_eq_some (h : c.outline.Sound) (hattach : c.attach l = some (c', m)) :
    ∃ k d dp, c.link? l = some k ∧ k.connection.datapath = some d ∧ c.registry.find? d = some m ∧
      c.datapath? m = some dp ∧
      c'.outline =
        (c.outline.closeLinks (dp.auxiliaries.find? k.connection.auxiliary).toList).updateDatapath m
          (.attach k.connection.auxiliary l) := by
  unfold attach at hattach
  simp only [Option.bind_eq_bind, Option.bind_eq_some_iff] at hattach
  obtain ⟨_, hconnection, d, hd, dp, hdp, heq⟩ := hattach
  obtain ⟨k, hk, rfl⟩ := connection?_eq_some hconnection
  -- the datapath is looked up by its id, and its main connection is the one it was found under
  obtain ⟨m', hm', hdp⟩ := registered?_eq_some hdp
  obtain rfl : dp.main = m' := h.main_eq (datapath?_outline hdp)
  simp only [Datapath.attach, Option.pure_def, Option.some.injEq, Prod.mk.injEq] at heq
  obtain ⟨rfl, rfl⟩ := heq
  refine ⟨k, d, dp, hk, hd, hm', hdp, ?_⟩
  rw [outline_closeLinks, outline_setDatapath (g := .attach k.connection.auxiliary l)
    (datapath?_outline hdp) rfl]
  exact Outline.ext (funext fun j => by simp) (funext fun j => by simp) (funext fun i => by simp)
    (by simp)

/-! ## The end of a session -/

/-- What a datapath learns of the end of connection `l`: it is detached if it is still attached, and
the datapath goes with its main connection. -/
theorem connectionClosed_cases (h : c.outline.Sound) {k : Link} (hk : c.link? l = some k) :
    (c.connectionClosed l).outline = c.outline ∨
      (∃ d m dp, c.outline.main? d = some m ∧ c.outline.datapath? m = some dp ∧
        dp.auxiliaries.find? k.connection.auxiliary = some l ∧
        (c.connectionClosed l).outline =
          c.outline.updateDatapath m (.detach k.connection.auxiliary)) ∨
      ∃ d dp e, c.outline.main? d = some l ∧ c.outline.datapath? l = some dp ∧
        e.Tells .disconnected d ∧
        (c.connectionClosed l).outline = (c.outline.unregister d l dp .close).tell [e] := by
  have hconnection : c.connection? l = some k.connection :=
    congrArg (Option.map fun j : Link => j.connection) hk
  unfold connectionClosed
  rw [hconnection]
  dsimp only
  split
  · exact .inl rfl
  · exact .inl rfl
  · next d hrevoked hd =>
    split
    · exact .inl rfl
    · next dp hdp =>
      obtain ⟨m, hm, hdp⟩ := registered?_eq_some hdp
      have hmo : c.outline.main? d = some m := hm
      have hdpo := datapath?_outline hdp
      obtain rfl : dp.main = m := h.main_eq hdpo
      split
      · -- an auxiliary connection, if it is still that
        by_cases hfind : dp.auxiliaries.find? k.connection.auxiliary = some l
        · refine .inr (.inl ⟨d, dp.main, dp.outline, hmo, hdpo, hfind, ?_⟩)
          refine outline_modifyDatapath fun dp' hdp' => ?_
          obtain rfl : dp = dp' := Option.some.inj (hdp.symm.trans hdp')
          rw [Datapath.detach, if_pos hfind]
          rfl
        · refine .inl (outline_modifyDatapath_same fun dp' hdp' => ?_)
          obtain rfl : dp = dp' := Option.some.inj (hdp.symm.trans hdp')
          rw [Datapath.detach, if_neg hfind]
      · split
        · next hl =>
          -- it is the main connection, so the datapath goes with it
          obtain ⟨_, _, -, hdp₀, hmain⟩ := h.registered hmo
          obtain rfl := Option.some.inj (hdpo.symm.trans hdp₀)
          have hid : dp.id = d := hmain.id_eq
          have hleave : LinkOutline.close =
              if DatapathEventKind.disconnected = .revoked then .revoke else .close := rfl
          obtain ⟨e, he, hgone⟩ := outline_teardown (c := { c with registry := c.registry.erase d })
            (hl ▸ hdp) hmain.isAnnounced hleave
          have herase : ({ c with registry := c.registry.erase d } : Controller).outline =
              c.outline.setMain d none :=
            Outline.ext rfl rfl (funext fun i => Keyed.find?_erase d i c.registry) rfl
          refine .inr (.inr ⟨d, dp.outline, e, hl ▸ hmo, hl ▸ hdpo, hid ▸ he, ?_⟩)
          rw [hgone, herase]
          rfl
        · exact .inl rfl

/-- The datapath of a connection that has come to an end learns of it. -/
theorem moves_connectionClosed (h : c.outline.Sound) {k : Link} (hk : c.link? l = some k)
    (hfinal : k.outline.stage.isFinal = true) : Moves a l c (c.connectionClosed l) := by
  rcases connectionClosed_cases h hk with hout | ⟨d, m, dp, hm, hdp, hfind, hout⟩ |
    ⟨d, dp, e, hm, hdp, he, hout⟩
  · exact moves_of_eq hout
  · exact moves_of_calm (.single (hout ▸ .detach (link?_outline hk) hfinal hm hdp hfind))
  · have hevents : (c.connectionClosed l).events =
        (c.outline.unregister d l dp .close).events ++ [e] := congrArg Outline.events hout
    exact moves_of_news ⟨hout ▸ .disconnects hm hdp he, introduces_of_tells hevents he (by decide)⟩

/-- The session of connection `l` is over, and the connection closed. -/
def finish (c : Controller) (l : LinkId) : Controller :=
  (c.modifyConnection l Connection.close).modifySession l fun s => { s with isOver := true }

/-- The outline of a session that is over is finished. -/
theorem outline_finish (c : Controller) (l : LinkId) :
    (c.finish l).outline = c.outline.updateLink l .finish := by
  have hover : (c.finish l).outline =
      (c.modifyConnection l Connection.close).outline.updateLink l
        fun k => { k with isOver := true } := outline_modifyLink fun _ _ => rfl
  rw [hover, outline_modifyConnection_close, Outline.updateLink_updateLink]
  rfl

/-- A session that is not over yet ends with its connection, and then its datapath learns of it. -/
theorem endSession_eq {k : Link} (hk : c.link? l = some k) (hopen : k.session.isOver = false) :
    c.endSession l = (c.finish l).connectionClosed l ∧
      ∃ k' : Link, (c.finish l).link? l = some k' ∧ k'.outline.stage.isFinal = true := by
  have hlink : (c.finish l).link? l =
      some ⟨k.connection.close, { k.session with isOver := true }⟩ := by
    simp only [finish, modifySession, modifyConnection, link?_modifyLink, ↓reduceIte, hk]
    rfl
  refine ⟨?_, _, hlink, ?_⟩
  · simp only [endSession, hk, hopen, Bool.false_eq_true, ↓reduceIte]
    rfl
  · exact (congrArg (·.stage.isFinal) (outline_close k)).trans k.outline.isFinal_close

/-- Closing connections registers nobody and takes no id away. -/
private theorem registry_closeLinks (c : Controller) (ls : List LinkId) :
    (c.closeLinks ls).registry = c.registry := by
  induction ls generalizing c with
  | nil => rfl
  | cons l ls ih => exact ih (c.modifyConnection l Connection.close)

/-- Neither does a teardown by itself. -/
private theorem registry_teardown (c : Controller) (m : LinkId) (kind : DatapathEventKind) :
    (c.teardown m kind).registry = c.registry := by
  unfold teardown
  split
  · rfl
  · next dp _ =>
    have hclosed := registry_closeLinks (c.modifyConnection m
      (if kind = .revoked then Connection.revoke else Connection.close)) dp.auxiliaries.values
    dsimp only
    split
    · exact hclosed
    · exact hclosed

/-- The end of a connection makes one id free at most. -/
private theorem registry_connectionClosed (c : Controller) (l : LinkId) :
    (c.connectionClosed l).registry = c.registry ∨
      ∃ d, (c.connectionClosed l).registry = c.registry.erase d := by
  unfold connectionClosed
  split
  · exact .inl rfl
  · split
    · exact .inl rfl
    · exact .inl rfl
    · split
      · exact .inl rfl
      · split
        · exact .inl rfl
        · split
          · exact .inr ⟨_, registry_teardown _ l _⟩
          · exact .inl rfl

/-- Nobody is registered by the end of a session. -/
theorem registry_endSession {i : DatapathId} (h : (c.endSession l).registry.find? i = some m) :
    c.registry.find? i = some m := by
  unfold endSession at h
  split at h
  · exact h
  · split at h
    · exact h
    · rcases registry_connectionClosed ((c.modifyConnection l Connection.close).modifySession l
        fun s => { s with isOver := true }) l with heq | ⟨d, heq⟩
      · exact heq ▸ h
      · dsimp only at h
        -- at most one id is taken out, so what is still there was there before
        rw [heq, Keyed.find?_erase] at h
        split at h
        · cases h
        · exact h

/-- The end of a session is an operation of its connection. -/
theorem moves_endSession (h : c.outline.Sound) (a : Option LinkId) (l : LinkId) :
    Moves a l c (c.endSession l) := by
  cases hk : c.link? l with
  | none => exact moves_of_eq (by simp only [endSession, hk])
  | some k =>
    cases hover : k.session.isOver with
    | true => exact moves_of_eq (by simp only [endSession, hk, hover, ↓reduceIte])
    | false =>
      obtain ⟨heq, k₁, hk₁, hfinal⟩ := endSession_eq hk hover
      have hcalm : Outline.Calm a c.outline (c.finish l).outline := outline_finish c l ▸ .finish l
      rw [heq]
      exact (moves_connectionClosed (h.calm hcalm) hk₁ hfinal).after_calm (.single hcalm)

/-- The connection of a session that ended has come to a final stage. -/
theorem isPast_endSession (h : c.outline.Sound) {k : Link} (hk : c.link? l = some k) :
    (c.endSession l).outline.IsPast l := by
  -- a session that is over already has its connection in a final stage
  cases hover : k.session.isOver with
  | true =>
    have hfinal := (h.link (link?_outline hk)).final_of_gone (.inr hover)
    have hsame : c.endSession l = c := by simp only [endSession, hk, hover, ↓reduceIte]
    exact hsame.symm ▸ ⟨k.outline, link?_outline hk, .inr hfinal⟩
  | false =>
    obtain ⟨heq, k₁, hk₁, hfinal⟩ := endSession_eq hk hover
    have hcalm : Outline.Calm none c.outline (c.finish l).outline := outline_finish c l ▸ .finish l
    have hpast : (c.finish l).outline.IsPast l := ⟨_, link?_outline hk₁, .inr hfinal⟩
    rw [heq]
    exact (moves_connectionClosed (a := none) (h.calm hcalm) hk₁ hfinal).has
      Outline.lasting_isSettled hpast

end Controller

end Southbound
