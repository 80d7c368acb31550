import Southbound.Proofs.Controller.Confinement

/-!
# What a frame can reach

Registration, teardown and the attachment of an auxiliary connection go by the id of the connection
the frame came on, and what they find under that id has nothing to do with the datapaths that are
spared. A frame is confined either from the start or, where it is the one that binds its connection,
from there on (`onFrame_cases`).
-/

namespace Southbound.Controller

variable {P : DatapathId → Prop} {c c' : Controller} {l m : LinkId}

/-! ## Registration and teardown -/

/-- A datapath outside of `P` goes. -/
theorem confined_teardown (hm : c.Foreign P m) (hid : ∀ dp, c.datapath? m = some dp → ¬ P dp.id)
    (kind : DatapathEventKind) : Confined P l c (c.teardown m kind) := by
  refine confined_of fun ha _ => ?_
  unfold teardown
  split
  · exact confined_refl c
  · next dp hdp =>
    have hd := hid dp hdp
    have hclear := ha.datapath hdp
    -- every connection that is closed belongs to the datapath, which is not spared
    let c₁ := c.modifyConnection m
      (if kind = .revoked then Connection.revoke else Connection.close)
    let c₂ := c₁.closeLinks dp.auxiliaries.values
    let dp' : Datapath := { dp with auxiliaries := [], provisioning := .cancelled }
    let c₃ := c₂.modifyDatapath m fun _ => dp'
    have hleft : Solo m c c₁ := solo_modifyConnection c m fun k => by
      split
      · exact k.datapath_revoke
      · exact k.datapath_close
    have hclosed : Confined P l c₁ c₂ := confined_closeLinks fun j hj =>
      (hclear.auxiliary hd j hj).congr hleft.binding
    have hdp₂ : c₂.datapath? m = some dp :=
      (congrFun (datapath?_closeLinks c₁ _) m).trans ((hleft.datapath? m).trans hdp)
    have hwithdrawn : Confined P l c₂ c₃ := confined_modifyDatapath fun old hold hclear => by
      obtain rfl := Option.some.inj (hdp₂.symm.trans hold)
      exact ⟨hd, hd, hclear.withAuxiliaries rfl rfl rfl fun _ => List.forall_mem_nil _⟩
    have hdp₃ : c₃.datapath? m = some dp' := by
      rw [datapath?_modifyDatapath, if_pos rfl, hdp₂]
      rfl
    -- its requests fail in its own table
    have hfailed : Confined P l c₃ (c₃.track dp' Tracker.failAll).1 :=
      confined_track .failAll (fun _ => rfl) rfl hdp₃ hd
    have hgone := (hleft.confined_of_foreign hm).trans
      (hclosed.trans (hwithdrawn.trans hfailed))
    dsimp only
    split
    · exact hgone.trans (confined_of_eq rfl rfl rfl rfl)
    · exact hgone

/-- An id outside of `P` goes to connection `l`, whoever had it. -/
theorem confined_takeOver {d : DatapathId} (hd : ¬ P d)
    (hid : ∀ dp, c.datapath? l = some dp → ¬ P dp.id) : Confined P l c (c.takeOver d l) := by
  refine confined_of fun ha hl => ?_
  -- the id now leads to this connection, which is bound to no id in `P`
  have hput : Confined P l c { c with registry := c.registry.put d l } := by
    refine confined_registry hd (fun i hi => ?_) fun m hm => ?_
    · rw [Keyed.find?_put, if_neg hi]
    · rw [Keyed.find?_put, if_pos rfl] at hm
      exact Option.some.inj hm ▸ ⟨hl, hid⟩
  unfold takeOver
  split
  · next old hold =>
    -- the old main connection was registered under `d`, so it is foreign to `P` as well
    obtain ⟨hforeign, hids⟩ := ha.registered hold hd
    exact hput.trans (confined_teardown (c := { c with registry := c.registry.put d l }) hforeign
      hids .revoked)
  · exact hput

/-- Registration is confined to the id of the datapath that is registered. -/
private theorem confined_register (hid : ∀ dp, c.datapath? l = some dp → ¬ P dp.id) :
    Confined P l c (c.register l) := by
  intro ha hl
  unfold register
  split
  · exact confined_refl c ha hl
  · next dp hdp =>
    let taken := c.takeOver dp.id l
    let announced : Datapath := { dp with isAnnounced := true, provisioning := .submitted }
    -- the id is taken over first, and what was told of the datapath comes after that
    obtain ⟨htaken, ha₁⟩ := confined_takeOver (hid dp hdp) hid ha hl
    have hclear : c.Clear P l announced :=
      (ha.datapath hdp).withAuxiliaries rfl rfl rfl fun _ _ => .inl
    have hannounced : Confined P l taken (taken.modifyDatapath l fun _ => announced) := by
      refine confined_modifyDatapath fun old hold _ => ⟨fun hd => ?_, hid dp hdp, ?_⟩
      · exact hid old ((htaken.datapath? hd).1 hold) hd
      · exact hclear.contained htaken
    -- telling and submitting concern no datapath
    have htold (c' : Controller) (b : Bool) : Confined P l c'
        (if b then c' else c'.emitDatapath .connected { dp with isAnnounced := true }) := by
      split
      · exact confined_refl c'
      · exact confined_of_eq rfl rfl rfl rfl
    have hsubmitted (c' : Controller) : Confined P l c'
        (if c'.isShutDown then c' else { c' with tasks := c'.tasks ++ [l] }) := by
      split
      · exact confined_refl c'
      · exact confined_of_eq rfl rfl rfl rfl
    -- the connection is as foreign to the spared datapaths as before
    obtain ⟨hrest, ha₂⟩ := (hannounced.trans ((htold _ dp.isAnnounced).trans (hsubmitted _))) ha₁
      (hl.congr htaken.binding)
    exact ⟨htaken.trans hrest, ha₂⟩

/-- A registered datapath outside of `P` is filed under its main connection. -/
theorem Apart.of_registered (h : c.Apart P) {d : DatapathId} {dp : Datapath}
    (hdp : c.registered? d = some dp) (hd : ¬ P d) :
    c.datapath? dp.main = some dp ∧ c.Foreign P dp.main ∧
      ∀ dp', c.datapath? dp.main = some dp' → ¬ P dp'.id := by
  obtain ⟨m, hm, hdp⟩ := registered?_eq_some hdp
  obtain rfl := (h.datapath hdp).main_eq
  exact ⟨hdp, h.registered hm hd⟩

/-- Detaching a connection adds no other. -/
private theorem mem_values_detach {dp : Datapath} {x : UInt8} {i j : LinkId}
    (hj : j ∈ (dp.detach x i).auxiliaries.values) : j ∈ dp.auxiliaries.values := by
  unfold Datapath.detach at hj
  split at hj
  · obtain ⟨e, he, rfl⟩ := List.mem_map.1 hj
    exact List.mem_map_of_mem (List.mem_filter.1 he).1
  · exact hj

/-- What follows the end of a connection is confined to its datapath. -/
private theorem confined_connectionClosed (c : Controller) (l : LinkId) :
    Confined P l c (c.connectionClosed l) := by
  refine confined_of fun ha hl => ?_
  unfold connectionClosed
  split
  · exact confined_refl c
  · next k hk =>
    split
    · exact confined_refl c
    · exact confined_refl c
    · next d _ hbound =>
      -- the connection that closes is bound to `d`, and what is bound to ids in `P` does not close
      -- here
      have hd : ¬ P d := hl d ((binding?_of_connection? hk).trans hbound)
      split
      · exact confined_refl c
      · next dp hdp =>
        obtain ⟨-, hmain, hids⟩ := ha.of_registered hdp hd
        split
        -- an auxiliary connection closes: it is taken from the list, and no id changes
        · refine confined_updateDatapath hids fun dp => ?_
          refine ⟨?_, ?_, ?_, fun j => mem_values_detach⟩ <;> unfold Datapath.detach <;> split <;>
            rfl
        · split
          · next hml =>
            -- the main connection closes: the id leaves the registry first, then all that hung on
            -- it goes
            rw [hml] at hmain hids
            have herased : Confined P l c { c with registry := c.registry.erase d } := by
              refine confined_registry hd (fun i hi => ?_) fun m hm => ?_
              · rw [Keyed.find?_erase, if_neg hi]
              · rw [Keyed.find?_erase, if_pos rfl] at hm
                cases hm
            exact herased.trans (confined_teardown
              (c := { c with registry := c.registry.erase d }) hmain hids .disconnected)
          · exact confined_refl c

/-- So is the end of a session. -/
theorem confined_endSession (c : Controller) (l : LinkId) : Confined P l c (c.endSession l) := by
  cases hk : c.link? l with
  | none =>
    simp only [endSession, hk]
    exact confined_refl c
  | some k =>
    cases hover : k.session.isOver with
    | true =>
      simp only [endSession, hk, hover, ↓reduceIte]
      exact confined_refl c
    | false =>
      rw [(endSession_eq hk hover).1]
      exact (solo_finish c l).confined.trans (confined_connectionClosed _ l)

/-! ## Features -/

/-- An auxiliary connection takes the place of another one of the datapath of its id. -/
theorem confined_attach (hattach : c.attach l = some (c', m)) : Confined P l c c' := by
  refine confined_of fun ha hl => ?_
  unfold attach at hattach
  simp only [Option.bind_eq_bind, Option.bind_eq_some_iff] at hattach
  obtain ⟨k, hk, d, hbound, dp, hdp, heq⟩ := hattach
  simp only [Datapath.attach, Option.pure_def, Option.some.injEq, Prod.mk.injEq] at heq
  obtain ⟨rfl, -⟩ := heq
  obtain ⟨hdp, -, hids⟩ :=
    ha.of_registered hdp (hl d ((binding?_of_connection? hk).trans hbound))
  have hd := hids dp hdp
  -- the new auxiliary is the connection itself, the others were there before
  have hput : Confined P l c (c.modifyDatapath dp.main fun _ =>
      { dp with auxiliaries := dp.auxiliaries.put k.auxiliary l }) := by
    refine confined_modifyDatapath fun old hold hclear => ?_
    obtain rfl := Option.some.inj (hdp.symm.trans hold)
    refine ⟨hd, hd, hclear.withAuxiliaries rfl rfl rfl fun _ j hj => ?_⟩
    obtain ⟨e, he, rfl⟩ := List.mem_map.1 hj
    rcases Keyed.mem_put he with rfl | he
    · exact .inr hl
    · exact .inl (List.mem_map_of_mem he)
  -- only the connection that held this auxiliary id so far is closed, and it was the same
  -- datapath's
  refine hput.trans (confined_closeLinks fun j hj => ?_)
  have hmem : j ∈ dp.auxiliaries.values :=
    List.mem_map_of_mem (Keyed.mem_of_find? (Option.mem_toList.1 hj))
  exact (ha.datapath hdp).auxiliary hd j hmem

/-- Attaching an auxiliary connection is confined to the datapath that it names. -/
private theorem confined_onAuxiliaryFeatures (c : Controller) (l : LinkId) :
    Confined P l c (c.onAuxiliaryFeatures l).1 := by
  unfold onAuxiliaryFeatures
  split
  · exact confined_refl c
  · next hattach =>
    exact (confined_attach hattach).trans
      ((solo_modifySession _ l _).trans (solo_enter _ l .ready)).confined

/-- Introducing a datapath is confined to its id. -/
private theorem confined_onMainFeatures (hnone : c.datapath? l = none) {f : SwitchFeatures}
    (hd : ¬ P ⟨f.datapathId⟩) : Confined P l c (c.onMainFeatures l f).1 := by
  let c₁ : Controller := { c with datapaths := c.datapaths.put l (.new f l c.settings.ageOut) }
  have hintroduced : Confined P l c c₁ := confined_introduce hnone hd _
  have hconfigured := solo_configureSwitch c₁ l
  -- the datapath is new, and from here on only its own connection is written to and moved on
  unfold onMainFeatures
  dsimp only
  split
  · next h =>
    rw [h] at hconfigured
    exact hintroduced.trans hconfigured.confined
  · next c₂ h =>
    rw [h] at hconfigured
    have hentered := (solo_enter c₂ l .extendedHandshake).trans
      (solo_modifySession _ l fun s => { s with datapath := some l })
    refine (hintroduced.trans hconfigured.confined).trans ?_
    split
    · exact hentered.confined
    · exact (hentered.trans (solo_requestDescriptions _ l _)).confined

/-- Connection `l` has learnt the features of its switch, and which datapath it belongs to. -/
def bound (c : Controller) (l : LinkId) (f : SwitchFeatures) : Controller :=
  (c.received l).modifyConnection l fun k => k.bind ⟨f.datapathId⟩ f.auxiliaryId

/-- The features are handled for the datapath that they name, and for no other. -/
theorem confined_onFeatures (hnone : c.datapath? l = none) {f : SwitchFeatures}
    (hd : ¬ P ⟨f.datapathId⟩) :
    Confined P l (c.bound l f) ((c.received l).onFeatures l f).1 := by
  have hnone : (c.bound l f).datapath? l = none := hnone
  unfold onFeatures
  dsimp only
  split
  · exact confined_onMainFeatures hnone hd
  · exact confined_onAuxiliaryFeatures _ l

/-! ## Descriptions and service -/

/-- What a session learns is confined to the datapath that it serves. -/
private theorem confined_learn {s : Session}
    (hs : ∀ m dp, s.datapath = some m → c.datapath? m = some dp → ¬ P dp.id) (x : Xid)
    (message : Message) : Confined P l c (c.learn l s x message) := by
  unfold learn
  split
  · exact (solo_modifySession c l _).confined
  · exact (solo_modifySession c l _).confined
  · split
    · next m hm =>
      exact confined_updateDatapath (fun dp => hs m dp hm) fun dp =>
        ⟨rfl, rfl, rfl, fun _ hj => hj⟩
    · exact confined_refl c
  · exact confined_refl c

/-- Learning changes neither whom the session serves nor the id of that datapath. -/
theorem serves_learn {k k' : Link} {s : Session} (hk : c.link? l = some k) {x : Xid}
    {message : Message} (hk' : (c.learn l s x message).link? l = some k') :
    k'.session.datapath = k.session.datapath := by
  have hmodified {f : Session → Session} (hf : (f k.session).datapath = k.session.datapath)
      (hk' : (c.modifySession l f).link? l = some k') :
      k'.session.datapath = k.session.datapath := by
    rw [modifySession, link?_modifyLink, if_pos rfl, hk] at hk'
    rw [← Option.some.inj hk']
    exact hf
  have hsame (hk' : c.link? l = some k') : k'.session.datapath = k.session.datapath := by
    rw [Option.some.inj (hk.symm.trans hk')]
  -- what is learnt of ports, descriptor and features leaves the served datapath alone, case by case
  unfold learn at hk'
  split at hk'
  · exact hmodified rfl hk'
  · exact hmodified rfl hk'
  · split at hk'
    · exact hsame hk'
    · exact hsame hk'
  · exact hsame hk'

/-- So is the end of the descriptions. -/
private theorem confined_finishDescriptions {s : Session} (hs : s.datapath = some l)
    (hid : ∀ dp, c.datapath? l = some dp → ¬ P dp.id) :
    Confined P l c (c.finishDescriptions l s) := by
  rw [finishDescriptions_eq hs]
  have hdescribed : Confined P l c (c.modifyDatapath l (describe s.descriptions)) :=
    confined_updateDatapath hid fun dp => ⟨rfl, rfl, rfl, fun _ hj => hj⟩
  refine (hdescribed.trans ((solo_modifySession _ l _).trans
    (solo_enter _ l .postHandshake)).confined).trans (confined_register fun dp hdp => ?_)
  have hfind : (c.modifyDatapath l (describe s.descriptions)).datapath? l = some dp := hdp
  rw [datapath?_modifyDatapath, if_pos rfl] at hfind
  obtain ⟨old, hold, rfl⟩ := Option.map_eq_some_iff.1 hfind
  exact hid old hold

/-- So is a description. -/
private theorem confined_onDescription {k : Link} (hk : c.link? l = some k)
    (hserves : k.session.datapath = some l)
    (hid : ∀ dp, c.datapath? l = some dp → ¬ P dp.id) (x : Xid) (message : Message) :
    Confined P l c (c.onDescription l k.session x message).1 := by
  intro ha hl
  unfold onDescription
  split
  · exact (solo_answerEcho c l x _).confined ha hl
  -- the connection serves its own datapath while it still collects the descriptions
  · have hs (m : LinkId) (dp : Datapath) (hm : k.session.datapath = some m)
        (hdp : c.datapath? m = some dp) : ¬ P dp.id := by
      obtain rfl := Option.some.inj (hserves.symm.trans hm)
      exact hid dp hdp
    obtain ⟨hlearnt, ha'⟩ := confined_learn hs x message ha hl
    dsimp only
    split
    · exact ⟨hlearnt, ha'⟩
    · next k' hk' =>
      -- with the last description the datapath is entered in the registry, under its own id
      split
      · have hfinished := confined_finishDescriptions ((serves_learn hk hk').trans hserves)
          fun dp hdp hd => hid dp ((hlearnt.datapath? hd).1 hdp) hd
        obtain ⟨hdone, ha''⟩ := hfinished ha' (hl.congr hlearnt.binding)
        exact ⟨hlearnt.trans hdone, ha''⟩
      · exact ⟨hlearnt, ha'⟩

/-- A notification is confined to its datapath. -/
private theorem confined_onNotification (dp : Datapath)
    (hid : ∀ dp', c.datapath? dp.main = some dp' → ¬ P dp'.id) (message : Message) :
    Confined P l c (c.onNotification dp message) := by
  unfold onNotification
  split
  · next s =>
    -- a port status changes the ports of its own datapath only
    have hports : Confined P l c
        (c.modifyDatapath dp.main fun d => { d with ports := d.ports.apply s }) :=
      confined_updateDatapath hid fun dp => ⟨rfl, rfl, rfl, fun _ hj => hj⟩
    unfold onPortStatus
    dsimp only
    split
    · exact hports.trans (confined_of_eq rfl rfl rfl rfl)
    · exact hports
  · exact confined_of_eq rfl rfl rfl rfl
  · exact confined_refl c

/-- Telling listeners of a message changes no connection. -/
private theorem solo_publish (c : Controller) (k : Connection) (dp : Datapath) (x : Xid)
    (message : Message) : Solo l c (c.publish k dp x message) := by
  unfold publish
  split
  · exact .refl c
  · exact solo_of_eq rfl rfl rfl rfl

/-- What comes in on a connection in service is confined to the datapath that it serves. -/
private theorem confined_onService {k : Link} (hs : ∀ m dp, k.session.datapath = some m →
    c.datapath? m = some dp → ¬ P dp.id) (x : Xid) (message : Message) :
    Confined P l c (c.onService l k x message).1 := by
  intro ha hl
  unfold onService
  split
  · exact (solo_answerEcho c l x _).confined ha hl
  · split
    · exact confined_refl c ha hl
    · next m hm =>
      split
      · exact confined_refl c ha hl
      · next dp hdp =>
        have hmain := (ha.datapath hdp).main_eq
        -- first what a notification changes, then the request it may answer, then the event
        obtain ⟨hnoted, ha'⟩ := confined_onNotification dp
          (hmain.symm ▸ fun dp' => hs m dp' hm) message ha hl
        dsimp only
        split
        · exact ⟨hnoted, ha'⟩
        · next dp' hdp' =>
          have hd : ¬ P dp'.id := fun hd => hs m dp' hm ((hnoted.datapath? hd).1 hdp') hd
          have hresolved : Confined P l (c.onNotification dp message)
              ((c.onNotification dp message).track dp' fun t => t.resolve x message).1 :=
            confined_track (.resolve x message) (fun _ => rfl) rfl hdp' hd
          -- apartness has to hold of the state after the notification, so it is threaded by hand
          have hall {c' : Controller} (h : Confined P l (c.onNotification dp message) c') :
              c.Contained P c' ∧ c'.Apart P := by
            obtain ⟨hdone, ha''⟩ := h ha' (hl.congr hnoted.binding)
            exact ⟨hnoted.trans hdone, ha''⟩
          split
          · next heq =>
            rw [heq] at hresolved
            exact hall hresolved
          · next heq =>
            rw [heq] at hresolved
            exact hall (hresolved.trans (solo_publish _ _ _ _ _).confined)

/-! ## Frames -/

/-- A connection serves the datapath that it belongs to. -/
theorem not_of_serves (h : c.outline.Sound) (hl : c.Foreign P l) {k : Link}
    (hk : c.link? l = some k)
    (hs : k.connection.stage = .extendedHandshake ∨ k.connection.stage.isServing = true) :
    ∀ m dp, k.session.datapath = some m → c.datapath? m = some dp → ¬ P dp.id := by
  intro m dp hm hdp
  have hko := link?_outline hk
  -- it is enough that the connection is bound to the id of what it serves
  suffices hd : k.connection.datapath = some dp.id from
    hl dp.id ((binding?_of_link? hk).trans hd)
  rcases hs with hs | hs
  -- still collecting: the connection serves its own datapath, not yet registered
  · obtain ⟨-, hserves, d, ports, hd, hnew⟩ := (h.link hko).collecting hs
    obtain rfl : l = m := Option.some.inj (hserves.symm.trans hm)
    have hsame := Option.some.inj ((datapath?_outline hdp).symm.trans hnew)
    exact hd.trans (congrArg (fun o : DatapathOutline => some o.id) hsame).symm
  -- in service: the datapath is registered, and the connection is its main one or bound to it
  · obtain ⟨d, m', hmain, hserves, hwhich⟩ := h.exists_main hko hs
    obtain rfl : m' = m := Option.some.inj (hserves.symm.trans hm)
    obtain ⟨k₀, dp₀, hk₀, hdp₀, hregistered⟩ := h.registered hmain
    obtain rfl : dp.outline = dp₀ := Option.some.inj ((datapath?_outline hdp).symm.trans hdp₀)
    have hid : dp.id = d := hregistered.id_eq
    rw [hid]
    rcases hwhich with rfl | ⟨-, hd⟩
    · obtain rfl := Option.some.inj (hko.symm.trans hk₀)
      exact hregistered.datapath_eq
    · exact hd

/-- The features of the switch are those of a frame that answers what it was asked. -/
theorem onBasic_cases (c : Controller) (l : LinkId) (s : Session) (x : Xid) (message : Message) :
    Solo l c (c.onBasic l s x message).1 ∨
      ∃ f, c.onBasic l s x message = c.onFeatures l f := by
  unfold onBasic
  split
  · exact .inl (solo_answerEcho c l x _)
  · next f =>
    split
    · exact .inr ⟨f, rfl⟩
    · exact .inl (.refl c)
  · exact .inl (.refl c)
  · exact .inl (.refl c)

/-- A frame reaches no farther than its connection, or it brings the features of the switch. -/
theorem onFrame_cases (h : c.outline.Sound) (l : LinkId) (frame : Frame) :
    (∀ P, Confined P l c (c.onFrame l frame).1) ∨
      ∃ k f, c.link? l = some k ∧ k.connection.stage = .basicHandshake ∧
        c.onFrame l frame = (c.received l).onFeatures l f := by
  have hreceived := solo_received c l
  have hout := outline_received c l
  -- whatever concerns this connection alone is confined, for every `P`
  have hsolo {c'} (hc' : Solo l (c.received l) c') : ∀ P, Confined P l c c' := fun P =>
    (hreceived.trans hc').confined
  rw [onFrame_eq]
  split
  · exact .inl (hsolo (.refl _))
  · next k hk =>
    have hserves {P : DatapathId → Prop} (hl : c.Foreign P l) (hs :
        k.connection.stage = .extendedHandshake ∨ k.connection.stage.isServing = true) :=
      not_of_serves (hout.symm ▸ h) (hl.congr hreceived.binding) hk hs
    have hservice (x : Xid) (message : Message) (hs : k.connection.stage.isServing = true) (P) :
        Confined P l c ((c.received l).onService l k x message).1 := confined_of fun _ hl =>
      hreceived.confined.trans (confined_onService (hserves hl (.inr hs)) x message)
    split
    · exact .inl (hsolo (solo_onUnreadable _ l k _))
    · next message _ =>
      -- one case per stage: only the features reply can bind the connection to an id
      unfold onMessage
      split
      · exact .inl (hsolo (solo_onHello _ l _ message))
      · exact .inl (hsolo (solo_onHello _ l _ message))
      · next hs =>
        rcases onBasic_cases (c.received l) l k.session frame.header.xid message with
          hbasic | ⟨f, heq⟩
        · exact .inl (hsolo hbasic)
        · -- a frame that arrives moves no connection on
          obtain ⟨k₀, hk₀, hsame⟩ :=
            Option.map_eq_some_iff.1 ((congrArg (·.link? l) hout).symm.trans (link?_outline hk))
          exact .inr ⟨k₀, f, hk₀, (congrArg LinkOutline.stage hsame).trans hs, heq⟩
      · next hs =>
        refine .inl fun P => confined_of fun _ hl => ?_
        have hown := hserves hl (.inl hs)
        obtain ⟨-, hself, -⟩ := ((hout.symm ▸ h).link (link?_outline hk)).collecting hs
        exact hreceived.confined.trans (confined_onDescription hk hself (fun dp => hown l dp hself)
          frame.header.xid message)
      · next hs => exact .inl (hservice frame.header.xid message (by rw [hs]; rfl))
      · next hs => exact .inl (hservice frame.header.xid message (by rw [hs]; rfl))
      · exact .inl (hsolo (.refl _))
      · exact .inl (hsolo (.refl _))

end Southbound.Controller
