import Southbound.Proofs.Controller.Hearing
import Southbound.Proofs.Controller.LifeCycle

/-!
# Ports during the handshake

From the features reply of a switch on, what it says of its ports is taken in, until the last of its
descriptions is there and its datapath is registered. `Outline.Collects` says what has been taken in
so far. Whatever else happens in the meantime makes no difference, so that the ports of the datapath
are in the end what was heard on its own connection, in that order.
-/

namespace Southbound

open Relation (ReflTransGen)

namespace Outline

variable {o o' : Outline} {l : LinkId} {d : Descriptions} {t : PortTable}

/-- The port table of the datapath of connection `m`. -/
def ports? (o : Outline) (m : LinkId) : Option PortTable := (o.datapath? m).map (·.ports)

/-- Ports stay as they are when something else about a datapath changes. -/
theorem ports?_updateDatapath (o : Outline) (j m : LinkId)
    {f : DatapathOutline → DatapathOutline} (hf : ∀ dp, (f dp).ports = dp.ports) :
    (o.updateDatapath j f).ports? m = o.ports? m := by
  unfold ports?
  rw [datapath?_updateDatapath]
  split
  · rw [Option.map_map]
    exact congrArg (Option.map · _) (funext hf)
  · rfl

/-- They stay when connections are closed. -/
theorem ports?_closeLinks (o : Outline) (ls : List LinkId) (m : LinkId) :
    (o.closeLinks ls).ports? m = o.ports? m :=
  congrArg (Option.map _) (o.datapath?_closeLinks m ls)

/-- The switch of connection `l` is being described. What it has answered so far is `d`, and `t` is
the port table that its datapath has in the meantime. -/
def Collects (o : Outline) (l : LinkId) (d : Descriptions) (t : PortTable) : Prop :=
  ∃ k, o.link? l = some k ∧ k.stage = .extendedHandshake ∧ k.descriptions = d ∧
    (o.datapath? l).map (·.ports) = some t

/-- The switch of connection `l` is still being described, with nothing new, or not any more. -/
def Onward (o : Outline) (l : LinkId) (d : Descriptions) (t : PortTable) : Prop :=
  o.Collects l d t ∨ o.IsPast l

/-! ## What makes no difference -/

/-- The connection is there. -/
private theorem Onward.link (h : o.Onward l d t) : ∃ k, o.link? l = some k := by
  rcases h with ⟨k, hk, -⟩ | ⟨k, hk, -⟩
  · exact ⟨k, hk⟩
  · exact ⟨k, hk⟩

/-- Any connection may change, but that of the switch only for good. -/
theorem Onward.updateLink (h : o.Onward l d t) {j : LinkId} {f : LinkOutline → LinkOutline}
    (hf : j = l → ∀ k, (f k).IsSettled) : (o.updateLink j f).Onward l d t := by
  by_cases hj : l = j
  · obtain ⟨k, hk⟩ := h.link
    exact .inr ⟨f k, by simp [← hj, hk], hf hj.symm k⟩
  · -- another connection changes
    rcases h with ⟨k, hk, hstage, hd, hports⟩ | ⟨k, hk, hsettled⟩
    · exact .inl ⟨k, by simp [hj, hk], hstage, hd, hports⟩
    · exact .inr ⟨k, by simp [hj, hk], hsettled⟩

/-- A connection that is cancelled has not got anywhere by that. -/
theorem Onward.cancel (h : o.Onward l d t) (j : LinkId) :
    (o.updateLink j .cancel).Onward l d t := by
  have hcancelled {k : LinkOutline} (hk : o.link? l = some k) :
      (o.updateLink j .cancel).link? l = some (if l = j then k.cancel else k) := by
    rw [link?_updateLink, hk]
    split <;> rfl
  rcases h with ⟨k, hk, hrest⟩ | ⟨k, hk, hsettled⟩
  · exact .inl ⟨_, hcancelled hk, by split <;> exact hrest⟩
  · exact .inr ⟨_, hcancelled hk, by split <;> exact hsettled⟩

/-- Any datapath may change, but not the ports of that of the switch. -/
theorem Onward.updateDatapath (h : o.Onward l d t) {m : LinkId}
    {f : DatapathOutline → DatapathOutline} (hf : m = l → ∀ dp, (f dp).ports = dp.ports) :
    (o.updateDatapath m f).Onward l d t := by
  -- still collecting: the change is to another datapath, or leaves the ports alone
  rcases h with ⟨k, hk, hstage, hd, hports⟩ | hpast
  · refine .inl ⟨k, hk, hstage, hd, ?_⟩
    rw [datapath?_updateDatapath]
    split
    · next hm =>
      obtain ⟨dp, hdp, rfl⟩ := Option.map_eq_some_iff.1 hports
      rw [hdp]
      exact congrArg some (hf hm.symm dp)
    · exact hports
  · exact .inr hpast

/-- Closing connections makes no difference, or puts an end to the description. -/
private theorem Onward.closeLinks (h : o.Onward l d t) (ls : List LinkId) :
    (o.closeLinks ls).Onward l d t := by
  induction ls generalizing o with
  | nil => exact h
  | cons j ls ih => exact ih (h.updateLink fun _ => LinkOutline.isSettled_close)

/-- Neither does a datapath that is registered. -/
private theorem Onward.register (h : o.Onward l d t) (i : DatapathId) (j : LinkId) :
    (o.register i j).Onward l d t := by
  have hentered : (o.updateLink j (.enter .postHandshake)).Onward l d t :=
    h.updateLink fun _ _ => LinkOutline.isSettled_enter _ (.inl rfl)
  have hset : ((o.updateLink j (.enter .postHandshake)).setMain i (some j)).Onward l d t := hentered
  exact hset.updateDatapath fun _ _ => rfl

/-- Nor one that goes, with all its connections. -/
private theorem Onward.unregister (h : o.Onward l d t) (i : DatapathId) (m : LinkId)
    (dp : DatapathOutline) {leave : LinkOutline → LinkOutline}
    (hleave : ∀ k, (leave k).stage.isFinal = true) :
    (o.unregister i m dp leave).Onward l d t := by
  have hset : (o.setMain i none).Onward l d t := h
  have hleft : ((o.setMain i none).updateLink m leave).Onward l d t :=
    hset.updateLink fun _ k => .inr (hleave k)
  exact (hleft.closeLinks dp.auxiliaries.values).updateDatapath fun _ _ => rfl

/-- No step without news of another session is about the ports of a switch that is being
described. -/
theorem Onward.calm (h : o.Onward l d t) (hsound : o.Sound) {a : Option LinkId} (ha : a ≠ some l)
    (hstep : Calm a o o') : o'.Onward l d t := by
  cases hstep with
  | @accept _ _ j hj =>
    obtain ⟨k, hk⟩ := h.link
    have hlj : l ≠ j := by
      rintro rfl
      rw [hj] at hk
      cases hk
    have hsame : (o.addLink j).link? l = o.link? l := if_neg hlj
    rcases h with ⟨k, hk, hrest⟩ | ⟨k, hk, hsettled⟩
    · exact .inl ⟨k, hsame.trans hk, hrest⟩
    · exact .inr ⟨k, hsame.trans hk, hsettled⟩
  | close => exact h.updateLink fun _ => LinkOutline.isSettled_close
  | cancel => exact h.cancel _
  | finish => exact h.updateLink fun _ => LinkOutline.isSettled_close
  | greet | bind | collect | learn => exact h.updateLink fun hj => absurd (congrArg some hj) ha
  | @introduce _ j k hk hs i ports =>
    have hlj : l ≠ j := fun hlj => ha (congrArg some hlj.symm)
    have hsame : (o.putDatapath j (.new i j ports)).datapath? l = o.datapath? l := if_neg hlj
    rcases h with ⟨k, hk, hstage, hd, hports⟩ | hpast
    · exact .inl ⟨k, hk, hstage, hd, (congrArg _ hsame).trans hports⟩
    · exact .inr hpast
  | @ports _ j m k hk hs hm f =>
    rcases h with hc | hpast
    · refine Onward.updateDatapath (.inl hc) fun hml => absurd hml ?_
      obtain ⟨k', hk', hstage, -, hports⟩ := hc
      rintro rfl
      -- a connection changes the ports of the datapath that it serves: its own one while it is
      -- described, and a registered one later, which this one is not
      rcases hs with hs | hs
      · obtain ⟨-, hself, -⟩ := (hsound.link hk).collecting hs
        exact ha (hself.symm.trans hm)
      · obtain ⟨dp, hdp, -⟩ := Option.map_eq_some_iff.1 hports
        exact hsound.not_collecting (hsound.main?_of_serves hk hs hm hdp) hk' hstage
    · exact .inr hpast
  | @attach _ j m k i dp =>
    have hclosed := h.closeLinks (dp.auxiliaries.find? k.auxiliary).toList
    have hput := hclosed.updateDatapath (m := m) (f := .attach k.auxiliary j) fun _ _ => rfl
    exact hput.updateLink fun hj => absurd (congrArg some hj) ha
  | detach => exact h.updateDatapath fun _ _ => rfl

/-- Nor do the quiet steps of others. -/
private theorem Onward.calms (h : o.Onward l d t) (hsound : o.Sound) {a : Option LinkId}
    (ha : a ≠ some l) (hsteps : ReflTransGen (Calm a) o o') : o'.Onward l d t := by
  have hboth : o'.Onward l d t ∧ o'.Sound :=
    hsteps.rec ⟨h, hsound⟩ fun _ hstep ih => ⟨ih.1.calm ih.2 ha hstep, ih.2.calm hstep⟩
  exact hboth.1

/-- No news are about the ports of a switch that is being described. -/
theorem Onward.eventful (h : o.Onward l d t) {j : LinkId} (hstep : Eventful j o o') :
    o'.Onward l d t := by
  cases hstep with
  | @connects _ dp => exact h.register dp.id j
  | @replaces _ dp old m =>
    have hgone := h.unregister dp.id m old LinkOutline.isFinal_revoke
    exact hgone.register dp.id j
  | serves => exact h
  | readies =>
    have hready := h.updateDatapath (m := j) (f := .getReady) fun _ _ => rfl
    exact hready.updateLink fun _ _ => LinkOutline.isSettled_enter _ (.inl rfl)
  | @disconnects i dp => exact h.unregister i j dp LinkOutline.isFinal_close

/-- A switch that is being described is not registered. -/
theorem Collects.not_main (h : o.Collects l d t) (hsound : o.Sound) (i : DatapathId) :
    o.main? i ≠ some l := by
  obtain ⟨k, hk, hstage, -⟩ := h
  exact fun hm => hsound.not_collecting hm hk hstage

/-- What is heard is taken in. -/
theorem Collects.hear (h : o.Collects l d t) (x : Xid) (m : Message) :
    (o.hear l x m).Collects l (d.hear x m) (t.hear m) := by
  obtain ⟨k, hk, hstage, rfl, hports⟩ := h
  obtain ⟨dp, hdp, rfl⟩ := Option.map_eq_some_iff.1 hports
  exact ⟨k.learn (·.hear x m), by simp [Outline.hear, hk], hstage, rfl, by
    simp [Outline.hear, hdp, DatapathOutline.updatePorts]⟩

/-- What was answered is put into the datapath. -/
theorem Collects.describe (h : o.Collects l d t) :
    (o.describe l d).Collects l d.takePorts.1 (d.settle t) := by
  obtain ⟨k, hk, hstage, rfl, hports⟩ := h
  obtain ⟨dp, hdp, rfl⟩ := Option.map_eq_some_iff.1 hports
  exact ⟨k.learn fun d => d.takePorts.1, by simp [Outline.describe, hk], hstage, rfl, by
    simp [Outline.describe, hdp, DatapathOutline.updatePorts]⟩

/-- A connection that is registered is not being described any more. -/
private theorem isPast_register (h : ∃ k, o.link? l = some k) (i : DatapathId) :
    (o.register i l).IsPast l := by
  obtain ⟨k, hk⟩ := h
  exact ⟨k.enter .postHandshake, by simp [hk], k.isSettled_enter (.inl rfl)⟩

/-- The first news of a connection are that it is put to use. -/
theorem Collects.isPast (h : o.Collects l d t) (hsound : o.Sound) (hstep : Eventful l o o') :
    o'.IsPast l := by
  have honward : o.Onward l d t := .inl h
  cases hstep with
  | @connects _ dp => exact isPast_register honward.link dp.id
  | @replaces _ dp old m =>
    have hgone := honward.unregister dp.id m old LinkOutline.isFinal_revoke
    exact isPast_register hgone.link dp.id
  | serves hk hs =>
    -- a switch that is being described hands on nothing
    obtain ⟨k, hk', hstage, -⟩ := h
    obtain rfl := Option.some.inj (hk'.symm.trans hk)
    rw [hstage] at hs
    cases hs
  | @readies k dp _ hk =>
    exact ⟨k.enter .ready, by simp [hk], k.isSettled_enter (.inl rfl)⟩
  | disconnects hm => exact absurd hm (h.not_main hsound _)

/-- Nobody is registered by the news of another connection. -/
theorem main?_eventful {j m : LinkId} {i : DatapathId} (hstep : Eventful j o o')
    (hm : o'.main? i = some m) : m = j ∨ o.main? i = some m := by
  -- a main connection is put in its place by registering only, and that one is the actor
  have hregister {o : Outline} {i' : DatapathId} (hm : (o.register i' j).main? i = some m) :
      m = j ∨ o.main? i = some m := by
    rw [main?_register] at hm
    split at hm
    · exact .inl (Option.some.inj hm).symm
    · exact .inr hm
  have hunregister {i' : DatapathId} {j' : LinkId} {dp : DatapathOutline}
      {leave : LinkOutline → LinkOutline} (hm : (o.unregister i' j' dp leave).main? i = some m) :
      o.main? i = some m := by
    rw [main?_unregister] at hm
    split at hm
    · cases hm
    · exact hm
  cases hstep with
  | connects => exact hregister hm
  | replaces => exact (hregister hm).imp id hunregister
  | serves | readies => exact .inr hm
  | disconnects => exact .inr (hunregister hm)

/-- The ports of a datapath are the same behind news of it. -/
theorem ports?_eventful {m j : LinkId} (hstep : Eventful j o o') : o'.ports? m = o.ports? m := by
  -- news may change a datapath, but none of these changes is about ports
  have hregister (o : Outline) (i : DatapathId) (j : LinkId) :
      (o.register i j).ports? m = o.ports? m :=
    ports?_updateDatapath _ j m (f := .announce) fun _ => rfl
  have hunregister (o : Outline) (i : DatapathId) (j : LinkId) (dp : DatapathOutline)
      (leave : LinkOutline → LinkOutline) :
      (o.unregister i j dp leave).ports? m = o.ports? m := by
    refine (ports?_updateDatapath _ j m (f := .withdraw) fun _ => rfl).trans ?_
    rw [ports?_closeLinks]
    rfl
  cases hstep with
  | @connects _ dp => exact hregister o dp.id j
  | @replaces _ dp old m' =>
    exact (hregister _ dp.id j).trans (hunregister o dp.id m' old .revoke)
  | serves => rfl
  | readies => exact ports?_updateDatapath o j m (f := .getReady) fun _ => rfl
  | @disconnects i dp => exact hunregister o i j dp .close

end Outline

namespace Controller

variable {a : Option LinkId} {c c' : Controller} {l m : LinkId} {d : Descriptions} {t : PortTable}

/-- What the session of connection `l` hears in an operation. Nothing is heard in a frame that
cannot be read. -/
def heard? (l : LinkId) : Operation → Option (Xid × Message)
  | .frame j f =>
    if j = l then
      match Codec.decode f.header f.body with
      | .error _ => none
      | .ok m => some (f.header.xid, m)
    else none
  | _ => none

def heard (l : LinkId) (ops : List Operation) : List (Xid × Message) := ops.filterMap (heard? l)

/-! ## Operations of others -/

/-- So nothing that others do makes a difference. -/
private theorem Moves.onward (hmoves : Moves a m c c') (h : c.outline.Onward l d t)
    (hsound : c.outline.Sound) (ha : a ≠ some l) : c'.outline.Onward l d t := by
  obtain ⟨o, hcalm, heq | hnews⟩ := hmoves
  · exact heq ▸ h.calms hsound ha hcalm
  · exact (h.calms hsound ha hcalm).eventful hnews.eventful

/-- What is no frame of its own makes no difference for a switch that is being described. -/
theorem onward_apply (h : c.outline.Healthy) (honward : c.outline.Onward l d t) (op : Operation)
    (hop : speaker? op ≠ some l) : (c.apply op).outline.Onward l d t := by
  rcases apply_spec h.sound h.attached op with ⟨m, -, hmoves⟩ | hcalm
  · exact hmoves.onward honward h.sound hop
  · exact honward.calms h.sound hop hcalm

/-- A connection is registered by a frame of its own. -/
theorem frame_of_registered (h : c.outline.Healthy) {i : DatapathId}
    (hbefore : c.registry.find? i ≠ some l) {op : Operation}
    (hafter : (c.apply op).registry.find? i = some l) : ∃ f, op = .frame l f := by
  -- steps without news register nobody
  have hcalms {o : Outline} (hsteps : ReflTransGen (Outline.Calm (speaker? op)) c.outline o) :
      o.main? i ≠ some l := by
    rw [(h.calm hsteps).2.2]
    exact hbefore
  have hspec := apply_spec h.sound h.attached op
  cases op with
  | frame j f =>
    by_cases hj : j = l
    · exact ⟨f, hj ▸ rfl⟩
    · obtain ⟨o, hcalm, heq | hnews⟩ := moves_handleFrame h.sound h.attached j f
      · exact absurd hafter (hcalms (heq ▸ hcalm))
      · rcases Outline.main?_eventful hnews.eventful hafter with hl | hm
        · exact absurd hl.symm hj
        · exact absurd hm (hcalms hcalm)
  | close j => exact absurd (registry_endSession hafter) hbefore
  | write j w => exact absurd hafter (hcalms (calm_afterWriting c j w))
  | provision patient =>
    rw [apply] at hafter
    split at hafter
    · next hstep => exact absurd ((main?_provision? hstep i).symm.trans hafter) hbefore
    · exact absurd hafter hbefore
  | _ =>
    -- no operation of a connection
    rcases hspec with ⟨m, hm, -⟩ | hcalm
    · cases hm
    · exact absurd hafter (hcalms hcalm)

/-! ## Frames of its own -/

/-- The session of connection `l` has taken in all that was heard, `d` and `t` so far: its switch is
still being described, or has been, and its datapath has the ports it was said to have. -/
def TakesIn (l : LinkId) (d : Descriptions) (t : PortTable) (r : Controller × SessionFate) : Prop :=
  r.1.outline.Collects l d t ∨ r.2 = .continues ∧ ∃ o d', o.Sound ∧ o.Collects l d' (d.settle t) ∧
    Outline.Eventful l o r.1.outline

/-- While its switch is being described, a session takes in what the message says. -/
private theorem takesIn_onDescription (h : c.outline.Healthy) (hc : c.outline.Collects l d t)
    {k : Link} (hk : c.link? l = some k) (x : Xid) (m : Message) :
    TakesIn l (d.hear x m) (t.hear m) (c.onDescription l k.session x m) := by
  have hheard := hc.hear x m
  obtain ⟨k₀, hk₀, hstage, -⟩ := hc
  obtain rfl := Option.some.inj ((link?_outline hk).symm.trans hk₀)
  obtain ⟨hsteps, hout | ⟨hgoes, k', hk', -, hdescribed, hnews⟩⟩ :=
    onDescription_spec h.sound h.attached hk hstage x m
  · rw [← hout] at hheard
    exact .inl hheard
  -- what completed the descriptions is this very message
  · have hd : k'.descriptions = d.hear x m := by
      obtain ⟨k₁, hk₁, -, hd, -⟩ := hheard
      rw [Option.some.inj (hk'.symm.trans hk₁), hd]
    rw [hd] at hdescribed hnews
    exact .inr ⟨hgoes, _, _, (h.sound.calms hsteps).calms hdescribed,
      hheard.describe, hnews.eventful⟩

/-- What is heard in a frame is its message, if it can be read. -/
private theorem heard_frame (l : LinkId) (f : Frame) :
    heard l [.frame l f] =
      match Codec.decode f.header f.body with
      | .error _ => []
      | .ok m => [(f.header.xid, m)] := by
  simp only [heard, List.filterMap_cons, List.filterMap_nil, heard?, ↓reduceIte]
  cases Codec.decode f.header f.body with
  | error e => rfl
  | ok m => rfl

/-- A session takes in whatever is heard in a frame. -/
private theorem takesIn_onFrame (h : c.outline.Healthy) (hc : c.outline.Collects l d t)
    (f : Frame) :
    TakesIn l (d.hearAll (heard l [.frame l f])) (t.hearAll (heard l [.frame l f]))
      (c.onFrame l f) := by
  have hout := outline_received c l
  have heq := onFrame_eq c l f
  rw [← hout] at h hc
  have ⟨_, hk₀, hs, _⟩ := hc
  obtain ⟨k, hk, rfl⟩ := Option.map_eq_some_iff.1 hk₀
  have hstage : k.connection.stage = .extendedHandshake := hs
  rw [heq, hk, heard_frame]
  dsimp only
  cases Codec.decode f.header f.body with
  | error e =>
    dsimp only
    -- nothing was heard, and the session goes on
    rw [onUnreadable, hstage, if_neg nofun]
    exact .inl hc
  | ok m =>
    dsimp only
    rw [onMessage, hstage]
    exact takesIn_onDescription h hc hk f.header.xid m

/-- What a frame of the switch does while it is being described, and how it stands when it is
registered. -/
theorem handleFrame_of_collects (h : c.outline.Healthy) (hc : c.outline.Collects l d t)
    (f : Frame) :
    (c.handleFrame l f).1.outline.Onward l (d.hearAll (heard l [.frame l f]))
        (t.hearAll (heard l [.frame l f])) ∧
      ∀ i, (c.handleFrame l f).1.registry.find? i = some l →
        ((c.handleFrame l f).1.outline.datapath? l).map (·.ports) =
          some ((d.hearAll (heard l [.frame l f])).settle (t.hearAll (heard l [.frame l f]))) := by
  have htakes := takes_onFrame h.sound h.attached l f
  have hin := takesIn_onFrame h hc f
  unfold handleFrame
  split
  · next c₁ heq =>
    rw [heq] at htakes hin
    have hsound : c₁.outline.Sound := by
      rcases htakes with hcalm | ⟨-, hmoves⟩
      · exact h.sound.calms hcalm
      · exact (hmoves.healthy h).sound
    -- still collecting, or the last description came and the table was settled
    rcases hin with hcollects | ⟨-, o, d', ho, hcollects, hstep⟩
    · exact ⟨.inl hcollects, fun i hi => absurd hi (hcollects.not_main hsound i)⟩
    · refine ⟨.inr (hcollects.isPast ho hstep), fun _ _ => ?_⟩
      obtain ⟨k, -, -, -, hports⟩ := hcollects
      exact (Outline.ports?_eventful hstep).trans hports
  · next c₁ heq =>
    rw [heq] at htakes hin
    have hsound : c₁.outline.Sound := h.sound.calms htakes.calm_of_ends
    rcases hin with hcollects | ⟨hfate, -⟩
    · refine ⟨(moves_endSession hsound none l).onward (.inl hcollects) hsound
        (Option.some_ne_none l).symm, ?_⟩
      exact fun i hi => absurd (registry_endSession hi) (hcollects.not_main hsound i)
    · cases hfate

/-! ## The whole handshake -/

/-- A switch that has just told its features was asked for all descriptions. -/
theorem begins_handleFrame (h : c.outline.Healthy) {k : Link} (hk : c.link? l = some k)
    (hs : k.connection.stage = .basicHandshake) (f : Frame) :
    Begins (c.drawn + c.settings.configuration.length) k.connection.version l
      (c.handleFrame l f).1.outline := by
  have htakes := takes_onFrame h.sound h.attached l f
  have hbegins : (c.onFrame l f).2 = .continues →
      Begins (c.drawn + c.settings.configuration.length) k.connection.version l
        (c.onFrame l f).1.outline := by
    -- the frame counts as a sign of life first, which changes neither stage nor version
    have hout := outline_received c l
    have heq := onFrame_eq c l f
    have hlink : (c.received l).outline.link? l = some k.outline := hout ▸ link?_outline hk
    obtain ⟨k₁, hk₁, hsame⟩ := Option.map_eq_some_iff.1 hlink
    have hs₁ : k₁.connection.stage = .basicHandshake :=
      (congrArg LinkOutline.stage hsame).trans hs
    have hversion : k₁.connection.version = k.connection.version :=
      congrArg LinkOutline.version hsame
    rw [heq, hk₁]
    dsimp only
    cases Codec.decode f.header f.body with
    | error e =>
      exact fun _ => begins_of_basic hk hs ((outline_onUnreadable _ l k₁ e).trans hout)
    | ok m =>
      dsimp only
      rw [onMessage, hs₁, ← hversion]
      exact (takes_onBasic (hout ▸ h.sound) hk₁ hs₁ k₁.session f.header.xid m).2
  unfold handleFrame
  split
  · next heq =>
    rw [heq] at hbegins
    exact hbegins rfl
  · next c₁ heq =>
    rw [heq] at htakes
    -- a session that ends asks nothing
    intro k' hk' hs'
    have hsound : c₁.outline.Sound := h.sound.calms htakes.calm_of_ends
    have hpast : (c₁.endSession l).outline.IsPast l := by
      cases hk₁ : c₁.link? l with
      | none =>
        rw [endSession, hk₁, outline] at hk'
        dsimp only at hk'
        rw [hk₁] at hk'
        cases hk'
      | some k₁ => exact isPast_endSession hsound hk₁
    obtain ⟨k₂, hk₂, hsettled⟩ := hpast
    obtain rfl := Option.some.inj (hk'.symm.trans hk₂)
    exact absurd hsettled (LinkOutline.not_isSettled (.inr (.inr (.inr hs'))))

/-- What is heard in two parts of a run is heard one after the other. -/
private theorem heard_append (l : LinkId) (ops more : List Operation) :
    heard l (ops ++ more) = heard l ops ++ heard l more :=
  List.filterMap_append

/-- Nothing is heard in what others do. -/
private theorem heard_of_ne {op : Operation} (hop : speaker? op ≠ some l) : heard l [op] = [] := by
  have hnone : heard? l op = none := by
    cases op with
    | frame j f => exact if_neg fun hj => hop (congrArg some hj)
    | _ => rfl
  simp [heard, hnone]

/-- One operation in the meantime, whoever's it is. -/
theorem onward_step (h : c.outline.Healthy) (hc : c.outline.Collects l d t) (op : Operation) :
    (c.apply op).outline.Onward l (d.hearAll (heard l [op])) (t.hearAll (heard l [op])) := by
  by_cases hop : speaker? op = some l
  · cases op with
    | frame j f =>
      obtain rfl : j = l := Option.some.inj hop
      exact (handleFrame_of_collects h hc f).1
    | _ => cases hop
  · rw [heard_of_ne hop]
    exact onward_apply h (.inl hc) op hop

/-- As long as a switch is being described, what was heard of it is what was taken in. -/
theorem onward_run (h : c.outline.Healthy) (hc : c.outline.Collects l d t) (ops : List Operation) :
    (c.run ops).outline.Onward l (d.hearAll (heard l ops)) (t.hearAll (heard l ops)) := by
  induction ops generalizing c d t with
  | nil => exact .inl hc
  | cons op ops ih =>
    rw [← List.singleton_append, heard_append, Descriptions.hearAll_append,
      PortTable.hearAll_append]
    -- from the operation on that ends the description, what is heard does not matter any more
    rcases onward_step h hc op with hstill | hpast
    · exact ih (healthy_apply h op) hstill
    · exact .inr (has_run (healthy_apply h op) Outline.lasting_isSettled hpast ops)

/-- A connection at some stage is there. -/
private theorem link?_of_stage {s : Stage} (hs : (c.connection? l).map (·.stage) = some s) :
    ∃ k, c.link? l = some k ∧ k.connection.stage = s := by
  obtain ⟨k, hconnection, rfl⟩ := Option.map_eq_some_iff.1 hs
  obtain ⟨k, hk, rfl⟩ := connection?_eq_some hconnection
  exact ⟨k, hk, rfl⟩

/-- How it stands when a switch has just told its features. -/
theorem collects_of_begins (h : c.outline.Healthy) {n : Nat} {v : Version}
    (hbegins : Begins n v l c.outline) {k : Link} (hk : c.link? l = some k)
    (hs : k.connection.stage = .extendedHandshake) :
    ∃ t, c.outline.Collects l
      (({} : Descriptions).expectAll n (DescriptionKind.requiredFor v)) t := by
  have hko := link?_outline hk
  obtain ⟨-, -, i, ports, -, hdp⟩ := (h.sound.link hko).collecting hs
  exact ⟨ports, k.outline, hko, hs, hbegins k.outline hko hs, congrArg (Option.map (·.ports)) hdp⟩

/-- When the datapath is registered, its ports are what was taken in. -/
theorem ports_of_registered (h : c.outline.Healthy) (hc : c.outline.Collects l d t)
    {op : Operation} {i : DatapathId} (hregistered : (c.apply op).registry.find? i = some l) :
    ∃ dp, (c.apply op).datapath? l = some dp ∧
      dp.ports = (d.hearAll (heard l [op])).settle (t.hearAll (heard l [op])) := by
  obtain ⟨f, rfl⟩ := frame_of_registered h (hc.not_main h.sound i) hregistered
  have hports := (handleFrame_of_collects h hc f).2 i hregistered
  obtain ⟨k, hk, hsame⟩ := Option.map_eq_some_iff.1 hports
  obtain ⟨dp, hdp, rfl⟩ := Option.map_eq_some_iff.1 hk
  exact ⟨dp, hdp, hsame⟩

/-- A switch of version 1.3 tells of its ports while it is being described. Whatever happens in the
meantime, when its datapath is registered a port about which there was a notification is as the last
one says if and only if the answer about ports had no part, or says the same of it. -/
theorem ports_run (settings : Settings) (mastership : Mastership) (before : List Operation)
    (l : LinkId) (first : Frame) (during : List Operation) (last : Operation) :
    let c := run { settings, mastership } before
    let c₀ := c.apply (.frame l first)
    let c₁ := c₀.run during
    let c₂ := c₁.apply last
    let ms := heard l (during ++ [last])
    (c.connection? l).map (fun k => (k.stage, k.version)) =
      some (.basicHandshake, Version.v13) →
    (c₀.connection? l).map (·.stage) = some .extendedHandshake →
    (c₁.connection? l).map (·.stage) = some .extendedHandshake →
    ∀ i, c₂.registry.find? i = some l →
    ∃ y dp, (∃ k, c₀.link? l = some k ∧ k.session.descriptions.Asks y) ∧
      c₂.datapath? l = some dp ∧
      ∀ n s, (statuses n ms).getLast? = some s →
        (dp.ports.get? n = s.outcome ↔ portParts y ms = [] ∨
          (PortTable.ofList (portParts y ms).flatten).get? n = s.outcome) := by
  intro c c₀ c₁ c₂ ms hbasic hbegun hlasts i hregistered
  have h : c.outline.Healthy := healthy_run (healthy_new settings mastership) before
  have h₀ : c₀.outline.Healthy := healthy_apply h _
  have h₁ : c₁.outline.Healthy := healthy_run h₀ during
  obtain ⟨k', hk', hboth⟩ := Option.map_eq_some_iff.1 hbasic
  obtain ⟨k, hk, rfl⟩ := connection?_eq_some hk'
  obtain ⟨hs, hversion⟩ := Prod.mk.inj hboth
  have hbegins := begins_handleFrame h hk hs first
  rw [hversion] at hbegins
  obtain ⟨k₀, hk₀, hs₀⟩ := link?_of_stage hbegun
  obtain ⟨t, hcollects⟩ := collects_of_begins h₀ hbegins hk₀ hs₀
  generalize c.drawn + c.settings.configuration.length = n at hcollects
  obtain ⟨y, hasks⟩ := Descriptions.asks_expectAll n
  generalize hd : ({} : Descriptions).expectAll n (DescriptionKind.requiredFor Version.v13) = d
    at hcollects hasks
  -- nothing is known of ports when the switch is asked
  have hnew : d.ports = none := hd ▸ Descriptions.ports_expectAll {} n _
  -- the switch is still being described when the last operation begins
  obtain ⟨k₁, hk₁, hs₁⟩ := link?_of_stage hlasts
  have hstill :
      c₁.outline.Collects l (d.hearAll (heard l during)) (t.hearAll (heard l during)) := by
    rcases onward_run h₀ hcollects during with hstill | ⟨k, hk, hsettled⟩
    · exact hstill
    · obtain rfl := Option.some.inj ((link?_outline hk₁).symm.trans hk)
      exact absurd hsettled (LinkOutline.not_isSettled (.inr (.inr (.inr hs₁))))
  obtain ⟨dp, hdp, hports⟩ := ports_of_registered h₁ hstill hregistered
  rw [← Descriptions.hearAll_append, ← PortTable.hearAll_append, ← heard_append] at hports
  refine ⟨y, dp, ⟨k₀, hk₀, ?_⟩, hdp, fun n s hs => ?_⟩
  · obtain ⟨k, hk, -, hdescriptions, -⟩ := hcollects
    obtain rfl := Option.some.inj ((link?_outline hk₀).symm.trans hk)
    rw [← hdescriptions] at hasks
    exact hasks
  · rw [hports]
    exact Descriptions.get?_settle_hearAll hasks hnew t hs

/-! ## A second port

A switch tells of a second port when it has answered the request for ports, while it is still being
described. -/

namespace SecondPort

/-- The frame of a message of version 1.3. -/
def frameOf (x : Xid) (m : Message) : Frame :=
  match Codec.encode Version.v13 x m with
  | .error _ => ⟨{}, []⟩
  | .ok bytes =>
    match Frame.scan bytes with
    | .whole f _ => f
    | _ => ⟨{}, []⟩

/-- Connection 0 is one of version 1.3. -/
def greeting : List Operation := [.accept "", .frame 0 (frameOf 1 (.hello []))]

def features : Frame := frameOf 1 (.featuresReply { datapathId := 5 })

def answer : MultipartReply := { kind := .portDesc, body := .ports [{ number := 1 }] }

def notification : PortStatus := { reason := .add, port := { number := 2 } }

/-- What the switch says until only its table features are missing. -/
def sayings : List Operation :=
  [.frame 0 (frameOf 4 (.multipartReply answer)), .frame 0 (frameOf 0 (.portStatus notification)),
    .frame 0 (frameOf 3 (.error {}))]

/-- It has no table features. -/
def refusal : Operation := .frame 0 (frameOf 5 (.error {}))

/-- The switch tells of a second port while it is being described. -/
theorem ports_run_sayings :
    let c := run { settings := {} } greeting
    let c₀ := c.apply (.frame 0 features)
    let c₁ := c₀.run sayings
    let c₂ := c₁.apply refusal
    let ms := heard 0 (sayings ++ [refusal])
    (c.connection? 0).map (fun k => (k.stage, k.version)) = some (.basicHandshake, Version.v13) ∧
    (c₀.connection? 0).map (·.stage) = some .extendedHandshake ∧
    (c₁.connection? 0).map (·.stage) = some .extendedHandshake ∧
    c₂.registry.find? ⟨5⟩ = some 0 ∧ (statuses 2 ms).getLast? = some notification ∧
    ∃ y dp, (∃ k, c₀.link? 0 = some k ∧ k.session.descriptions.Asks y) ∧
      c₂.datapath? 0 = some dp ∧
      (dp.ports.get? 2 = notification.outcome ↔ portParts y ms = [] ∨
        (PortTable.ofList (portParts y ms).flatten).get? 2 = notification.outcome) := by
  refine ⟨by decide +kernel, by decide +kernel, by decide +kernel, by decide +kernel,
    by decide +kernel, ?_⟩
  -- the stages, the registration and the last notification are computed, the table is what the
  -- theorem says
  obtain ⟨y, dp, hasks, hdp, hports⟩ := ports_run {} .all greeting 0 features sayings refusal
    (by decide +kernel) (by decide +kernel) (by decide +kernel) ⟨5⟩ (by decide +kernel)
  exact ⟨y, dp, hasks, hdp, hports 2 notification (by decide +kernel)⟩

/-- The answer came before the notification, and is put into the datapath behind it. -/
theorem notification_lost :
    let c₁ := ((run { settings := {} } greeting).apply (.frame 0 features)).run sayings
    (c₁.connection? 0).map (fun k => (k.stage, k.version)) =
      some (.extendedHandshake, Version.v13) ∧
    heard 0 (sayings ++ [refusal]) = [(4, .multipartReply answer), (0, .portStatus notification),
      (3, .error {}), (5, .error {})] ∧
    answer.hasMore = false ∧
    ((c₁.apply refusal).registered? ⟨5⟩).map (fun dp => (dp.main, dp.ports.get? 2)) =
      some (0, none) := by
  refine ⟨?_, ?_, rfl, ?_⟩
  · decide +kernel
  · decide +kernel
  · decide +kernel

end SecondPort

end Controller

end Southbound
