import Southbound.Proofs.Controller.Ports
import Southbound.Proofs.Controller.PortView

/-!
# Ports as listeners know them

A connection that is not put to use yet leaves the ports of all registered datapaths alone
(`Outline.Spares`), one in service changes those of its datapath as the news say, and whatever else
happens changes no ports and makes no news of any. So what listeners know of the ports of a
registered datapath is its port table, in every run (`mirror_run`).
-/

namespace Southbound

open Relation (ReflTransGen)

namespace Outline

variable {o o' : Outline} {l m : LinkId}

/-- What listeners know of the ports of the registered datapaths is the case. -/
structure Mirrored (o : Outline) : Prop where
  tidy : ∀ {m t}, o.ports? m = some t → t.IsTidy
  after_eq : ∀ {d m}, o.main? d = some m → PortView.after d o.events = (o.ports? m).map (·.get?)

/-- A step of connection `l` before it is put to use. It may change the ports of its own datapath,
of which nobody was told. -/
structure Spares (l : LinkId) (o o' : Outline) : Prop where
  events_eq : o'.events = o.events
  main?_eq : o'.main? = o.main?
  others : ∀ {m}, m ≠ l → o'.ports? m = o.ports? m
  own : (∀ t, o.ports? l = some t → t.IsTidy) → ∀ t, o'.ports? l = some t → t.IsTidy

/-! ## Steps that spare the ports of others -/

private theorem Spares.refl (o : Outline) : Spares l o o := ⟨rfl, rfl, fun _ => rfl, id⟩

/-- Two steps of the connection spare the ports of others together. -/
private theorem Spares.trans {o₁ : Outline} (h : Spares l o o₁) (h' : Spares l o₁ o') :
    Spares l o o' :=
  ⟨h'.events_eq.trans h.events_eq, h'.main?_eq.trans h.main?_eq,
    fun hm => (h'.others hm).trans (h.others hm), h'.own ∘ h.own⟩

private theorem spares_of_eq (h : o' = o) : Spares l o o' := h.symm ▸ Spares.refl o

/-- Ports are not a matter of connections. -/
theorem spares_updateLink (o : Outline) (j : LinkId) (f : LinkOutline → LinkOutline) :
    Spares l o (o.updateLink j f) := ⟨rfl, rfl, fun _ => rfl, id⟩

/-- Only the ports of the datapath that is updated change. -/
private theorem ports?_updatePorts (o : Outline) (j m : LinkId) (f : PortTable → PortTable) :
    (o.updateDatapath j (.updatePorts f)).ports? m =
      if m = j then (o.ports? m).map f else o.ports? m := by
  unfold ports?
  rw [datapath?_updateDatapath]
  split
  · rw [Option.map_map, Option.map_map]
    rfl
  · rfl

/-- A connection may tell of the ports of its own datapath. -/
theorem spares_updatePorts (o : Outline) (l : LinkId) {f : PortTable → PortTable}
    (hf : ∀ t : PortTable, t.IsTidy → (f t).IsTidy) :
    Spares l o (o.updateDatapath l (.updatePorts f)) := by
  refine ⟨rfl, rfl, fun {m} hm => ?_, fun htidy t ht => ?_⟩
  · rw [ports?_updatePorts, if_neg hm]
  · rw [ports?_updatePorts, if_pos rfl] at ht
    obtain ⟨t₀, ht₀, rfl⟩ := Option.map_eq_some_iff.1 ht
    exact hf t₀ (htidy t₀ ht₀)

/-- A datapath that is introduced brings its own ports and no others. -/
private theorem spares_putDatapath (o : Outline) (l : LinkId) (d : DatapathId) {t : PortTable}
    (ht : t.IsTidy) : Spares l o (o.putDatapath l (.new d l t)) := by
  refine ⟨rfl, rfl, fun hm => congrArg (Option.map _) (if_neg hm), fun _ t' ht' => ?_⟩
  have hself : (o.putDatapath l (.new d l t)).ports? l = some t :=
    congrArg (Option.map _) (if_pos rfl)
  obtain rfl := Option.some.inj (hself.symm.trans ht')
  exact ht

/-- An attachment brings no ports. -/
private theorem spares_attach (o : Outline) (l m : LinkId) (dp : DatapathOutline)
    (auxiliary : UInt8) :
    Spares l o (o.attach l m dp auxiliary) := by
  have hsame (j : LinkId) : (o.attach l m dp auxiliary).ports? j = o.ports? j :=
    (ports?_updateDatapath _ m j (f := .attach auxiliary l) fun _ => rfl).trans
      (o.ports?_closeLinks _ j)
  exact ⟨events_closeLinks _ _, funext fun i => main?_closeLinks _ i _, fun _ => hsame _,
    fun htidy t ht => htidy t ((hsame l).symm.trans ht)⟩

/-- Neither does hearing what a switch says of itself. -/
private theorem spares_hear (o : Outline) (l : LinkId) (x : Xid) (m : Message) :
    Spares l o (o.hear l x m) :=
  (o.spares_updateLink l _).trans (spares_updatePorts _ l fun _ ht => ht.hear m)

/-- Nor does asking for it. -/
private theorem spares_describe (o : Outline) (l : LinkId) (d : Descriptions) :
    Spares l o (o.describe l d) :=
  (o.spares_updatePorts l fun _ ht => ht.settle d).trans (spares_updateLink _ l _)

/-- What is the case of registered datapaths is not the business of a connection that has none. -/
theorem Mirrored.spares (h : o.Mirrored) (hl : ∀ d, o.main? d ≠ some l) (hs : Spares l o o') :
    o'.Mirrored where
  tidy {m t} ht := by
    -- the connection that acts is nobody's main one, so its ports are in no snapshot
    by_cases hm : m = l
    · subst hm
      exact hs.own (fun _ => h.tidy) t ht
    · exact h.tidy ((hs.others hm).symm.trans ht)
  after_eq {d m} hm := by
    rw [hs.main?_eq] at hm
    have hml : m ≠ l := fun hml => hl d (hml ▸ hm)
    rw [hs.events_eq, hs.others hml]
    exact h.after_eq hm

/-! ## Steps of nobody in particular -/

/-- Quiet steps of nobody in particular change no ports. -/
private theorem ports?_calm (hstep : Calm none o o') (m : LinkId) : o'.ports? m = o.ports? m := by
  cases hstep with
  | accept | close | cancel | finish => rfl
  | detach => exact ports?_updateDatapath _ _ m fun _ => rfl

/-- Neither do several. -/
private theorem ports?_calms (hsteps : ReflTransGen (Calm none) o o') (m : LinkId) :
    o'.ports? m = o.ports? m := by
  induction hsteps with
  | refl => rfl
  | tail _ hstep ih => exact (ports?_calm hstep m).trans ih

/-- So they keep what listeners know true. -/
private theorem Mirrored.calms (h : o.Mirrored) (hhealthy : o.Healthy)
    (hsteps : ReflTransGen (Calm none) o o') : o'.Mirrored := by
  obtain ⟨-, hevents, hmain⟩ := hhealthy.calm hsteps
  refine ⟨fun {m t} ht => h.tidy ((ports?_calms hsteps m).symm.trans ht), fun {d m} hm => ?_⟩
  rw [hmain] at hm
  rw [hevents, ports?_calms hsteps m]
  exact h.after_eq hm

/-! ## A connection in service -/

/-- The ports of a registered datapath are as a message says, and listeners were told. -/
theorem Mirrored.serve (h : o.Mirrored) (hsound : o.Sound) {dp : DatapathOutline}
    (hm : o.main? dp.id = some m) (hdp : o.datapath? m = some dp) (message : Message)
    {es : List Event} (hes : ∀ e ∈ es, ∃ t, e = .message t) :
    ((o.updateDatapath m (.updatePorts (·.hear message))).tell
      (dp.news message ++ es)).Mirrored := by
  have hports (j : LinkId) : ((o.updateDatapath m (.updatePorts (·.hear message))).tell
      (dp.news message ++ es)).ports? j =
      if j = m then (o.ports? j).map (·.hear message) else o.ports? j :=
    o.ports?_updatePorts m j _
  have hself : o.ports? m = some dp.ports := congrArg (Option.map _) hdp
  obtain ⟨_, _, -, hdp', hmain⟩ := hsound.registered hm
  obtain rfl := Option.some.inj (hdp.symm.trans hdp')
  -- messages that are handed on tell nothing of ports
  have hmessages (d : DatapathId) : ∀ e ∈ es, ∀ v, PortView.follow d v e = v := fun e he v => by
    obtain ⟨t, rfl⟩ := hes e he
    rfl
  refine ⟨fun {j t} ht => ?_, fun {d j} hj => ?_⟩
  · rw [hports] at ht
    split at ht
    · obtain ⟨t₀, ht₀, rfl⟩ := Option.map_eq_some_iff.1 ht
      exact (h.tidy ht₀).hear message
    · exact h.tidy ht
  · have hj : o.main? d = some j := hj
    show PortView.after d (o.events ++ (dp.news message ++ es)) = _
    rw [← List.append_assoc, PortView.after_append_same (hmessages d), PortView.after_append,
      hports, h.after_eq hj]
    by_cases hd : d = dp.id
    · subst hd
      obtain rfl := Option.some.inj (hm.symm.trans hj)
      rw [if_pos rfl, hself]
      exact PortView.foldl_follow_news hmain.isAnnounced message
    · -- another datapath has another main connection, and the news are not about it
      have hjm : j ≠ m := by
        rintro rfl
        obtain ⟨_, _, -, hdp', hmain'⟩ := hsound.registered hj
        obtain rfl := Option.some.inj (hdp.symm.trans hdp')
        exact hd hmain'.id_eq.symm
      rw [if_neg hjm]
      exact PortView.foldl_follow_same (PortView.follow_news_of_ne hd) _

/-! ## News of those who come and go -/

/-- News that are not about ports leave listeners with what is the case, as long as arrivals are
told as they are. -/
theorem Mirrored.eventful (h : o.Mirrored) (hstep : Eventful l o o')
    {es : List Event} (hevents : o'.events = o.events ++ es) (hes : portNews es = [])
    (harrive : ∀ {d m e fs}, o'.events = fs ++ [e] → e.Tells .connected d → o'.main? d = some m →
      PortView.after d o'.events = (o'.ports? m).map (·.get?)) : o'.Mirrored := by
  have hports (m : LinkId) : o'.ports? m = o.ports? m := ports?_eventful hstep
  refine ⟨fun {m t} ht => h.tidy ((hports m).symm.trans ht), fun {d m} hm => ?_⟩
  -- a datapath that was registered before, and of which nothing was told
  have hstays (hbefore : o.main? d = some m) (hsame : ∀ e ∈ es, ∀ v, PortView.follow d v e = v) :
      PortView.after d o'.events = (o'.ports? m).map (·.get?) := by
    rw [hevents, PortView.after_append_same hsame, hports]
    exact h.after_eq hbefore
  have hnew {fs : List Event} (hfs : o'.events = o.events ++ fs) : es = fs :=
    List.append_cancel_left (hevents.symm.trans hfs)
  cases hstep with
  | @connects k dp e hk hs hdp hfree he =>
    obtain rfl := hnew rfl
    by_cases hd : d = dp.id
    · exact harrive rfl (hd ▸ he) hm
    · refine hstays (by simpa [hd] using hm) fun e' he' v => ?_
      rw [List.mem_singleton.1 he']
      exact PortView.follow_of_tells he hd v
  | @replaces k dp old m' gone e hk hs hdp hm' hold hgone he =>
    obtain rfl : es = [gone, e] := hnew (by simp [Outline.tell])
    by_cases hd : d = dp.id
    · have hlast : (((o.unregister dp.id m' old .revoke).register dp.id l).tell [gone, e]).events =
          (o.events ++ [gone]) ++ [e] := by simp [Outline.tell]
      exact harrive hlast (hd ▸ he) hm
    · refine hstays (by simpa [hd] using hm) fun e' he' v => ?_
      rcases List.mem_cons.1 he' with rfl | he'
      · exact PortView.follow_of_tells hgone hd v
      · rw [List.mem_singleton.1 he']
        exact PortView.follow_of_tells he hd v
  | @serves k m' dp fs hk hs hm' hdp hfs =>
    obtain rfl := hnew rfl
    refine hstays hm fun e he v => ?_
    obtain ⟨t, rfl⟩ := (hfs e he).exists_message (List.filterMap_eq_nil_iff.1 hes e he)
    rfl
  | @readies k dp e hk hopen hdp hsubmitted hnotyet he =>
    obtain rfl := hnew rfl
    refine hstays hm fun e' he' v => ?_
    rw [List.mem_singleton.1 he']
    exact PortView.follow_of_ready he v
  | @disconnects i dp e hm' hdp he =>
    obtain rfl : es = [e] := hnew (by simp [Outline.tell])
    have hd : d ≠ i := by
      rintro rfl
      simp at hm
    refine hstays (by simpa [hd] using hm) fun e' he' v => ?_
    rw [List.mem_singleton.1 he']
    exact PortView.follow_of_tells he hd v

end Outline

namespace Controller

variable {c c' : Controller} {l m : LinkId}

/-! ## Operations that tell nothing of ports -/

/-- Between two states, `news` were told of ports. -/
def Reports (c c' : Controller) (news : List DatapathEvent) : Prop :=
  ∃ es, c'.events = c.events ++ es ∧ portNews es = news

/-- Nothing was told of ports. -/
abbrev Discreet (c c' : Controller) : Prop := c.Reports c' []

/-- News come one after the other. -/
private theorem Reports.trans {c₁ : Controller} {news more : List DatapathEvent}
    (h : c.Reports c₁ news) (h' : c₁.Reports c' more) : c.Reports c' (news ++ more) := by
  obtain ⟨es, hes, rfl⟩ := h
  obtain ⟨fs, hfs, rfl⟩ := h'
  refine ⟨es ++ fs, ?_, portNews_append es fs⟩
  rw [hfs, hes, List.append_assoc]

/-- Nothing was told if there are no new events. -/
private theorem discreet_of_events (h : c'.events = c.events) :
    c.Discreet c' := ⟨[], by simp [h], rfl⟩

/-- Events are part of the outline. -/
private theorem discreet_of_outline (h : c'.outline = c.outline) : c.Discreet c' :=
  discreet_of_events (congrArg Outline.events h)

/-- Between two states, listeners were told at most that datapaths came, went or got ready. -/
def Heralds (c c' : Controller) : Prop :=
  ∃ es, c'.events = c.events ++ es ∧ ∀ e ∈ es, ∃ kind d, e.Tells kind d ∧ kind.isPort = false

/-- Nothing at all was told if there are no new events. -/
theorem heralds_of_events (h : c'.events = c.events) : c.Heralds c' :=
  ⟨[], by simp [h], List.forall_mem_nil _⟩

/-- News of datapaths come one after the other. -/
theorem Heralds.trans {c₁ : Controller} (h : c.Heralds c₁) (h' : c₁.Heralds c') :
    c.Heralds c' := by
  obtain ⟨es, hes, hall⟩ := h
  obtain ⟨fs, hfs, hall'⟩ := h'
  refine ⟨es ++ fs, ?_, List.forall_mem_append.2 ⟨hall, hall'⟩⟩
  rw [hfs, hes, List.append_assoc]

/-- News of datapaths are none of ports. -/
private theorem Heralds.discreet (h : c.Heralds c') : c.Discreet c' := by
  obtain ⟨es, hes, hall⟩ := h
  refine ⟨es, hes, List.filterMap_eq_nil_iff.2 fun e he => ?_⟩
  obtain ⟨kind, d, hkind, hport⟩ := hall e he
  exact hkind.portNews? hport

/-- An event that is not about ports is no news of any. -/
private theorem heralds_emitDatapath (c : Controller) {kind : DatapathEventKind}
    (hk : kind.isPort = false) (dp : Datapath) : c.Heralds (c.emitDatapath kind dp) := by
  obtain ⟨e, he, hout⟩ := outline_emitDatapath c kind dp
  exact ⟨[e], congrArg Outline.events hout, List.forall_mem_singleton.2 ⟨kind, dp.id, he, hk⟩⟩

/-- Closing connections tells nothing. -/
private theorem events_closeLinks (c : Controller) (ls : List LinkId) :
    (c.closeLinks ls).events = c.events :=
  (congrArg Outline.events (outline_closeLinks c ls)).trans (Outline.events_closeLinks _ _)

/-- A teardown tells that a datapath went. -/
private theorem heralds_teardown (c : Controller) (m : LinkId) {kind : DatapathEventKind}
    (hk : kind.isPort = false) : c.Heralds (c.teardown m kind) := by
  unfold teardown
  split
  · exact heralds_of_events rfl
  · next dp _ =>
    -- closing the connections tells nothing, the one event is told at the end
    have hclosed := events_closeLinks (c.modifyConnection m
      (if kind = .revoked then Connection.revoke else Connection.close)) dp.auxiliaries.values
    dsimp only
    split
    · refine Heralds.trans ?_ (heralds_emitDatapath _ hk _)
      exact heralds_of_events hclosed
    · exact heralds_of_events hclosed

/-- So does the end of a connection, at most. -/
private theorem heralds_connectionClosed (c : Controller) (l : LinkId) :
    c.Heralds (c.connectionClosed l) := by
  unfold connectionClosed
  split
  · exact heralds_of_events rfl
  · split
    · exact heralds_of_events rfl
    · exact heralds_of_events rfl
    · next d _ _ =>
      split
      · exact heralds_of_events rfl
      · split
        · exact heralds_of_events rfl
        · split
          -- the one event that is told is no port event
          · have hkind : DatapathEventKind.disconnected.isPort = false := rfl
            exact heralds_teardown { c with registry := c.registry.erase d } l hkind
          · exact heralds_of_events rfl

/-- And the end of a session. -/
theorem heralds_endSession (c : Controller) (l : LinkId) : c.Heralds (c.endSession l) := by
  unfold endSession
  split
  · exact heralds_of_events rfl
  · split
    · exact heralds_of_events rfl
    · exact heralds_connectionClosed _ l

/-- Completed work tells that a datapath got ready, at most. -/
private theorem heralds_completeTask (c : Controller) (dp : Datapath) :
    c.Heralds (c.completeTask dp).1 := by
  unfold completeTask
  split
  · split
    · exact heralds_of_events rfl
    · exact heralds_emitDatapath _ rfl _
  · exact heralds_of_events rfl

/-- And so does any step of the work. -/
private theorem heralds_provision? {patient : Bool} {p : Progress}
    (hstep : c.provision? patient = some (m, p)) : c.Heralds p.1 := by
  rcases provision?_eq_some hstep with ⟨dp, -, rfl⟩ | hout
  · exact heralds_completeTask c dp
  · exact heralds_of_events (congrArg Outline.events hout)

/-- Only frames bring other news. -/
theorem heralds_apply (h : c.outline.Healthy) {op : Operation} (hop : speaker? op = none) :
    c.Heralds (c.apply op) := by
  have hcalm {a : Option LinkId}
      (hsteps : ReflTransGen (Outline.Calm a) c.outline (c.apply op).outline) :
      c.Heralds (c.apply op) := heralds_of_events (h.calm hsteps).2.1
  have hspec := apply_spec h.sound h.attached op
  cases op with
  | frame l f => cases hop
  | close l => exact heralds_endSession c l
  | write l w => exact hcalm (a := none) (calm_afterWriting c l w)
  | provision patient =>
    rw [apply]
    split
    · next hstep => exact heralds_provision? hstep
    · exact heralds_of_events rfl
  | _ =>
    -- no operation of a connection
    rcases hspec with ⟨m, hm, -⟩ | hsteps
    · cases hm
    · exact hcalm hsteps

/-- There is something to see of every registered datapath. -/
private theorem exists_info (h : c.outline.Sound) {d : DatapathId} {dp : Datapath}
    (hregistered : c.registered? d = some dp) : ∃ k, c.info d = .ok (dp.info k) := by
  obtain ⟨m, hm, hdp⟩ := registered?_eq_some hregistered
  obtain ⟨k₀, _, hk₀, -, -⟩ := h.registered hm
  obtain ⟨k, hk, -⟩ := Option.map_eq_some_iff.1 hk₀
  have hmain : dp.main = m := h.main_eq (datapath?_outline hdp)
  exact ⟨k.connection, info_of_registered hregistered
    (hmain ▸ congrArg (Option.map fun j : Link => j.connection) hk)⟩

/-- The arrival that was told last is that of a datapath with the ports it has. -/
theorem Introduces.after_eq (h : c.Introduces) (hsound : c.outline.Sound)
    (htidy : ∀ {m t}, c.outline.ports? m = some t → t.IsTidy) {d : DatapathId} {e : Event}
    {fs : List Event} (hevents : c.events = fs ++ [e]) (he : e.Tells .connected d)
    (hm : c.registry.find? d = some m) :
    PortView.after d c.events = (c.outline.ports? m).map (·.get?) := by
  obtain ⟨_, dp₀, -, hdp₀, -⟩ := hsound.registered hm
  obtain ⟨dp, hdp, rfl⟩ := Option.map_eq_some_iff.1 hdp₀
  obtain ⟨k, hinfo⟩ := exists_info hsound (Option.bind_eq_some_iff.2 ⟨m, hm, hdp⟩)
  obtain ⟨t, rfl, hkind, rfl⟩ := he
  -- the event carries the snapshot of the datapath as it is now, and the view starts from it
  obtain ⟨i, hi, hnow⟩ := h t (by rw [hevents, List.getLast?_concat]) hkind
  obtain rfl := Except.ok.inj (hnow.symm.trans hinfo)
  have hports : c.outline.ports? m = some dp.ports := congrArg (Option.map _) hdp₀
  rw [hports, hevents, PortView.after_append]
  simp only [List.foldl_cons, List.foldl_nil, PortView.follow, ↓reduceIte, hkind, hi]
  exact congrArg some (htidy hports).ofPorts_toList

/-- News that are not about ports leave listeners with what is the case. -/
theorem News.mirrored {o : Outline} (hnews : News l o c) (h : o.Healthy) (hm : o.Mirrored)
    {es : List Event} (hevents : c.events = o.events ++ es) (hes : portNews es = []) :
    c.outline.Mirrored := by
  refine hm.eventful hnews.eventful hevents hes fun hlast he hregistered => ?_
  refine hnews.introduces.after_eq (h.eventful hnews.eventful).sound (fun {m t} ht => ?_) hlast he
    hregistered
  exact hm.tidy ((Outline.ports?_eventful hnews.eventful).symm.trans ht)

/-- What is done by nobody in particular leaves listeners with what is the case. -/
theorem Moves.mirrored (hmoves : Moves none l c c') (h : c.outline.Healthy)
    (hm : c.outline.Mirrored) (hdiscreet : c.Discreet c') : c'.outline.Mirrored := by
  obtain ⟨o, hsteps, heq | hnews⟩ := hmoves
  · exact heq ▸ hm.calms h hsteps
  · obtain ⟨hhealthy, hsame, -⟩ := h.calm hsteps
    obtain ⟨es, hevents, hes⟩ := hdiscreet
    exact hnews.mirrored hhealthy (hm.calms h hsteps) (hsame ▸ hevents) hes

/-- Between two states, `news` were told of ports, which leave listeners with what is the case. -/
structure Reflects (c c' : Controller) (news : List DatapathEvent) : Prop where
  reports : c.Reports c' news
  mirrored : c.outline.Mirrored → c'.outline.Mirrored

/-- Who leaves the outline alone leaves listeners with what is the case. -/
private theorem reflects_of_outline (h : c'.outline = c.outline) : c.Reflects c' [] :=
  ⟨discreet_of_outline h, fun hm => h ▸ hm⟩

/-- What is true of listeners after two steps needs both reports. -/
private theorem Reflects.trans {c₁ : Controller} {news more : List DatapathEvent}
    (h : c.Reflects c₁ news) (h' : c₁.Reflects c' more) : c.Reflects c' (news ++ more) :=
  ⟨h.reports.trans h'.reports, h'.mirrored ∘ h.mirrored⟩

/-- The end of a session makes no news of ports. -/
private theorem reflects_endSession (h : c.outline.Healthy) (l : LinkId) :
    c.Reflects (c.endSession l) [] :=
  have hdiscreet := (heralds_endSession c l).discreet
  ⟨hdiscreet, fun hm => (moves_endSession h.sound none l).mirrored h hm hdiscreet⟩

/-! ## Frames before a connection is put to use -/

/-- A hello changes no ports. -/
theorem spares_onHello (c : Controller) (l : LinkId) (header : Header) (m : Message) :
    Outline.Spares l c.outline (c.onHello l header m).1.outline := by
  unfold onHello
  split
  · split
    · next v _ =>
      rcases outline_acceptVersion c l header v with ⟨hout, -⟩ | hout
      · exact Outline.spares_of_eq hout
      · exact hout ▸ Outline.spares_updateLink _ l _
    · exact Outline.spares_of_eq (outline_refuse c l _)
  · exact Outline.spares_of_eq (outline_refuse c l _)

/-- Features bring the ports of a datapath that nobody was told of. -/
private theorem spares_onMainFeatures {k : Link} (hk : c.link? l = some k) (f : SwitchFeatures) :
    Outline.Spares l c.outline (c.onMainFeatures l f).1.outline := by
  have hput := c.outline.spares_putDatapath l ⟨f.datapathId⟩ (PortTable.isTidy_ofList f.ports)
  rcases outline_onMainFeatures hk f with ⟨hout, -⟩ | ⟨g, hout, -⟩
  · exact hout ▸ hput
  · exact hout ▸ (hput.trans (Outline.spares_updateLink _ l _)).trans
      (Outline.spares_updateLink _ l _)

/-- The features of an auxiliary connection bring no ports. -/
private theorem spares_onAuxiliaryFeatures (h : c.outline.Sound) {k : Link}
    (hk : c.link? l = some k) :
    Outline.Spares l c.outline (c.onAuxiliaryFeatures l).1.outline := by
  rcases onAuxiliaryFeatures_cases h hk with ⟨heq, -⟩ | ⟨-, m, dp, -, -, -, -, hout⟩
  · exact heq ▸ .refl _
  · exact hout ▸ c.outline.spares_attach l m dp k.connection.auxiliary

/-- Before the descriptions a session spares the ports of all registered datapaths. -/
theorem spares_onBasic (h : c.outline.Sound) {k : Link} (hk : c.link? l = some k)
    (hs : k.connection.stage = .basicHandshake) (s : Session) (x : Xid) (m : Message) :
    Outline.Spares l c.outline (c.onBasic l s x m).1.outline := by
  unfold onBasic
  split
  -- an echo request is answered, whatever the stage
  · exact Outline.spares_of_eq (outline_answerEcho c l x _)
  · next f =>
    split
    · -- the connection is bound to the datapath first
      have hout := outline_bind c l ⟨f.datapathId⟩ f.auxiliaryId
      have hlink := link?_bind hk ⟨f.datapathId⟩ f.auxiliaryId
      have hbind := Outline.Calm.bind (link?_outline hk) hs ⟨f.datapathId⟩ f.auxiliaryId
      have hspares := c.outline.spares_updateLink (l := l) l (.bind ⟨f.datapathId⟩ f.auxiliaryId)
      rw [← hout] at hbind hspares
      unfold onFeatures
      split
      · exact hspares.trans (spares_onMainFeatures hlink f)
      · exact hspares.trans (spares_onAuxiliaryFeatures (h.calm hbind) hlink)
    · exact .refl _
  · exact .refl _
  · exact .refl _

/-- The news of a switch that was described are about the coming and going of datapaths. -/
theorem heralds_of_news {o : Outline} (hsame : o.events = c.events) {k : LinkOutline}
    (hk : o.link? l = some k) (hs : k.stage = .extendedHandshake) (hnews : News l o c') :
    c.Heralds c' := by
  have hstep := hnews.eventful
  have hevents : c'.events = c'.outline.events := rfl
  generalize c'.outline = o' at hstep hevents
  rw [Heralds, ← hsame, hevents]
  cases hstep with
  | connects _ _ _ _ he => exact ⟨_, rfl, List.forall_mem_singleton.2 ⟨_, _, he, rfl⟩⟩
  | @replaces _ _ _ _ gone e _ _ _ _ _ hgone he =>
    refine ⟨[gone, e], by simp [Outline.tell], List.forall_mem_cons.2 ⟨⟨_, _, hgone, rfl⟩, ?_⟩⟩
    exact List.forall_mem_singleton.2 ⟨_, _, he, rfl⟩
  | serves hk' hs' =>
    -- it is not in service yet
    obtain rfl := Option.some.inj (hk.symm.trans hk')
    rw [hs] at hs'
    cases hs'
  | readies _ _ _ _ _ he => exact ⟨_, rfl, List.forall_mem_singleton.2 ⟨_, _, he, rfl⟩⟩
  | @disconnects _ _ e _ _ he =>
    exact ⟨[e], by simp [Outline.tell], List.forall_mem_singleton.2 ⟨_, _, he, rfl⟩⟩

/-- Listeners do not know the ports of a connection that is not registered. -/
private theorem reflects_of_spares (hs : Outline.Spares l c.outline c'.outline)
    (hl : ∀ d, c.registry.find? d ≠ some l) : c.Reflects c' [] :=
  ⟨discreet_of_events hs.events_eq, fun hm => hm.spares hl hs⟩

/-- A switch that was described is not in service yet. -/
theorem link?_describe {k : Link} (hk : c.link? l = some k)
    (hs : k.connection.stage = .extendedHandshake) {x : Xid} {m : Message} {k' : LinkOutline}
    (hk' : (c.outline.hear l x m).link? l = some k') :
    ((c.outline.hear l x m).describe l k'.descriptions).link? l =
        some (k'.learn fun d => d.takePorts.1) ∧ k'.stage = .extendedHandshake := by
  refine ⟨by simp [Outline.describe, hk'], ?_⟩
  rw [Outline.hear, Outline.link?_updateDatapath, Outline.link?_updateLink, if_pos rfl,
    link?_outline hk] at hk'
  obtain rfl := Option.some.inj hk'
  exact hs

/-- A description tells that a datapath came, at most. -/
theorem heralds_onDescription (h : c.outline.Healthy) {k : Link} (hk : c.link? l = some k)
    (hs : k.connection.stage = .extendedHandshake) (x : Xid) (m : Message) :
    c.Heralds (c.onDescription l k.session x m).1 := by
  have hheard := c.outline.spares_hear l x m
  obtain ⟨-, hout | ⟨-, k', hk', -, -, hnews⟩⟩ := onDescription_spec h.sound h.attached hk hs x m
  · exact heralds_of_events ((congrArg Outline.events hout).trans hheard.events_eq)
  · have hspares := hheard.trans (Outline.spares_describe _ l k'.descriptions)
    obtain ⟨hlink, hstage⟩ := link?_describe hk hs hk'
    exact heralds_of_news hspares.events_eq hlink hstage hnews

/-- Nothing is told of ports while they are described. When the datapath is registered, listeners
get to know them as they are. -/
theorem reflects_onDescription (h : c.outline.Healthy) {k : Link} (hk : c.link? l = some k)
    (hs : k.connection.stage = .extendedHandshake) (x : Xid) (m : Message) :
    c.Reflects (c.onDescription l k.session x m).1 [] := by
  have hl (d : DatapathId) : c.registry.find? d ≠ some l :=
    h.sound.not_main (link?_outline hk) (LinkOutline.not_isSettled (.inr (.inr (.inr hs))))
  have hheard := c.outline.spares_hear l x m
  have hdiscreet := (heralds_onDescription h hk hs x m).discreet
  obtain ⟨hsteps, hout | ⟨-, k', -, -, hdescribed, hnews⟩⟩ :=
    onDescription_spec h.sound h.attached hk hs x m
  · exact reflects_of_spares (hout ▸ hheard) hl
  · -- the ports are described, and then the datapath is registered with them
    have hspares := hheard.trans (Outline.spares_describe _ l k'.descriptions)
    obtain ⟨es, hevents, hes⟩ := hdiscreet
    refine ⟨⟨es, hevents, hes⟩, fun hm => ?_⟩
    exact hnews.mirrored (h.calm (hsteps.trans hdescribed)).1 (hm.spares hl hspares)
      (hspares.events_eq ▸ hevents) hes

/-- A connection that is not in service tells nothing of ports. -/
theorem reflects_onMessage (h : c.outline.Healthy) {k : Link} (hk : c.link? l = some k)
    (hs : k.connection.stage.isServing = false) (header : Header) (m : Message) :
    c.Reflects (c.onMessage l k header m).1 [] := by
  -- before it is put to use, no datapath is registered with it
  have hl (hearly : k.connection.stage = .connecting ∨ k.connection.stage = .versionNegotiating ∨
      k.connection.stage = .basicHandshake ∨ k.connection.stage = .extendedHandshake)
      (d : DatapathId) : c.registry.find? d ≠ some l :=
    h.sound.not_main (link?_outline hk) (LinkOutline.not_isSettled hearly)
  unfold onMessage
  split
  · next hs => exact reflects_of_spares (spares_onHello c l header m) (hl (.inl hs))
  · next hs => exact reflects_of_spares (spares_onHello c l header m) (hl (.inr (.inl hs)))
  · next hs =>
    exact reflects_of_spares (spares_onBasic h.sound hk hs _ _ m) (hl (.inr (.inr (.inl hs))))
  · next hs => exact reflects_onDescription h hk hs header.xid m
  · next hserving =>
    rw [hserving] at hs
    cases hs
  · next hserving =>
    rw [hserving] at hs
    cases hs
  · exact reflects_of_outline rfl
  · exact reflects_of_outline rfl

/-! ## Frames of a connection in service -/

/-- A connection in service handles all messages alike. -/
theorem onMessage_of_isServing {k : Link} (hs : k.connection.stage.isServing = true)
    (header : Header) (m : Message) :
    c.onMessage l k header m = c.onService l k header.xid m := by
  unfold onMessage
  cases hstage : k.connection.stage <;> simp [hstage, Stage.isServing] at hs <;> rfl

/-- What a notification says of the ports of a registered datapath is told, as a change of what was
known. -/
theorem reflects_onService (h : c.outline.Healthy) {k : Link} (hk : c.link? l = some k)
    (hs : k.connection.stage.isServing = true) (x : Xid) (message : Message) :
    ∃ dp, k.connection.datapath = some dp.id ∧ c.registered? dp.id = some dp ∧
      dp.isAnnounced = true ∧
      c.Reflects (c.onService l k x message).1 (portNews (dp.outline.news message)) := by
  obtain ⟨m, dp, es, -, hdp, hm, hbound, hout, hes, -⟩ := outline_onService h.sound hk hs x message
  have hregistered : c.registered? dp.id = some dp := Option.bind_eq_some_iff.2 ⟨m, hm, hdp⟩
  have hmain : c.outline.main? dp.outline.id = some m := hm
  obtain ⟨_, _, -, hdp', hsound⟩ := h.sound.registered hmain
  obtain rfl := Option.some.inj ((datapath?_outline hdp).symm.trans hdp')
  refine ⟨dp, hbound, hregistered, hsound.isAnnounced,
    ⟨dp.outline.news message ++ es, congrArg Outline.events hout, ?_⟩, fun hmirrored => ?_⟩
  -- the other events carry the message itself
  · have hnone : portNews es = [] := List.filterMap_eq_nil_iff.2 fun e he => by
      obtain ⟨t, rfl⟩ := hes e he
      rfl
    rw [portNews_append, hnone, List.append_nil]
  · rw [hout]
    exact hmirrored.serve h.sound hmain (datapath?_outline hdp) message hes

/-- The change of a port that an operation brings: it is a frame with a notification, on any
connection in service of a registered datapath. -/
def report? (c : Controller) : Operation → Option (Datapath × PortStatus)
  | .frame l f =>
    match c.connection? l, Codec.decode f.header f.body with
    | some k, .ok (.portStatus s) =>
      if k.stage.isServing then (k.datapath.bind c.registered?).map fun dp => (dp, s) else none
    | _, _ => none
  | _ => none

/-- What listeners are told of ports in an operation. -/
def portNewsOf (c : Controller) (op : Operation) : List DatapathEvent :=
  match c.report? op with
  | none => []
  | some (dp, s) => [{
      kind := portEventKind s.reason (dp.ports.get? s.port.number)
      datapath := dp.id
      port := some s.port }]

/-- A frame that can be read brings a change of a port if it is a notification. -/
theorem report?_frame {k : Link} (hk : c.link? l = some k) {f : Frame} {m : Message}
    (hm : Codec.decode f.header f.body = .ok m) : c.report? (.frame l f) =
      match m with
      | .portStatus s =>
        if k.connection.stage.isServing then
          (k.connection.datapath.bind c.registered?).map fun dp => (dp, s)
        else none
      | _ => none := by
  simp only [report?, connection?, hk, hm]
  cases m <;> rfl

/-- Only frames report changes of ports. -/
private theorem report?_of_speaker? (c : Controller) {op : Operation} (hop : speaker? op = none) :
    c.report? op = none := by
  cases op with
  | frame l f => cases hop
  | _ => rfl

/-- What reports no change makes no news. -/
private theorem portNewsOf_of_none {op : Operation} (h : c.report? op = none) :
    c.portNewsOf op = [] := by
  rw [portNewsOf, h]

/-- A frame tells of ports what it is to tell. -/
theorem reflects_onFrame (h : c.outline.Healthy) (l : LinkId) (f : Frame) :
    c.Reflects (c.onFrame l f).1 (c.portNewsOf (.frame l f)) := by
  have hout := outline_received c l
  have hreceived : c.Reflects (c.received l) [] := reflects_of_outline hout
  rw [onFrame_eq]
  cases hk : c.link? l with
  | none =>
    have hnews : c.portNewsOf (.frame l f) = [] :=
      portNewsOf_of_none (by simp [report?, connection?, hk])
    rw [link?_received_of_none hk, hnews]
    exact hreceived
  | some k =>
    -- the frame counts as a sign of life, after which the connection looks the same
    obtain ⟨k₁, hk₁, hsame⟩ := Option.map_eq_some_iff.1
      (show (c.received l).outline.link? l = some k.outline from hout ▸ link?_outline hk)
    have hstage : k₁.connection.stage = k.connection.stage := congrArg LinkOutline.stage hsame
    have hdatapath : k₁.connection.datapath = k.connection.datapath :=
      congrArg LinkOutline.datapath hsame
    rw [hk₁]
    dsimp only
    cases hm : Codec.decode f.header f.body with
    | error e =>
      have hnews : c.portNewsOf (.frame l f) = [] :=
        portNewsOf_of_none (by simp [report?, connection?, hk, hm])
      rw [hnews]
      exact reflects_of_outline ((outline_onUnreadable _ l k₁ e).trans hout)
    | ok m =>
      have h₁ : (c.received l).outline.Healthy := hout ▸ h
      have hreport := report?_frame hk hm
      dsimp only
      cases hs : k.connection.stage.isServing with
      | false =>
        have hnews : c.portNewsOf (.frame l f) = [] := portNewsOf_of_none <| by
          rw [hreport]
          cases m <;> simp [hs]
        rw [hnews]
        exact hreceived.trans (reflects_onMessage h₁ hk₁ (hstage ▸ hs) f.header m)
      | true =>
        obtain ⟨dp, hbound, hregistered, hannounced, hreflects⟩ :=
          reflects_onService h₁ hk₁ (hstage ▸ hs) f.header.xid m
        have hregistered : c.registered? dp.id = some dp := hregistered
        have hnews : c.portNewsOf (.frame l f) = portNews (dp.outline.news m) := by
          cases m with
          | portStatus s =>
            have hs' : c.report? (.frame l f) = some (dp, s) := by
              simp [hreport, hs, ← hdatapath, hbound, hregistered]
            rw [portNews_news hannounced, portNewsOf, hs']
            rfl
          | _ => exact portNewsOf_of_none hreport
        rw [hnews, onMessage_of_isServing (hstage ▸ hs)]
        exact hreceived.trans hreflects

/-- An operation tells of ports what it is to tell, and leaves listeners with what is the case. -/
theorem reflects_apply (h : c.outline.Healthy) (op : Operation) :
    c.Reflects (c.apply op) (c.portNewsOf op) := by
  -- only an operation that speaks for a connection can bring a port status
  by_cases hop : speaker? op = none
  · have hnews := portNewsOf_of_none (c.report?_of_speaker? hop)
    have hdiscreet := (heralds_apply h hop).discreet
    rw [hnews]
    refine ⟨hdiscreet, fun hm => ?_⟩
    have hspec := apply_spec h.sound h.attached op
    rw [hop] at hspec
    rcases hspec with ⟨l, -, hmoves⟩ | hsteps
    · exact hmoves.mirrored h hm hdiscreet
    · exact hm.calms h hsteps
  · cases op with
    | frame l f =>
      have hframe := reflects_onFrame h l f
      have htakes := takes_onFrame h.sound h.attached l f
      rw [apply]
      unfold handleFrame
      split
      · next heq => exact heq ▸ hframe
      · next c₁ heq =>
        -- the session ends after the frame, and that tells nothing of ports
        rw [heq] at hframe htakes
        have h₁ : c₁.outline.Healthy := (h.calm htakes.calm_of_ends).1
        have hended := hframe.trans (reflects_endSession h₁ l)
        rw [List.append_nil] at hended
        exact hended
    | _ => exact absurd rfl hop

/-! ## Runs -/

/-- By induction on the operations, listeners know the ports in every run. -/
private theorem mirrored_run (h : c.outline.Healthy) (hm : c.outline.Mirrored)
    (ops : List Operation) :
    (c.run ops).outline.Mirrored := by
  induction ops generalizing c with
  | nil => exact hm
  | cons op ops ih => exact ih (healthy_apply h op) ((reflects_apply h op).mirrored hm)

/-- At first there is nothing to know. -/
private theorem mirrored_new (settings : Settings) (mastership : Mastership) :
    ({ settings, mastership } : Controller).outline.Mirrored := ⟨nofun, nofun⟩

/-- The datapath of a report is registered under its id. -/
theorem registered?_of_report? (h : c.outline.Sound) {op : Operation} {dp : Datapath}
    {s : PortStatus} (hreport : c.report? op = some (dp, s)) : c.registered? dp.id = some dp := by
  unfold report? at hreport
  split at hreport
  · split at hreport
    · split at hreport
      · obtain ⟨dp', hdp', heq⟩ := Option.map_eq_some_iff.1 hreport
        obtain ⟨rfl, -⟩ := Prod.mk.inj heq
        obtain ⟨d, -, hd⟩ := Option.bind_eq_some_iff.1 hdp'
        obtain ⟨m, hm, hdp⟩ := registered?_eq_some hd
        -- the report names the datapath by its own id, which is the one it is registered under
        obtain ⟨_, _, -, hdp₀, hmain⟩ := h.registered hm
        obtain rfl := Option.some.inj ((datapath?_outline hdp).symm.trans hdp₀)
        rw [show dp'.id = d from hmain.id_eq]
        exact hd
      · cases hreport
    · cases hreport
  · cases hreport

/-- In every run, who follows the events about a registered datapath knows its ports: those there
are now, each under its number. And ports are told of in no other way than this: a notification on a
connection in service of a registered datapath makes one event, with the port as it came; it says
that the port was removed if the switch said so, and otherwise, whatever the switch said, that it
was added if there was none of that number, and changed if there was one. -/
theorem mirror_run (settings : Settings) (mastership : Mastership) (ops : List Operation) :
    let c := run { settings, mastership } ops
    (∀ d dp, c.registered? d = some dp → ∃ i, c.info d = .ok i ∧ i.ports = dp.ports.toList ∧
      PortView.after d c.events = some dp.ports.get? ∧
      (∀ n p, dp.ports.get? n = some p ↔ p ∈ i.ports ∧ p.number = n) ∧
      i.ports.Pairwise fun p q => p.number < q.number) ∧
    ∀ op, ∃ es, (c.apply op).events = c.events ++ es ∧
      match c.report? op with
      | none => portNews es = []
      | some (dp, s) => c.registered? dp.id = some dp ∧
        ∃ e, portNews es = [e] ∧ e.datapath = dp.id ∧ e.port = some s.port ∧
          (e.kind = .portRemoved ↔ s.reason = .delete) ∧
          (e.kind = .portAdded ↔ s.reason ≠ .delete ∧ dp.ports.get? s.port.number = none) ∧
          (e.kind = .portChanged ↔ s.reason ≠ .delete ∧ dp.ports.get? s.port.number ≠ none) := by
  intro c
  have h : c.outline.Healthy := healthy_run (healthy_new settings mastership) ops
  have hmirrored : c.outline.Mirrored :=
    mirrored_run (healthy_new settings mastership) (mirrored_new settings mastership) ops
  refine ⟨fun d dp hregistered => ?_, fun op => ?_⟩
  -- what stands in the snapshot is what the events told so far
  · obtain ⟨m, hm, hdp⟩ := registered?_eq_some hregistered
    obtain ⟨k, hinfo⟩ := exists_info h.sound hregistered
    have hports : c.outline.ports? m = some dp.ports :=
      congrArg (Option.map _) (datapath?_outline hdp)
    have htidy := hmirrored.tidy hports
    refine ⟨dp.info k, hinfo, rfl, ?_, fun n p => htidy.get?_eq_some_iff, htidy.pairwise_toList⟩
    have hafter := hmirrored.after_eq hm
    rw [hports] at hafter
    exact hafter
  -- one operation tells at most one port event, the one of its report
  · obtain ⟨es, hevents, hes⟩ := (reflects_apply h op).reports
    refine ⟨es, hevents, ?_⟩
    rw [portNewsOf] at hes
    cases hreport : c.report? op with
    | none =>
      rw [hreport] at hes
      exact hes
    | some r =>
      rw [hreport] at hes
      exact ⟨registered?_of_report? h.sound hreport, _, hes, rfl, rfl, portEventKind_iff _ _⟩

/-- The switch says that a port changed, and listeners that it was added. -/
example :
    let c := run { settings := {} }
      (SecondPort.greeting ++ .frame 0 SecondPort.features :: SecondPort.sayings ++
        [SecondPort.refusal])
    let changed := SecondPort.frameOf 0 (.portStatus { reason := .modify, port := { number := 2 } })
    portNews (c.apply (.frame 0 changed)).events =
      [{ kind := .portAdded, datapath := ⟨5⟩, port := some { number := 2 } }] := by
  decide +kernel

end Controller

end Southbound
