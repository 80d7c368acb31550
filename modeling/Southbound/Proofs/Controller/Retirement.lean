import Southbound.Proofs.Controller.LifeCycle

/-!
# Datapaths that have gone

A datapath that listeners were told of is registered, or nothing is left of it: its connections are
closed, it has none besides its main one, and the installation of its initial flows is called off.
A datapath that has gone neither comes back nor becomes ready (`stays_run`).
-/

namespace Southbound

open Relation (ReflTransGen)

namespace Outline

variable {o o' : Outline} {a : Option LinkId} {l m : LinkId}

/-! ## Connections of datapaths -/

/-- The connection is closed for good. -/
def IsOut (k : LinkOutline) : Prop := k.IsSettled ∧ k.isClosed = true

/-- The connection was put to use under an auxiliary id of a datapath. -/
def IsBound (auxiliary : UInt8) (d : DatapathId) (k : LinkOutline) : Prop :=
  k.IsSettled ∧ k.auxiliary = auxiliary ∧ k.datapath = some d

/-- A connection that is closed for good stays so. -/
private theorem lasting_isOut : Lasting IsOut where
  isSettled h := h.1
  enter hs h := ⟨lasting_isSettled.enter hs h.1, (LinkOutline.isClosed_enter _ _).trans h.2⟩
  close h := ⟨lasting_isSettled.close h.1, rfl⟩
  cancel h := ⟨h.1, rfl⟩
  finish h := ⟨lasting_isSettled.finish h.1, rfl⟩
  revoke h := ⟨lasting_isSettled.revoke h.1, rfl⟩

/-- A connection keeps the id and the datapath that it was put to use under. -/
private theorem lasting_isBound (auxiliary : UInt8) (d : DatapathId) :
    Lasting (IsBound auxiliary d) where
  isSettled h := h.1
  enter hs h := ⟨lasting_isSettled.enter hs h.1, (LinkOutline.auxiliary_enter _ _).trans h.2.1,
    (LinkOutline.datapath_enter _ _).trans h.2.2⟩
  close h := ⟨lasting_isSettled.close h.1, (LinkOutline.auxiliary_close _).trans h.2.1,
    (LinkOutline.datapath_close _).trans h.2.2⟩
  cancel h := h
  finish h := ⟨lasting_isSettled.finish h.1, (LinkOutline.auxiliary_close _).trans h.2.1,
    (LinkOutline.datapath_close _).trans h.2.2⟩
  revoke h := ⟨lasting_isSettled.revoke h.1, (LinkOutline.auxiliary_enter _ _).trans h.2.1,
    (LinkOutline.datapath_enter _ _).trans h.2.2⟩

/-! ## What is left of a datapath -/

/-- Nothing is left of the datapath of `m`. -/
structure Retired (o : Outline) (m : LinkId) (dp : DatapathOutline) : Prop where
  auxiliaries : dp.auxiliaries = []
  provisioning : dp.provisioning = .cancelled
  main : o.Has IsOut m

/-- Datapaths have the connections they list, and are registered once they were announced, or
nothing is left of them. -/
structure Orderly (o : Outline) : Prop where
  announced : ∀ {m dp}, o.datapath? m = some dp → dp.isAnnounced = true →
    o.main? dp.id = some m ∨ o.Retired m dp
  auxiliary : ∀ {m dp x j}, o.datapath? m = some dp → (x, j) ∈ dp.auxiliaries →
    x ≠ 0 ∧ o.Has (IsBound x dp.id) j

/-- A datapath that was announced had its connection put to use. -/
theorem Orderly.isPast (ho : o.Orderly) (h : o.Sound) {dp : DatapathOutline}
    (hdp : o.datapath? m = some dp) (ha : dp.isAnnounced = true) : o.IsPast m := by
  rcases ho.announced hdp ha with hm | hretired
  · obtain ⟨k, dp', hk, -, hmain⟩ := h.registered hm
    exact ⟨k, hk, hmain.isSettled⟩
  · exact hretired.main.imp fun _ hk => hk.1

/-- What a step may leave of a datapath if nobody comes or goes: the same with at most the auxiliary
connections it had, or one that nobody was told of. -/
def Leaves (o : Outline) (m : LinkId) (dp' : DatapathOutline) : Prop :=
  (∃ dp, o.datapath? m = some dp ∧ dp'.id = dp.id ∧ dp'.isAnnounced = dp.isAnnounced ∧
    dp'.provisioning = dp.provisioning ∧ ∀ e ∈ dp'.auxiliaries, e ∈ dp.auxiliaries) ∨
  dp'.isAnnounced = false ∧ dp'.auxiliaries = []

/-- A datapath may stay as it is. -/
private theorem leaves_same {dp : DatapathOutline} (hdp : o.datapath? m = some dp) :
    o.Leaves m dp :=
  .inl ⟨dp, hdp, rfl, rfl, rfl, fun _ he => he⟩

/-- It may change in what has nothing to do with coming and going. -/
private theorem leaves_updateDatapath {f : DatapathOutline → DatapathOutline}
    (hf : ∀ dp, (f dp).id = dp.id ∧ (f dp).isAnnounced = dp.isAnnounced ∧
      (f dp).provisioning = dp.provisioning ∧ ∀ e ∈ (f dp).auxiliaries, e ∈ dp.auxiliaries)
    {i : LinkId} {dp' : DatapathOutline}
    (hdp : (o.updateDatapath m f).datapath? i = some dp') : o.Leaves i dp' := by
  rw [datapath?_updateDatapath] at hdp
  split at hdp
  · obtain ⟨dp, hdp₀, rfl⟩ := Option.map_eq_some_iff.1 hdp
    exact .inl ⟨dp, hdp₀, hf dp⟩
  · exact leaves_same hdp

/-- Nobody comes or goes. -/
theorem Orderly.of_leaves (h : o.Orderly) (hmain : ∀ i, o'.main? i = o.main? i)
    (hkeep : ∀ {P l}, Lasting P → o.Has P l → o'.Has P l)
    (hleaves : ∀ {m dp'}, o'.datapath? m = some dp' → o.Leaves m dp') : o'.Orderly where
  announced {m dp'} hdp' ha := by
    -- a datapath is either what it was, with fewer auxiliaries at most, or new
    rcases hleaves hdp' with ⟨dp, hdp, hid, hannounced, hprovisioning, haux⟩ | ⟨hnew, -⟩
    · rw [hmain, hid]
      refine (h.announced hdp (hannounced.symm.trans ha)).imp_right fun hretired => ?_
      -- a retired one had no auxiliaries, so it has none now
      have hnone : dp'.auxiliaries = [] := List.eq_nil_iff_forall_not_mem.2 fun e he => by
        have hmem := haux e he
        rw [hretired.auxiliaries] at hmem
        cases hmem
      exact ⟨hnone, hprovisioning.trans hretired.provisioning, hkeep lasting_isOut hretired.main⟩
    · rw [hnew] at ha
      cases ha
  auxiliary {m dp' x j} hdp' hmem := by
    rcases hleaves hdp' with ⟨dp, hdp, hid, -, -, haux⟩ | ⟨-, hnone⟩
    · rw [hid]
      exact (h.auxiliary hdp (haux _ hmem)).imp_right (hkeep (lasting_isBound _ _))
    · rw [hnone] at hmem
      cases hmem

/-- Connection `l` joins the connections of a registered datapath. -/
theorem Orderly.attach (ho : o.Orderly) (h : o.Sound) {k : LinkOutline} {d : DatapathId}
    {dp : DatapathOutline} (hk : o.link? l = some k) (hs : k.stage = .basicHandshake)
    (hd : k.datapath = some d) (haux : k.auxiliary ≠ 0) (hm : o.main? d = some m)
    (hdp : o.datapath? m = some dp) : (o.attach l m dp k.auxiliary).Orderly := by
  have hstep : Calm (some l) o (o.attach l m dp k.auxiliary) := .attach hk hs hd haux hm hdp
  have hmain (i : DatapathId) : (o.attach l m dp k.auxiliary).main? i = o.main? i := by
    simp [Outline.attach]
  have hdatapath (i : LinkId) : (o.attach l m dp k.auxiliary).datapath? i =
      if i = m then (o.datapath? i).map (.attach k.auxiliary l) else o.datapath? i := by
    simp [Outline.attach]
  obtain ⟨_, dp₀, -, hdp₀, hregistered⟩ := h.registered hm
  obtain rfl : dp = dp₀ := Option.some.inj (hdp.symm.trans hdp₀)
  -- `l` is put to use by this step, and is bound to the datapath since its features came
  have hself : (o.attach l m dp k.auxiliary).Has (IsBound k.auxiliary dp.id) l := by
    simp only [Has, Outline.attach, link?_updateLink, ↓reduceIte, link?_updateDatapath,
      link?_closeLinks, hk]
    rw [hregistered.id_eq]
    split
    · refine ⟨_, rfl, LinkOutline.isSettled_enter _ (.inl rfl), ?_, ?_⟩ <;>
        simp [LinkOutline.serve, hd]
    · refine ⟨_, rfl, LinkOutline.isSettled_enter _ (.inl rfl), ?_, ?_⟩ <;>
        simp [LinkOutline.serve, hd]
  refine ⟨fun {i dp'} hdp' ha => ?_, fun {i dp' x j} hdp' hmem => ?_⟩
  · rw [hdatapath] at hdp'
    rw [hmain]
    split at hdp'
    · next hi =>
      subst hi
      obtain ⟨dp₀, hdp₀, rfl⟩ := Option.map_eq_some_iff.1 hdp'
      obtain rfl : dp = dp₀ := Option.some.inj (hdp.symm.trans hdp₀)
      exact .inl (hregistered.id_eq.symm ▸ hm)
    · exact (ho.announced hdp' ha).imp_right fun hretired =>
        ⟨hretired.auxiliaries, hretired.provisioning, hretired.main.calm lasting_isOut hstep⟩
  · rw [hdatapath] at hdp'
    have hold {dp₀ : DatapathOutline} (hdp₀ : o.datapath? i = some dp₀)
        (hmem : (x, j) ∈ dp₀.auxiliaries) :
        x ≠ 0 ∧ (o.attach l m dp k.auxiliary).Has (IsBound x dp₀.id) j :=
      (ho.auxiliary hdp₀ hmem).imp_right fun hj => hj.calm (lasting_isBound _ _) hstep
    split at hdp'
    · next hi =>
      subst hi
      obtain ⟨dp₀, hdp₀, rfl⟩ := Option.map_eq_some_iff.1 hdp'
      obtain rfl : dp = dp₀ := Option.some.inj (hdp.symm.trans hdp₀)
      rcases Keyed.mem_put hmem with heq | hmem
      · obtain ⟨rfl, rfl⟩ := Prod.mk.inj heq
        exact ⟨haux, hself⟩
      · exact @hold dp hdp hmem
    · exact hold hdp' hmem

/-- A quiet step leaves of the datapaths what it may. -/
private theorem Orderly.calm (ho : o.Orderly) (h : o.Sound) (hstep : Calm a o o') : o'.Orderly := by
  have hmain (i : DatapathId) : o'.main? i = o.main? i := congrFun (h.phase_calm hstep).2.1 i
  have hkeep {P : LinkOutline → Prop} {l : LinkId} (hP : Lasting P) (hl : o.Has P l) :
      o'.Has P l := hl.calm hP hstep
  cases hstep with
  | accept | close | cancel | finish | greet | bind | collect | learn =>
    exact ho.of_leaves hmain hkeep leaves_same
  | ports hk hs hm f =>
    exact ho.of_leaves hmain hkeep
      (leaves_updateDatapath (f := .updatePorts f) fun _ => ⟨rfl, rfl, rfl, fun _ he => he⟩)
  | @detach _ _ l m k d dp x =>
    exact ho.of_leaves hmain hkeep (leaves_updateDatapath (f := .detach x) fun _ =>
      ⟨rfl, rfl, rfl, fun _ he => (List.mem_filter.1 he).1⟩)
  | @introduce _ l k hk hs d ports =>
    -- the only step that makes a datapath; it is neither announced nor has it auxiliaries
    refine ho.of_leaves hmain hkeep fun {m dp'} hdp' => ?_
    by_cases hm : m = l
    · obtain rfl : DatapathOutline.new d l ports = dp' :=
        Option.some.inj ((if_pos hm).symm.trans hdp')
      exact .inr ⟨rfl, rfl⟩
    · exact leaves_same ((if_neg hm).symm.trans hdp')
  | attach hk hs hd haux hm hdp => exact ho.attach h hk hs hd haux hm hdp

/-! ## Coming and going -/

/-- Telling does not matter. -/
private theorem Orderly.tell (ho : o.Orderly) (es : List Event) : (o.tell es).Orderly :=
  ho.of_leaves (fun _ => rfl) (fun _ hl => hl) leaves_same

/-- The datapath of `l` is registered under an id that is free. -/
theorem Orderly.register (ho : o.Orderly) {dp : DatapathOutline} (hdp : o.datapath? l = some dp)
    (hfree : o.main? dp.id = none) : (o.register dp.id l).Orderly := by
  have hkeep {P : LinkOutline → Prop} {j : LinkId} (hP : Lasting P) (hj : o.Has P j) :
      (o.register dp.id l).Has P j := hj.register hP dp.id l
  refine ⟨fun {m dp'} hdp' ha => ?_, fun {m dp' x j} hdp' hmem => ?_⟩
  · rw [datapath?_register] at hdp'
    rw [main?_register]
    split at hdp'
    · next hm =>
      subst hm
      obtain ⟨dp₀, hdp₀, rfl⟩ := Option.map_eq_some_iff.1 hdp'
      obtain rfl : dp = dp₀ := Option.some.inj (hdp.symm.trans hdp₀)
      exact .inl (if_pos rfl)
    · refine (ho.announced hdp' ha).imp (fun hm => ?_) fun hretired =>
        ⟨hretired.auxiliaries, hretired.provisioning, hkeep lasting_isOut hretired.main⟩
      -- another datapath that is registered has another id, because this one was free
      rw [if_neg, hm]
      intro heq
      rw [heq, hfree] at hm
      cases hm
  · rw [datapath?_register] at hdp'
    split at hdp'
    · obtain ⟨dp₀, hdp₀, rfl⟩ := Option.map_eq_some_iff.1 hdp'
      exact (ho.auxiliary hdp₀ hmem).imp_right (hkeep (lasting_isBound _ _))
    · exact (ho.auxiliary hdp' hmem).imp_right (hkeep (lasting_isBound _ _))

/-- The datapath of `m` goes. -/
theorem Orderly.unregister (ho : o.Orderly) (h : o.Sound) {d : DatapathId} {dp : DatapathOutline}
    {leave : LinkOutline → LinkOutline} (hm : o.main? d = some m) (hdp : o.datapath? m = some dp)
    (hleave : ∀ k, (leave k).isClosed = true ∧ (leave k).stage.isFinal = true)
    (hlasting : ∀ {P k}, Lasting P → P k → P (leave k)) : (o.unregister d m dp leave).Orderly := by
  have hkeep {P : LinkOutline → Prop} {j : LinkId} (hP : Lasting P) (hj : o.Has P j) :
      (o.unregister d m dp leave).Has P j := hj.unregister hP d m dp (hlasting hP)
  obtain ⟨k, dp₀, hk, hdp₀, hregistered⟩ := h.registered hm
  obtain rfl : dp = dp₀ := Option.some.inj (hdp.symm.trans hdp₀)
  -- the main connection stays past its handshake and is closed by leaving
  have hout : (o.unregister d m dp leave).Has IsOut m := by
    have hpast : o.IsPast m := ⟨k, hk, hregistered.isSettled⟩
    obtain ⟨k', hk', hsettled⟩ := hkeep lasting_isSettled hpast
    exact ⟨k', hk', hsettled, (isFinal_unregister hleave hk').1⟩
  refine ⟨fun {i dp'} hdp' ha => ?_, fun {i dp' x j} hdp' hmem => ?_⟩
  · rw [datapath?_unregister] at hdp'
    rw [main?_unregister]
    split at hdp'
    · next hi =>
      subst hi
      obtain ⟨dp₀, hdp₀, rfl⟩ := Option.map_eq_some_iff.1 hdp'
      obtain rfl : dp = dp₀ := Option.some.inj (hdp.symm.trans hdp₀)
      exact .inr ⟨rfl, rfl, hout⟩
    · next hi =>
      refine (ho.announced hdp' ha).imp (fun hi' => ?_) fun hretired =>
        ⟨hretired.auxiliaries, hretired.provisioning, hkeep lasting_isOut hretired.main⟩
      rw [if_neg, hi']
      intro heq
      rw [heq, hm] at hi'
      exact hi (Option.some.inj hi').symm
  · rw [datapath?_unregister] at hdp'
    split at hdp'
    · obtain ⟨dp₀, hdp₀, rfl⟩ := Option.map_eq_some_iff.1 hdp'
      cases hmem
    · exact (ho.auxiliary hdp' hmem).imp_right (hkeep (lasting_isBound _ _))

/-- Whoever goes in a step leaves nothing behind. -/
private theorem Orderly.eventful (ho : o.Orderly) (h : o.Sound) (ha : o.Attached)
    (hstep : Eventful l o o') : o'.Orderly := by
  cases hstep with
  | connects hk hs hdp hfree he => exact (ho.register hdp hfree).tell _
  | @replaces k dp old m gone e hk hs hdp hm hold hgone he =>
    obtain ⟨-, hdatapath⟩ := h.unregister_apart ha hk hs hm hold .revoke
    -- first the old datapath retires, then the new one takes its id
    have hgo := ho.unregister h hm hold (fun k => ⟨k.isClosed_revoke, k.isFinal_revoke⟩)
      fun hP => hP.revoke
    exact (hgo.register (hdatapath.trans hdp) (by simp)).tell _
  | serves => exact ho.tell _
  | readies hk hopen hdp hsubmitted hnew he =>
    have hready : (o.updateDatapath l .getReady).Orderly :=
      ho.of_leaves (fun _ => rfl) (fun _ hl => hl)
        (leaves_updateDatapath (f := .getReady) fun _ => ⟨rfl, rfl, rfl, fun _ he => he⟩)
    have hentered :
        ((o.updateDatapath l .getReady).updateLink l (.enter .ready)).Orderly :=
      hready.of_leaves (fun _ => rfl) (fun hP hl => hl.updateLink fun _ => hP.enter (.inl rfl))
        leaves_same
    exact hentered.tell _
  | disconnects hm hdp he =>
    exact (ho.unregister h hm hdp (fun k => ⟨k.isClosed_close, k.isFinal_close⟩)
      fun hP => hP.close).tell _

/-! ## What stays of a datapath -/

/-- Listeners were told of the datapath of `m`, which is `dp`. -/
structure Tells (o : Outline) (m : LinkId) (dp : DatapathOutline) : Prop where
  datapath? : o.datapath? m = some dp
  isAnnounced : dp.isAnnounced = true

/-- A datapath that was announced stays under its id, and one that has gone stays away and does not
become ready. -/
def Stays (o : Outline) (m : LinkId) (dp : DatapathOutline) (o' : Outline) : Prop :=
  ∃ dp', o'.Tells m dp' ∧ dp'.id = dp.id ∧
    (o.main? dp.id ≠ some m → o'.main? dp.id ≠ some m ∧ dp'.isReady = dp.isReady)

/-- A datapath stays if it is as it was. -/
private theorem stays_of_eq {dp : DatapathOutline} (h : o.Tells m dp)
    (hdp : o'.datapath? m = o.datapath? m)
    (hmain : o.main? dp.id ≠ some m → o'.main? dp.id ≠ some m) : o.Stays m dp o' :=
  ⟨dp, ⟨hdp.trans h.datapath?, h.isAnnounced⟩, rfl, fun hgone => ⟨hmain hgone, rfl⟩⟩

/-- It stays if another one changes, or it changes in something else. -/
private theorem stays_updateDatapath {f : DatapathOutline → DatapathOutline} {dp : DatapathOutline}
    (h : o.Tells m dp) {i : LinkId} (hdatapath : ∀ j, o'.datapath? j =
      if j = i then (o.datapath? j).map f else o.datapath? j)
    (hf : ∀ dp, (f dp).id = dp.id ∧ (dp.isAnnounced = true → (f dp).isAnnounced = true))
    (hready : m = i → o.main? dp.id ≠ some m → (f dp).isReady = dp.isReady)
    (hmain : o.main? dp.id ≠ some m → o'.main? dp.id ≠ some m) : o.Stays m dp o' := by
  by_cases hm : m = i
  · refine ⟨f dp, ⟨?_, (hf dp).2 h.isAnnounced⟩, (hf dp).1, fun hgone =>
      ⟨hmain hgone, hready hm hgone⟩⟩
    rw [hdatapath, if_pos hm, h.datapath?]
    rfl
  · exact stays_of_eq h ((hdatapath m).trans (if_neg hm)) hmain

/-- Nobody comes back in a quiet step. -/
private theorem Tells.calm {dp : DatapathOutline} (h : o.Tells m dp) (hsound : o.Sound)
    (ho : o.Orderly) (hstep : Calm a o o') : o.Stays m dp o' := by
  have hmain : o.main? dp.id ≠ some m → o'.main? dp.id ≠ some m := by
    rw [(hsound.phase_calm hstep).2.1]
    exact id
  cases hstep with
  | accept | close | cancel | finish | greet | bind | collect | learn =>
    exact stays_of_eq h rfl hmain
  | ports hk hs hm f =>
    exact stays_updateDatapath (f := .updatePorts f) h (fun _ => rfl) (fun _ => ⟨rfl, id⟩)
      (fun _ _ => rfl) hmain
  | @attach _ l m' k d dp' =>
    refine stays_updateDatapath (f := .attach k.auxiliary l) h (i := m') (fun j => ?_)
      (fun _ => ⟨rfl, id⟩) (fun _ _ => rfl) hmain
    simp [Outline.attach]
  | @detach _ _ l m' k d dp' x =>
    exact stays_updateDatapath (f := .detach x) h (fun _ => rfl) (fun _ => ⟨rfl, id⟩)
      (fun _ _ => rfl) hmain
  | @introduce _ l k hk hs =>
    -- the connection of an announced datapath has long been put to use
    have hml : m ≠ l := by
      rintro rfl
      obtain ⟨k', hk', hsettled⟩ := ho.isPast hsound h.datapath? h.isAnnounced
      obtain rfl : k = k' := Option.some.inj (hk.symm.trans hk')
      exact LinkOutline.not_isSettled (.inr (.inr (.inl hs))) hsettled
    exact stays_of_eq h (if_neg hml) hmain

/-- A datapath goes, be it this one or another. -/
theorem Tells.unregister {dp : DatapathOutline} (h : o.Tells m dp) (d : DatapathId) (i : LinkId)
    (old : DatapathOutline) (leave : LinkOutline → LinkOutline) :
    o.Stays m dp (o.unregister d i old leave) := by
  refine stays_updateDatapath (f := .withdraw) h (fun j => datapath?_unregister o d j i old leave)
    (fun _ => ⟨rfl, id⟩) (fun _ _ => rfl) fun hgone => ?_
  rw [main?_unregister]
  split
  · nofun
  · exact hgone

/-- Another datapath is registered. -/
theorem Tells.register {dp : DatapathOutline} (h : o.Tells m dp) (hml : m ≠ l) (d : DatapathId) :
    o.Stays m dp (o.register d l) := by
  refine stays_of_eq h (if_neg hml) fun hgone => ?_
  rw [main?_register]
  split
  · exact fun heq => hml (Option.some.inj heq).symm
  · exact hgone

/-- What stays in each of two steps stays in both. -/
private theorem Stays.trans {o'' : Outline} {dp : DatapathOutline} (h : o.Stays m dp o')
    (h' : ∀ {dp'}, o'.Tells m dp' → o'.Stays m dp' o'') : o.Stays m dp o'' := by
  obtain ⟨dp', htells, hid, hgone⟩ := h
  obtain ⟨dp'', htells', hid', hgone'⟩ := h' htells
  refine ⟨dp'', htells', hid'.trans hid, fun hm => ?_⟩
  obtain ⟨hm', hready⟩ := hgone hm
  rw [hid] at hgone'
  obtain ⟨hm'', hready'⟩ := hgone' hm'
  exact ⟨hm'', hready'.trans hready⟩

/-- Only a datapath that nobody was told of is registered. -/
private theorem Tells.eventful {dp : DatapathOutline} (h : o.Tells m dp) (hsound : o.Sound)
    (ho : o.Orderly) (hstep : Eventful l o o') : o.Stays m dp o' := by
  have htell {o₁ : Outline} (es : List Event) (hstays : o.Stays m dp o₁) :
      o.Stays m dp (o₁.tell es) := by
    obtain ⟨dp', htells, hrest⟩ := hstays
    exact ⟨dp', ⟨htells.datapath?, htells.isAnnounced⟩, hrest⟩
  -- whose switch is being described was not put to use before
  have hother {k : LinkOutline} (hk : o.link? l = some k) (hs : k.stage = .extendedHandshake) :
      m ≠ l := by
    rintro rfl
    obtain ⟨k', hk', hsettled⟩ := ho.isPast hsound h.datapath? h.isAnnounced
    obtain rfl : k = k' := Option.some.inj (hk.symm.trans hk')
    exact LinkOutline.not_isSettled (.inr (.inr (.inr hs))) hsettled
  cases hstep with
  | connects hk hs hdp hfree he => exact htell _ (h.register (hother hk hs) _)
  | replaces hk hs hdp hm hold hgone he =>
    exact htell _ ((h.unregister _ _ _ _).trans fun h' => h'.register (hother hk hs) _)
  | serves => exact htell _ (stays_of_eq h rfl id)
  | @readies k dp' e hk hopen hdp hsubmitted =>
    refine htell _ (stays_updateDatapath (f := .getReady) h (i := l) (fun _ => rfl)
      (fun _ => ⟨rfl, id⟩) (fun hml hgone => ?_) id)
    -- initial flows are installed on registered datapaths only
    obtain rfl : dp = dp' := Option.some.inj (h.datapath?.symm.trans (hml ▸ hdp))
    exact absurd (hml ▸ hsound.submitted hdp hsubmitted) hgone
  | disconnects hm hdp he => exact htell _ (h.unregister _ _ _ _)

/-- Several quiet steps leave of the datapaths what they may. -/
private theorem Orderly.calms (ho : o.Orderly) (h : o.Sound) (hsteps : ReflTransGen (Calm a) o o') :
    o'.Orderly := by
  induction hsteps with
  | refl => exact ho
  | tail hbefore hstep ih => exact ih.calm (h.calms hbefore) hstep

/-- Nobody comes back in several quiet steps. -/
private theorem Tells.calms {dp : DatapathOutline} (h : o.Tells m dp) (hsound : o.Sound)
    (ho : o.Orderly) (hsteps : ReflTransGen (Calm a) o o') : o.Stays m dp o' := by
  induction hsteps with
  | refl => exact stays_of_eq h rfl id
  | tail hbefore hstep ih =>
    exact ih.trans fun h' => h'.calm (hsound.calms hbefore) (ho.calms hsound hbefore) hstep

end Outline

/-! ## Operations -/

namespace Controller

variable {c c' : Controller} {a : Option LinkId} {l m : LinkId}

/-- The moves of a connection keep the datapaths in order. -/
private theorem Moves.orderly (hmoves : Moves a l c c') (h : c.outline.Healthy)
    (ho : c.outline.Orderly) :
    c'.outline.Orderly := by
  obtain ⟨o, hcalm, heq | hnews⟩ := hmoves
  · exact heq ▸ ho.calms h.sound hcalm
  · exact (ho.calms h.sound hcalm).eventful (h.sound.calms hcalm) (h.attached.calms hcalm)
      hnews.eventful

/-- They bring nobody back. -/
private theorem Moves.stays {dp : DatapathOutline} (hmoves : Moves a l c c') (h : c.outline.Healthy)
    (ho : c.outline.Orderly) (htells : c.outline.Tells m dp) :
    c.outline.Stays m dp c'.outline := by
  obtain ⟨o, hcalm, heq | hnews⟩ := hmoves
  · exact heq ▸ htells.calms h.sound ho hcalm
  · exact (htells.calms h.sound ho hcalm).trans fun h' =>
      h'.eventful (h.sound.calms hcalm) (ho.calms h.sound hcalm) hnews.eventful

/-- Every operation keeps the datapaths in order. -/
theorem orderly_apply (h : c.outline.Healthy) (ho : c.outline.Orderly) (op : Operation) :
    (c.apply op).outline.Orderly := by
  rcases apply_spec h.sound h.attached op with ⟨l, -, hmoves⟩ | hcalm
  · exact hmoves.orderly h ho
  · exact ho.calms h.sound hcalm

/-- No operation brings anybody back. -/
theorem stays_apply {dp : DatapathOutline} (h : c.outline.Healthy) (ho : c.outline.Orderly)
    (htells : c.outline.Tells m dp) (op : Operation) :
    c.outline.Stays m dp (c.apply op).outline := by
  rcases apply_spec h.sound h.attached op with ⟨l, -, hmoves⟩ | hcalm
  · exact hmoves.stays h ho htells
  · exact htells.calms h.sound ho hcalm

/-- By induction, no run does. -/
theorem stays_run {dp : DatapathOutline} (h : c.outline.Healthy) (ho : c.outline.Orderly)
    (htells : c.outline.Tells m dp) (ops : List Operation) :
    c.outline.Stays m dp (c.run ops).outline := by
  induction ops generalizing c dp with
  | nil => exact Outline.stays_of_eq htells rfl id
  | cons op ops ih =>
    exact (stays_apply h ho htells op).trans fun h' =>
      ih (healthy_apply h op) (orderly_apply h ho op) h'

/-- At first there are no datapaths. -/
theorem orderly_new (settings : Settings) (mastership : Mastership) :
    ({ settings, mastership } : Controller).outline.Orderly := ⟨nofun, nofun⟩

end Controller

end Southbound
