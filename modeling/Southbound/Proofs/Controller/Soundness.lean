import Mathlib.Logic.Relation
import Southbound.Proofs.Controller.Outline

/-!
# Sound outlines

`Sound` says how connections, datapaths and the registry hang together, and `Attached` which
connections a datapath has besides its main one. Every step keeps both:

* `Sound.calm`, `Sound.eventful`
* `Attached.calm`, `Attached.eventful`
-/

namespace Southbound.Outline

variable {o o' : Outline}

/-- What a connection has to do with datapaths and the registry, as far as it has come. -/
structure LinkSound (o : Outline) (l : LinkId) (k : LinkOutline) : Prop where
  /-- A connection may be closed before its session has ended. -/
  closed_of_final : k.stage.isFinal = true → k.isClosed = true
  final_of_gone : k.isRevoked = true ∨ k.isOver = true → k.stage.isFinal = true
  unasked : k.stage = .connecting ∨ k.stage = .versionNegotiating ∨ k.stage = .basicHandshake →
    k.descriptions = {}
  /-- While its switch is being described, it has a datapath that nobody was told of. -/
  collecting : k.stage = .extendedHandshake → k.auxiliary = 0 ∧ k.serves = some l ∧
    ∃ d ports, k.datapath = some d ∧ o.datapath? l = some (.new d l ports)
  serving_main : k.stage.isServing = true → k.auxiliary = 0 →
    k.serves = some l ∧ ∃ d, k.datapath = some d ∧ o.main? d = some l
  serving_auxiliary : k.stage.isServing = true → k.auxiliary ≠ 0 →
    ∃ d m dp, k.datapath = some d ∧ o.main? d = some m ∧ o.datapath? m = some dp ∧
      dp.auxiliaries.find? k.auxiliary = some l ∧ k.serves = some m

/-- A registered datapath was announced, and its main connection serves it until it closes. -/
structure MainSound (d : DatapathId) (k : LinkOutline) (dp : DatapathOutline) : Prop where
  id_eq : dp.id = d
  isAnnounced : dp.isAnnounced = true
  auxiliary_eq : k.auxiliary = 0
  datapath_eq : k.datapath = some d
  not_revoked : k.isRevoked = false
  isSettled : k.IsSettled

/-- How connections, datapaths and the registry hang together. -/
structure Sound (o : Outline) : Prop where
  link : ∀ {l k}, o.link? l = some k → o.LinkSound l k
  main_eq : ∀ {m dp}, o.datapath? m = some dp → dp.main = m
  /-- Initial flows are installed on registered datapaths only. -/
  submitted : ∀ {m dp}, o.datapath? m = some dp → dp.provisioning = .submitted →
    o.main? dp.id = some m
  registered : ∀ {d m}, o.main? d = some m → ∃ k dp, o.link? m = some k ∧
    o.datapath? m = some dp ∧ MainSound d k dp

/-- There is a connection `l`, and `P` holds of it. -/
def Has (o : Outline) (P : LinkOutline → Prop) (l : LinkId) : Prop :=
  ∃ k, o.link? l = some k ∧ P k

/-- Connection `l` was put to use at some time, or has ended before that. -/
def IsPast (o : Outline) (l : LinkId) : Prop := o.Has LinkOutline.IsSettled l

/-- Only connections that were put to use are attached to datapaths. -/
structure Attached (o : Outline) : Prop where
  settled : ∀ {m dp j}, o.datapath? m = some dp → j ∈ dp.auxiliaries.values → o.IsPast j

/-- Nothing is asked of a connection that is closed. -/
theorem linkSound_of_isFinal {l : LinkId} {k : LinkOutline} (hclosed : k.isClosed = true)
    (hfinal : k.stage.isFinal = true) : o.LinkSound l k where
  closed_of_final _ := hclosed
  final_of_gone _ := hfinal
  unasked hs := by rcases hs with hs | hs | hs <;> simp [hs, Stage.isFinal] at hfinal
  collecting hs := by simp [hs, Stage.isFinal] at hfinal
  serving_main hs := by simp [Stage.isFinal_of_isServing hs] at hfinal
  serving_auxiliary hs := by simp [Stage.isFinal_of_isServing hs] at hfinal

/-- Nothing is asked of a connection without features. -/
theorem linkSound_of_early {l : LinkId} {k : LinkOutline}
    (hgone : k.isRevoked = false ∧ k.isOver = false) (hunasked : k.descriptions = {})
    (hs : k.stage = .connecting ∨ k.stage = .versionNegotiating ∨ k.stage = .basicHandshake) :
    o.LinkSound l k := by
  constructor <;> rcases hs with hs | hs | hs <;>
    simp [hs, hgone, hunasked, Stage.isFinal, Stage.isServing]

/-- A connection that is closed is sound whatever else is the case. -/
private theorem linkSound_close (l : LinkId) (k : LinkOutline) : o.LinkSound l k.close :=
  linkSound_of_isFinal rfl k.isFinal_close

/-- What a connection has to do with the rest, after a step that leaves alone what it serves. -/
theorem LinkSound.congr {l : LinkId} {k : LinkOutline} (h : o.LinkSound l k)
    (hcollecting : ∀ {d ports}, k.stage = .extendedHandshake →
      o.datapath? l = some (.new d l ports) → ∃ ports', o'.datapath? l = some (.new d l ports'))
    (hmain : ∀ {d m}, k.stage.isServing = true → k.serves = some m → o.main? d = some m →
      o'.main? d = some m)
    (haux : ∀ {d m dp}, k.stage.isServing = true → k.serves = some m → o.main? d = some m →
      o.datapath? m = some dp → dp.auxiliaries.find? k.auxiliary = some l →
      ∃ dp', o'.datapath? m = some dp' ∧ dp'.auxiliaries.find? k.auxiliary = some l) :
    o'.LinkSound l k where
  closed_of_final := h.closed_of_final
  final_of_gone := h.final_of_gone
  unasked := h.unasked
  collecting hs := by
    obtain ⟨haux, hserves, d, ports, hd, hdp⟩ := h.collecting hs
    obtain ⟨ports', hdp'⟩ := hcollecting hs hdp
    exact ⟨haux, hserves, d, ports', hd, hdp'⟩
  serving_main hs ha := by
    obtain ⟨hserves, d, hd, hm⟩ := h.serving_main hs ha
    exact ⟨hserves, d, hd, hmain hs hserves hm⟩
  serving_auxiliary hs ha := by
    -- the datapath may have changed, as long as it still lists this connection
    obtain ⟨d, m, dp, hd, hm, hdp, hfind, hserves⟩ := h.serving_auxiliary hs ha
    obtain ⟨dp', hdp', hfind'⟩ := haux hs hserves hm hdp hfind
    exact ⟨d, m, dp', hd, hmain hs hserves hm, hdp', hfind', hserves⟩

/-- A main connection stands for its datapath when it is closed, too. -/
private theorem MainSound.close {d : DatapathId} {k : LinkOutline} {dp : DatapathOutline}
    (h : MainSound d k dp) : MainSound d k.close dp :=
  ⟨h.id_eq, h.isAnnounced, k.auxiliary_close.trans h.auxiliary_eq,
    k.datapath_close.trans h.datapath_eq, k.isRevoked_close.trans h.not_revoked,
    .inr k.isFinal_close⟩

/-- A connection that has not come to a final stage is neither revoked nor over. -/
theorem Sound.not_gone (h : o.Sound) {l : LinkId} {k : LinkOutline}
    (hk : o.link? l = some k) (hs : k.stage.isFinal = false) :
    k.isRevoked = false ∧ k.isOver = false := by
  have hfinal := (h.link hk).final_of_gone
  rw [hs] at hfinal
  simpa using hfinal

/-- The main connection of a registered datapath is past the handshake. -/
theorem Sound.not_main (h : o.Sound) {l : LinkId} {k : LinkOutline} (hk : o.link? l = some k)
    (hs : ¬ k.IsSettled) {d : DatapathId} : o.main? d ≠ some l := by
  intro hm
  obtain ⟨k', dp, hk', -, hmain⟩ := h.registered hm
  obtain rfl : k = k' := Option.some.inj (hk.symm.trans hk')
  exact hs hmain.isSettled

/-- No switch is being described any more on a registered connection. -/
theorem Sound.not_collecting (h : o.Sound) {d : DatapathId} {m : LinkId} (hm : o.main? d = some m)
    {k : LinkOutline} (hk : o.link? m = some k) : k.stage ≠ .extendedHandshake := fun hs =>
  h.not_main hk (LinkOutline.not_isSettled (.inr (.inr (.inr hs)))) hm

/-! ## Calm steps -/

/-- One connection changes, in a way that leaves a registered one as it has to be. -/
theorem Sound.updateLink (h : o.Sound) {l : LinkId} {f : LinkOutline → LinkOutline}
    (hlink : ∀ {k}, o.link? l = some k → o.LinkSound l (f k))
    (hmain : ∀ {d k dp}, o.main? d = some l → o.link? l = some k → MainSound d k dp →
      MainSound d (f k) dp) : (o.updateLink l f).Sound where
  link {j k} hk := by
    -- nothing that `LinkSound` says of the rest changes with a connection
    have hsame {j k} (hl : o.LinkSound j k) : (o.updateLink l f).LinkSound j k :=
      ⟨hl.closed_of_final, hl.final_of_gone, hl.unasked, hl.collecting, hl.serving_main,
        hl.serving_auxiliary⟩
    simp only [Outline.updateLink] at hk
    split at hk
    · next hj =>
      subst hj
      obtain ⟨k₀, hk₀, rfl⟩ := Option.map_eq_some_iff.1 hk
      exact hsame (hlink hk₀)
    · exact hsame (h.link hk)
  main_eq hdp := h.main_eq hdp
  submitted hdp := h.submitted hdp
  registered {d m} hm := by
    obtain ⟨k, dp, hk, hdp, hsound⟩ := h.registered hm
    by_cases hml : m = l
    · subst hml
      exact ⟨f k, dp, by simp [Outline.updateLink, hk], hdp, hmain hm hk hsound⟩
    · exact ⟨k, dp, by simp [Outline.updateLink, hml, hk], hdp, hsound⟩

/-- Connections can be closed. -/
private theorem Sound.close (h : o.Sound) (l : LinkId) : (o.updateLink l .close).Sound :=
  h.updateLink (fun _ => linkSound_close l _) fun _ _ hs => hs.close

/-- A connection that is cancelled is where it was. -/
theorem Sound.cancel (h : o.Sound) (l : LinkId) : (o.updateLink l .cancel).Sound :=
  h.updateLink (fun hk => { h.link hk with closed_of_final := fun _ => rfl })
    fun _ _ hs => { hs with }

/-- The session of a connection ends. -/
theorem Sound.finish (h : o.Sound) (l : LinkId) : (o.updateLink l .finish).Sound :=
  h.updateLink (fun _ => linkSound_of_isFinal rfl (LinkOutline.isFinal_close _)) fun _ _ hs =>
    ⟨hs.id_eq, hs.isAnnounced, hs.close.auxiliary_eq, hs.close.datapath_eq, hs.close.not_revoked,
      hs.close.isSettled⟩

/-- By induction, so can several. -/
theorem Sound.closeLinks (h : o.Sound) (ls : List LinkId) : (o.closeLinks ls).Sound := by
  induction ls generalizing o with
  | nil => exact h
  | cons l ls ih => exact ih (h.close l)

/-- The datapath of a connection without features is nobody's business. -/
theorem Sound.introduce (h : o.Sound) {l : LinkId} {k : LinkOutline} (hk : o.link? l = some k)
    (hs : k.stage = .basicHandshake) (d : DatapathId) (ports : PortTable) :
    (o.putDatapath l (.new d l ports)).Sound := by
  -- a registered datapath is that of a connection past the handshake
  have hnot {i : DatapathId} {m : LinkId} (hm : o.main? i = some m) : m ≠ l := by
    rintro rfl
    exact h.not_main hk (LinkOutline.not_isSettled (.inr (.inr (.inl hs)))) hm
  have hother {m : LinkId} (hm : m ≠ l) :
      (o.putDatapath l (.new d l ports)).datapath? m = o.datapath? m := if_neg hm
  have hself : (o.putDatapath l (.new d l ports)).datapath? l = some (.new d l ports) := if_pos rfl
  refine ⟨fun {j k'} hk' => ?_, fun {m dp} hdp => ?_, fun {m dp} hdp hsub => ?_,
    fun {i m} hm => ?_⟩
  · -- only `l` itself could still have a new datapath of its own, and it has no features yet
    refine (h.link hk').congr (fun hcollecting hdp => ⟨_, (hother ?_).trans hdp⟩)
      (fun _ _ hm => hm) fun _ _ hm hdp hfind => ⟨_, (hother (hnot hm)).trans hdp, hfind⟩
    rintro rfl
    obtain rfl : k = k' := Option.some.inj (hk.symm.trans hk')
    rw [hs] at hcollecting
    cases hcollecting
  · by_cases hm : m = l
    · subst hm
      rw [hself] at hdp
      rw [← Option.some.inj hdp]
      rfl
    · rw [hother hm] at hdp
      exact h.main_eq hdp
  · by_cases hm : m = l
    · subst hm
      rw [hself] at hdp
      rw [← Option.some.inj hdp] at hsub
      cases hsub
    · rw [hother hm] at hdp
      exact h.submitted hdp hsub
  · obtain ⟨k', dp, hk', hdp, hmain⟩ := h.registered hm
    exact ⟨k', dp, hk', (hother (hnot hm)).trans hdp, hmain⟩

/-- A datapath changes in nothing that the registry is about, keeps the connections that serve it,
and stays new if nobody was told of it. -/
theorem Sound.updateDatapath (h : o.Sound) {m : LinkId} {f : DatapathOutline → DatapathOutline}
    (hsame : ∀ dp, (f dp).id = dp.id ∧ (f dp).main = dp.main ∧ (f dp).isAnnounced = dp.isAnnounced ∧
      (f dp).provisioning = dp.provisioning)
    (hnew : ∀ {k d ports}, o.link? m = some k → k.stage = .extendedHandshake →
      ∃ ports', f (.new d m ports) = .new d m ports')
    (hkeep : ∀ {j k dp}, o.link? j = some k → k.stage.isServing = true → o.datapath? m = some dp →
      dp.auxiliaries.find? k.auxiliary = some j →
      (f dp).auxiliaries.find? k.auxiliary = some j) : (o.updateDatapath m f).Sound := by
  -- whoever serves the datapath is still found in it, and one that is collecting still has a new
  -- one
  refine ⟨fun {j k} hk => ?_, fun {i dp} hdp => ?_, fun {i dp} hdp hsub => ?_, fun {d i} hi => ?_⟩
  · refine (h.link hk).congr (fun {d ports} hcollecting hdp => ?_) (fun _ _ hm => hm) ?_
    · rw [datapath?_updateDatapath, hdp]
      split
      · next hj =>
        subst hj
        obtain ⟨ports', hports⟩ := @hnew _ d ports hk hcollecting
        exact ⟨ports', congrArg some hports⟩
      · exact ⟨ports, rfl⟩
    · intro d i dp hserving _ _ hdp hfind
      rw [datapath?_updateDatapath]
      split
      · next hi =>
        subst hi
        rw [hdp]
        exact ⟨f dp, rfl, hkeep hk hserving hdp hfind⟩
      · exact ⟨dp, hdp, hfind⟩
  · rw [datapath?_updateDatapath] at hdp
    split at hdp
    · obtain ⟨dp₀, hdp₀, rfl⟩ := Option.map_eq_some_iff.1 hdp
      exact (hsame dp₀).2.1.trans (h.main_eq hdp₀)
    · exact h.main_eq hdp
  · rw [datapath?_updateDatapath] at hdp
    split at hdp
    · obtain ⟨dp₀, hdp₀, rfl⟩ := Option.map_eq_some_iff.1 hdp
      rw [(hsame dp₀).2.2.2] at hsub
      rw [(hsame dp₀).1]
      exact h.submitted hdp₀ hsub
    · exact h.submitted hdp hsub
  · obtain ⟨k, dp, hk, hdp, hmain⟩ := h.registered hi
    by_cases him : i = m
    · refine ⟨k, f dp, hk, by simp [him ▸ hdp, him], ?_⟩
      exact ⟨(hsame dp).1.trans hmain.id_eq, (hsame dp).2.2.1.trans hmain.isAnnounced,
        hmain.auxiliary_eq, hmain.datapath_eq, hmain.not_revoked, hmain.isSettled⟩
    · exact ⟨k, dp, hk, by simp [him, hdp], hmain⟩

/-- A connection that is closed along with others is not in use any more. -/
theorem isServing_closeLinks {j : LinkId} {k : LinkOutline} {ls : List LinkId}
    (hk : (o.closeLinks ls).link? j = some k) (hj : j ∈ ls) : k.stage.isServing = false := by
  rw [link?_closeLinks, if_pos hj] at hk
  obtain ⟨k₀, -, rfl⟩ := Option.map_eq_some_iff.1 hk
  cases hs : k₀.close.stage.isServing with
  | false => rfl
  | true =>
    have hfinal := k₀.isFinal_close
    rw [Stage.isFinal_of_isServing hs] at hfinal
    cases hfinal

/-- Connection `l` takes the place of another one, which is closed. -/
theorem Sound.replaceAuxiliary (h : o.Sound) {d : DatapathId} {m : LinkId} {dp : DatapathOutline}
    (hm : o.main? d = some m) (hdp : o.datapath? m = some dp) (auxiliary : UInt8) (l : LinkId) :
    ((o.closeLinks (dp.auxiliaries.find? auxiliary).toList).updateDatapath m
      (.attach auxiliary l)).Sound := by
  have hclosed := h.closeLinks (dp.auxiliaries.find? auxiliary).toList
  refine hclosed.updateDatapath (fun _ => ⟨rfl, rfl, rfl, rfl⟩) ?_ ?_
  · intro k d' ports hk hs
    rw [← main?_closeLinks] at hm
    exact absurd hs (hclosed.not_collecting hm hk)
  · intro j k dp' hk hserving hdp' hfind
    rw [datapath?_closeLinks] at hdp'
    obtain rfl : dp = dp' := Option.some.inj (hdp.symm.trans hdp')
    rw [DatapathOutline.attach, Keyed.find?_put]
    split
    · next heq =>
      -- the connection that is replaced does not serve any more
      have hmem : j ∈ (dp.auxiliaries.find? auxiliary).toList := by simp [← heq, hfind]
      rw [isServing_closeLinks hk hmem] at hserving
      cases hserving
    · exact hfind

/-- A connection can be attached to a registered datapath. -/
private theorem Sound.attach (h : o.Sound) {l m : LinkId} {k : LinkOutline} {d : DatapathId}
    {dp : DatapathOutline} (hk : o.link? l = some k) (hs : k.stage = .basicHandshake)
    (hd : k.datapath = some d) (haux : k.auxiliary ≠ 0) (hm : o.main? d = some m)
    (hdp : o.datapath? m = some dp) : (o.attach l m dp k.auxiliary).Sound := by
  refine (h.replaceAuxiliary hm hdp k.auxiliary l).updateLink ?_ ?_
  · intro k' hk'
    rw [link?_updateDatapath, link?_closeLinks, hk] at hk'
    split at hk'
    · -- the connection replaces itself
      obtain rfl : k.close = k' := Option.some.inj hk'
      refine linkSound_of_isFinal ((LinkOutline.isClosed_enter _ _).trans k.isClosed_close) ?_
      rw [LinkOutline.enter, if_pos (show (k.close.serve m).stage.isFinal = true from
        k.isFinal_close)]
      exact k.isFinal_close
    · -- it begins to serve the datapath, which lists it now
      obtain rfl : k = k' := Option.some.inj hk'
      have hopen : (k.serve m).stage.isFinal = false := by
        simp [LinkOutline.serve, hs, Stage.isFinal]
      have hgone := h.not_gone hk (by rw [hs]; rfl)
      rw [LinkOutline.enter_of_open hopen]
      refine ⟨by simp [Stage.isFinal], by simp [LinkOutline.serve, hgone], by simp, by simp, ?_, ?_⟩
      · intro _ ha
        exact absurd ha haux
      · intro _ _
        refine ⟨d, m, dp.attach k.auxiliary l, hd, by simp [hm], by simp [hdp], ?_, rfl⟩
        rw [DatapathOutline.attach, Keyed.find?_put]
        exact if_pos rfl
  · intro i k' dp' hi
    rw [main?_updateDatapath, main?_closeLinks] at hi
    exact absurd hi (h.not_main hk (LinkOutline.not_isSettled (.inr (.inr (.inl hs)))))

/-- A new connection has to do with nothing. -/
private theorem Sound.addLink (h : o.Sound) {l : LinkId} (hl : o.link? l = none) :
    (o.addLink l).Sound := by
  have hother {m : LinkId} (hm : m ≠ l) : (o.addLink l).link? m = o.link? m := if_neg hm
  refine ⟨fun {j k} hk => ?_, fun hdp => h.main_eq hdp, fun hdp => h.submitted hdp,
    fun {d m} hm => ?_⟩
  · by_cases hj : j = l
    · subst hj
      obtain rfl : LinkOutline.new = k := Option.some.inj ((if_pos rfl).symm.trans hk)
      exact linkSound_of_early ⟨rfl, rfl⟩ rfl (.inr (.inl rfl))
    · rw [hother hj] at hk
      exact (h.link hk).congr (fun _ hdp => ⟨_, hdp⟩) (fun _ _ hm => hm)
        fun _ _ _ hdp hfind => ⟨_, hdp, hfind⟩
  · obtain ⟨k, dp, hk, hdp, hmain⟩ := h.registered hm
    -- there was no such connection, so that nobody was registered with it
    have hml : m ≠ l := by
      rintro rfl
      rw [hl] at hk
      cases hk
    exact ⟨k, dp, (hother hml).trans hk, hdp, hmain⟩

/-- A connection without features moves on. -/
theorem Sound.updateEarly (h : o.Sound) {l : LinkId} {k : LinkOutline}
    {f : LinkOutline → LinkOutline} (hk : o.link? l = some k)
    (hs : k.stage = .connecting ∨ k.stage = .versionNegotiating ∨ k.stage = .basicHandshake)
    (hlink : k.isRevoked = false ∧ k.isOver = false → k.descriptions = {} →
      o.LinkSound l (f k)) :
    (o.updateLink l f).Sound := by
  have hsettled : ¬ k.IsSettled :=
    LinkOutline.not_isSettled (hs.imp id fun h => h.imp id .inl)
  have hfinal : k.stage.isFinal = false := by
    rcases hs with hs | hs | hs <;> rw [hs] <;> rfl
  refine h.updateLink (fun {k'} hk' => ?_) fun hm _ _ => absurd hm (h.not_main hk hsettled)
  obtain rfl : k = k' := Option.some.inj (hk.symm.trans hk')
  exact hlink (h.not_gone hk hfinal) ((h.link hk).unasked hs)

/-- What is learnt of a switch has nothing to do with the rest. -/
theorem Sound.learn (h : o.Sound) {l : LinkId} {k : LinkOutline} (hk : o.link? l = some k)
    (hs : k.stage = .extendedHandshake) (f : Descriptions → Descriptions) :
    (o.updateLink l (.learn f)).Sound := by
  refine h.updateLink (fun {k'} hk' => ?_) fun hm _ _ => absurd hs (h.not_collecting hm hk)
  obtain rfl : k = k' := Option.some.inj (hk.symm.trans hk')
  have hlink := h.link hk
  exact ⟨hlink.closed_of_final, hlink.final_of_gone, by simp [LinkOutline.learn, hs],
    hlink.collecting, hlink.serving_main, hlink.serving_auxiliary⟩

/-- Neither have the ports of a datapath. -/
theorem Sound.updatePorts (h : o.Sound) (m : LinkId) (f : PortTable → PortTable) :
    (o.updateDatapath m (.updatePorts f)).Sound :=
  h.updateDatapath (fun _ => ⟨rfl, rfl, rfl, rfl⟩) (fun {_ _ ports} _ _ => ⟨f ports, rfl⟩)
    fun _ _ _ hfind => hfind

/-- Every step without news keeps an outline sound. -/
theorem Sound.calm (h : o.Sound) {a : Option LinkId} (hstep : Calm a o o') : o'.Sound := by
  cases hstep with
  | accept hl => exact h.addLink hl
  | close l => exact h.close l
  | cancel l => exact h.cancel l
  | finish l => exact h.finish l
  | @greet _ l k hk hs v =>
    refine h.updateEarly hk (hs.imp id .inl) fun hgone hunasked => ?_
    have hfinal : { k with version := v }.stage.isFinal = false := by
      rcases hs with hs | hs <;> rw [hs] <;> rfl
    rw [LinkOutline.greet, LinkOutline.enter_of_open hfinal]
    exact linkSound_of_early hgone hunasked (.inr (.inr rfl))
  | bind hk hs d auxiliary =>
    exact h.updateEarly hk (.inr (.inr hs)) fun hgone hunasked =>
      linkSound_of_early hgone hunasked (.inr (.inr hs))
  | introduce hk hs d ports => exact h.introduce hk hs d ports
  | @collect _ l k d ports hk hs hd haux hdp =>
    refine h.updateEarly hk (.inr (.inr hs)) fun hgone _ => ?_
    rw [LinkOutline.enter_of_open (by rw [hs]; rfl)]
    exact ⟨by simp [LinkOutline.serve, Stage.isFinal],
      by simp [LinkOutline.serve, hgone], by simp [LinkOutline.serve],
      fun _ => ⟨haux, rfl, d, ports, hd, hdp⟩, nofun, nofun⟩
  | learn hk hs f => exact h.learn hk hs f
  | ports hk hs hm f => exact h.updatePorts _ f
  | attach hk hs hd haux hm hdp => exact h.attach hk hs hd haux hm hdp
  | @detach _ _ l m k d dp auxiliary hk hfinal hm hdp hl =>
    refine h.updateDatapath (fun _ => ⟨rfl, rfl, rfl, rfl⟩)
      (fun hk hs => absurd hs (h.not_collecting hm hk)) ?_
    -- the session of the connection that is taken out of the list has ended, so it does not serve
    intro j k' dp' hk' hserving hdp' hfind
    obtain rfl : dp = dp' := Option.some.inj (hdp.symm.trans hdp')
    rw [DatapathOutline.detach, Keyed.find?_erase, if_neg]
    · exact hfind
    · rintro heq
      rw [heq, hl] at hfind
      obtain rfl : l = j := Option.some.inj hfind
      obtain rfl : k = k' := Option.some.inj (hk.symm.trans hk')
      rw [Stage.isFinal_of_isServing hserving] at hfinal
      cases hfinal

/-! ## Eventful steps -/

/-- Telling does not matter. -/
theorem Sound.tell (h : o.Sound) (es : List Event) : (o.tell es).Sound where
  link hk := (h.link hk).congr (fun _ hdp => ⟨_, hdp⟩) (fun _ _ hm => hm)
    fun _ _ _ hdp hfind => ⟨_, hdp, hfind⟩
  main_eq := h.main_eq
  submitted := h.submitted
  registered := h.registered

/-- A datapath that was described is registered under an id that is free. -/
theorem Sound.register (h : o.Sound) {l : LinkId} {k : LinkOutline} {dp : DatapathOutline}
    (hk : o.link? l = some k) (hs : k.stage = .extendedHandshake) (hdp : o.datapath? l = some dp)
    (hfree : o.main? dp.id = none) : (o.register dp.id l).Sound := by
  obtain ⟨haux, hserves, d, ports, hd, hnew⟩ := (h.link hk).collecting hs
  obtain rfl : dp = .new d l ports := Option.some.inj (hdp.symm.trans hnew)
  show (o.register d l).Sound
  -- the id was free and `l` was not registered, so the others keep their ids
  have hid {i : DatapathId} {m : LinkId} (hm : o.main? i = some m) :
      i ≠ d ∧ m ≠ l ∧ (o.register d l).main? i = some m := by
    have hi : i ≠ d := by
      rintro rfl
      rw [show o.main? i = none from hfree] at hm
      cases hm
    refine ⟨hi, ?_, ?_⟩
    · rintro rfl
      exact h.not_collecting hm hk hs
    · simp [hi, hm]
  have hgone := h.not_gone hk (by rw [hs]; rfl)
  have hself : (o.register d l).link? l = some { k with stage := .postHandshake } := by
    rw [← LinkOutline.enter_of_open (by rw [hs]; rfl)]
    simp [hk]
  have hother {j : LinkId} (hj : j ≠ l) : (o.register d l).link? j = o.link? j ∧
      (o.register d l).datapath? j = o.datapath? j := by
    simp [hj]
  have hdpself :
      (o.register d l).datapath? l = some (DatapathOutline.new d l ports).announce := by
    simp [hdp]
  have hmain : (o.register d l).main? d = some l := by simp
  refine ⟨fun {j k'} hk' => ?_, fun {m dp'} hdp' => ?_, fun {m dp'} hdp' hsub => ?_,
    fun {i m} hm => ?_⟩
  · by_cases hj : j = l
    · -- `l` itself begins to serve, as the main connection of `d`
      subst hj
      obtain rfl := Option.some.inj (hself.symm.trans hk')
      exact ⟨by simp [Stage.isFinal], by simp [hgone], by simp, nofun,
        fun _ _ => ⟨hserves, d, hd, hmain⟩, fun _ hne => absurd haux hne⟩
    · rw [(hother hj).1] at hk'
      refine (h.link hk').congr (fun _ hdp => ⟨_, (hother hj).2.trans hdp⟩)
        (fun _ _ hm => (hid hm).2.2) ?_
      intro i m dp' _ _ hm hdp' hfind
      exact ⟨dp', ((hother (hid hm).2.1).2).trans hdp', hfind⟩
  · by_cases hm : m = l
    · subst hm
      rw [← Option.some.inj (hdpself.symm.trans hdp')]
      rfl
    · exact h.main_eq ((hother hm).2.symm.trans hdp')
  · by_cases hm : m = l
    · subst hm
      rw [← Option.some.inj (hdpself.symm.trans hdp')]
      exact hmain
    · exact (hid (h.submitted ((hother hm).2.symm.trans hdp') hsub)).2.2
  · by_cases hi : i = d
    · subst hi
      -- announced by this step, and its session has not ended
      obtain rfl : l = m := Option.some.inj (hmain.symm.trans hm)
      exact ⟨_, _, hself, hdpself, rfl, rfl, haux, hd, hgone.1, .inl rfl⟩
    · have hm' : o.main? i = some m := by
        rw [← hm]
        simp [hi]
      obtain ⟨k', dp', hk', hdp', hsound⟩ := h.registered hm'
      have hml := (hother (hid hm').2.1)
      exact ⟨k', dp', hml.1.trans hk', hml.2.trans hdp', hsound⟩

/-- A connection in use is the main one of the datapath that it serves, or attached to it. -/
theorem Sound.attached_of_serves (h : o.Sound) {l m : LinkId} {k : LinkOutline}
    {dp : DatapathOutline} (hk : o.link? l = some k) (hs : k.stage.isServing = true)
    (hm : k.serves = some m) (hdp : o.datapath? m = some dp) :
    l = m ∨ dp.auxiliaries.find? k.auxiliary = some l := by
  by_cases haux : k.auxiliary = 0
  · obtain ⟨hself, -⟩ := (h.link hk).serving_main hs haux
    exact .inl (Option.some.inj (hself.symm.trans hm))
  · obtain ⟨d, m', dp', -, -, hdp', hfind, hself⟩ := (h.link hk).serving_auxiliary hs haux
    obtain rfl : m' = m := Option.some.inj (hself.symm.trans hm)
    obtain rfl : dp = dp' := Option.some.inj (hdp.symm.trans hdp')
    exact .inr hfind

/-- When a datapath is gone, its main connection is closed. -/
theorem isFinal_unregister {d : DatapathId} {m : LinkId} {dp : DatapathOutline}
    {leave : LinkOutline → LinkOutline}
    (hleave : ∀ k, (leave k).isClosed = true ∧ (leave k).stage.isFinal = true) {k : LinkOutline}
    (hk : (o.unregister d m dp leave).link? m = some k) :
    k.isClosed = true ∧ k.stage.isFinal = true := by
  simp only [link?_unregister, ↓reduceIte] at hk
  split at hk
  · obtain ⟨k₀, -, rfl⟩ := Option.map_eq_some_iff.1 hk
    exact ⟨k₀.isClosed_close, k₀.isFinal_close⟩
  · obtain ⟨k₀, -, rfl⟩ := Option.map_eq_some_iff.1 hk
    exact hleave k₀

/-- A registered datapath goes. -/
theorem Sound.unregister (h : o.Sound) {d : DatapathId} {m : LinkId} {dp : DatapathOutline}
    {leave : LinkOutline → LinkOutline} (hm : o.main? d = some m) (hdp : o.datapath? m = some dp)
    (hleave : ∀ k, (leave k).isClosed = true ∧ (leave k).stage.isFinal = true) :
    (o.unregister d m dp leave).Sound := by
  -- first its auxiliary connections are closed, which is calm
  have hclosed := h.closeLinks dp.auxiliaries.values
  -- the others have other ids
  have hid {i : DatapathId} {m' : LinkId} (hm' : o.main? i = some m') (hne : m' ≠ m) : i ≠ d := by
    rintro rfl
    exact hne (Option.some.inj (hm'.symm.trans hm))
  have hother {j : LinkId} (hj : j ≠ m) : (o.unregister d m dp leave).link? j =
      (o.closeLinks dp.auxiliaries.values).link? j := by
    simp [hj]
  refine ⟨fun {j k} hk => ?_, fun {j dp'} hdp' => ?_, fun {j dp'} hdp' hsub => ?_,
    fun {i m'} hm' => ?_⟩
  · by_cases hj : j = m
    · subst hj
      obtain ⟨hkclosed, hfinal⟩ := isFinal_unregister hleave hk
      exact linkSound_of_isFinal hkclosed hfinal
    · rw [hother hj] at hk
      -- nobody but `m` itself still serves the datapath
      have hserves {m' : LinkId} (hs : k.stage.isServing = true) (hm' : k.serves = some m') :
          m' ≠ m := by
        rintro rfl
        rcases hclosed.attached_of_serves hk hs hm' (by simpa using hdp) with hjm | hfind
        · exact hj hjm
        · have hmem : j ∈ dp.auxiliaries.values :=
            List.mem_map.2 ⟨_, Keyed.mem_of_find? hfind, rfl⟩
          rw [isServing_closeLinks hk hmem] at hs
          cases hs
      refine (hclosed.link hk).congr (fun {i ports} _ hdp => ⟨ports, ?_⟩) ?_ ?_
      · simpa [hj] using hdp
      · intro i m' hserving hserves' hm'
        rw [main?_closeLinks] at hm'
        simp [hid hm' (hserves hserving hserves'), hm']
      · intro i m' dp' hserving hserves' hm' hdp' hfind
        refine ⟨dp', ?_, hfind⟩
        simpa [hserves hserving hserves'] using hdp'
  · rw [datapath?_unregister] at hdp'
    split at hdp'
    · obtain ⟨dp₀, hdp₀, rfl⟩ := Option.map_eq_some_iff.1 hdp'
      exact (h.main_eq hdp₀ : dp₀.main = j)
    · exact h.main_eq hdp'
  · rw [datapath?_unregister] at hdp'
    split at hdp'
    · obtain ⟨dp₀, -, rfl⟩ := Option.map_eq_some_iff.1 hdp'
      cases hsub
    · next hj =>
      have hreg := h.submitted hdp' hsub
      rw [main?_unregister, if_neg (hid hreg hj), hreg]
  · rw [main?_unregister] at hm'
    split at hm'
    · cases hm'
    · next hi =>
      rw [← o.main?_closeLinks i dp.auxiliaries.values] at hm'
      obtain ⟨k, dp', hk, hdp', hsound⟩ := hclosed.registered hm'
      rw [datapath?_closeLinks] at hdp'
      have hne : m' ≠ m := by
        rintro rfl
        obtain ⟨_, dp₀, -, hdp₀, hsound₀⟩ := h.registered hm
        obtain rfl : dp₀ = dp' := Option.some.inj (hdp₀.symm.trans hdp')
        exact hi (hsound.id_eq.symm.trans hsound₀.id_eq)
      exact ⟨k, dp', (hother hne).trans hk, by simp [hne, hdp'], hsound⟩

/-- A registered datapath becomes ready. -/
theorem Sound.getReady (h : o.Sound) {l : LinkId} {k : LinkOutline} {dp : DatapathOutline}
    (hk : o.link? l = some k) (hopen : k.isClosed = false) (hdp : o.datapath? l = some dp)
    (hsubmitted : dp.provisioning = .submitted) :
    ((o.updateDatapath l .getReady).updateLink l (.enter .ready)).Sound := by
  have hm := h.submitted hdp hsubmitted
  have hready : (o.updateDatapath l .getReady).Sound :=
    h.updateDatapath (fun _ => ⟨rfl, rfl, rfl, rfl⟩)
      (fun hk hs => absurd hs (h.not_collecting hm hk)) fun _ _ _ hfind => hfind
  obtain ⟨k', dp', hk', -, hmain⟩ := hready.registered hm
  obtain rfl : k = k' := Option.some.inj (hk.symm.trans hk')
  have hlink := hready.link hk'
  -- a main connection has been put to use or is closed, and this one is open
  have hnotfinal : k.stage.isFinal = false := by
    cases hfinal : k.stage.isFinal with
    | false => rfl
    | true =>
      rw [hlink.closed_of_final hfinal] at hopen
      cases hopen
  have hserving : k.stage.isServing = true := by
    rcases hmain.isSettled with hs | hf
    · exact hs
    · rw [hnotfinal] at hf; cases hf
  refine hready.updateLink (fun {k'} hk'' => ?_) fun {d k' dp'} _ _ hs => ?_
  · obtain rfl : k = k' := Option.some.inj (hk.symm.trans hk'')
    rw [LinkOutline.enter_of_open hnotfinal]
    exact ⟨by simp [Stage.isFinal], by simp [hready.not_gone hk' hnotfinal], by simp, nofun,
      fun _ => hlink.serving_main hserving, fun _ => hlink.serving_auxiliary hserving⟩
  · exact ⟨hs.id_eq, hs.isAnnounced, (k'.auxiliary_enter _).trans hs.auxiliary_eq,
      (k'.datapath_enter _).trans hs.datapath_eq, (k'.isRevoked_enter _).trans hs.not_revoked,
      k'.isSettled_enter (.inl rfl)⟩

/-- A connection whose switch is being described has nothing to do with a datapath that is
registered. -/
theorem Sound.apart (h : o.Sound) (ha : o.Attached) {l m : LinkId} {k : LinkOutline}
    {d : DatapathId} {dp : DatapathOutline} (hk : o.link? l = some k)
    (hs : k.stage = .extendedHandshake) (hm : o.main? d = some m) (hdp : o.datapath? m = some dp) :
    l ≠ m ∧ l ∉ dp.auxiliaries.values := by
  refine ⟨?_, fun hmem => ?_⟩
  · rintro rfl
    exact h.not_collecting hm hk hs
  · obtain ⟨k', hk', hsettled⟩ := ha.settled hdp hmem
    obtain rfl : k = k' := Option.some.inj (hk.symm.trans hk')
    exact LinkOutline.not_isSettled (.inr (.inr (.inr hs))) hsettled

/-- A datapath that goes takes nothing from a connection that is being described. -/
theorem Sound.unregister_apart (h : o.Sound) (ha : o.Attached) {l m : LinkId} {k : LinkOutline}
    {d : DatapathId} {old : DatapathOutline} (hk : o.link? l = some k)
    (hs : k.stage = .extendedHandshake) (hm : o.main? d = some m) (hold : o.datapath? m = some old)
    (leave : LinkOutline → LinkOutline) :
    (o.unregister d m old leave).link? l = o.link? l ∧
      (o.unregister d m old leave).datapath? l = o.datapath? l := by
  obtain ⟨hml, hout⟩ := h.apart ha hk hs hm hold
  constructor
  · simp [hml, hout]
  · simp [hml]

/-- A connection in use is one of a registered datapath. -/
theorem Sound.exists_main (h : o.Sound) {l : LinkId} {k : LinkOutline} (hk : o.link? l = some k)
    (hs : k.stage.isServing = true) :
    ∃ d m, o.main? d = some m ∧ k.serves = some m ∧
      (m = l ∨ k.auxiliary ≠ 0 ∧ k.datapath = some d) := by
  by_cases haux : k.auxiliary = 0
  · obtain ⟨hserves, d, -, hd⟩ := (h.link hk).serving_main hs haux
    exact ⟨d, l, hd, hserves, .inl rfl⟩
  · obtain ⟨d, m, -, hdatapath, hd, -, -, hserves⟩ := (h.link hk).serving_auxiliary hs haux
    exact ⟨d, m, hd, hserves, .inr ⟨haux, hdatapath⟩⟩

/-- What a connection in use serves is registered. -/
theorem Sound.main?_of_serves (h : o.Sound) {l m : LinkId} {k : LinkOutline}
    {dp : DatapathOutline} (hk : o.link? l = some k) (hs : k.stage.isServing = true)
    (hm : k.serves = some m) (hdp : o.datapath? m = some dp) : o.main? dp.id = some m := by
  obtain ⟨d, m', hd, hserves, -⟩ := h.exists_main hk hs
  obtain rfl : m' = m := Option.some.inj (hserves.symm.trans hm)
  obtain ⟨_, dp', -, hdp', hmain⟩ := h.registered hd
  obtain rfl : dp = dp' := Option.some.inj (hdp.symm.trans hdp')
  rw [hmain.id_eq]
  exact hd

/-- Every step with news keeps an outline sound. -/
theorem Sound.eventful (h : o.Sound) (ha : o.Attached) {l : LinkId} (hstep : Eventful l o o') :
    o'.Sound := by
  cases hstep with
  | connects hk hs hdp hfree he => exact (h.register hk hs hdp hfree).tell _
  | @replaces k dp old m gone e hk hs hdp hm hold hgone he =>
    -- the old datapath goes first, which frees the id and leaves the new one alone
    have hgo := h.unregister hm hold fun k => ⟨k.isClosed_revoke, k.isFinal_revoke⟩
    obtain ⟨hlink, hdatapath⟩ := h.unregister_apart ha hk hs hm hold .revoke
    refine (hgo.register (hlink.trans hk) hs (hdatapath.trans hdp) ?_).tell _
    simp
  | serves => exact h.tell _
  | readies hk hopen hdp hsubmitted hnew he => exact (h.getReady hk hopen hdp hsubmitted).tell _
  | disconnects hm hdp he =>
    exact (h.unregister hm hdp fun k => ⟨k.isClosed_close, k.isFinal_close⟩).tell _

/-! ## Connections that were put to use -/

/-- What holds of connections that were put to use, and of each for as long as there are any. -/
structure Lasting (P : LinkOutline → Prop) : Prop where
  isSettled : ∀ {k}, P k → k.IsSettled
  enter : ∀ {k} {s : Stage}, s.isServing = true ∨ s.isFinal = true → P k → P (k.enter s)
  close : ∀ {k}, P k → P k.close
  cancel : ∀ {k}, P k → P k.cancel
  finish : ∀ {k}, P k → P k.finish
  revoke : ∀ {k}, P k → P k.revoke

/-- A connection that was put to use stays so. -/
theorem lasting_isSettled : Lasting LinkOutline.IsSettled where
  isSettled h := h
  enter hs _ := LinkOutline.isSettled_enter _ hs
  close _ := LinkOutline.isSettled_close _
  cancel h := h
  finish _ := LinkOutline.isSettled_close _
  revoke _ := .inr (LinkOutline.isFinal_revoke _)

section Has

variable {P : LinkOutline → Prop} {l j : LinkId}

/-- What holds of a connection may be weakened. -/
theorem Has.imp {Q : LinkOutline → Prop} (h : o.Has P l) (hPQ : ∀ k, P k → Q k) : o.Has Q l :=
  Exists.imp (fun k hk => ⟨hk.1, hPQ k hk.2⟩) h

/-- A connection may change as long as what holds of it does not. -/
theorem Has.updateLink {f : LinkOutline → LinkOutline} (h : o.Has P l)
    (hf : ∀ {k}, o.link? j = some k → P k → P (f k)) : (o.updateLink j f).Has P l := by
  obtain ⟨k, hk, hP⟩ := h
  by_cases hj : l = j
  · subst hj
    exact ⟨f k, by simp [hk], hf hk hP⟩
  · exact ⟨k, by simp [hj, hk], hP⟩

/-- What lasts holds when connections are closed. -/
private theorem Has.close (h : o.Has P l) (hP : Lasting P) (j : LinkId) :
    (o.updateLink j .close).Has P l :=
  h.updateLink fun _ => hP.close

/-- So it does when several are. -/
private theorem Has.closeLinks (h : o.Has P l) (hP : Lasting P) (ls : List LinkId) :
    (o.closeLinks ls).Has P l := by
  induction ls generalizing o with
  | nil => exact h
  | cons j ls ih => exact ih (h.close hP j)

/-- Another connection, which was not put to use, moves on. -/
theorem Has.updateFresh {k : LinkOutline} {f : LinkOutline → LinkOutline} (h : o.Has P l)
    (hP : Lasting P) (hk : o.link? j = some k) (hs : ¬ k.IsSettled) :
    (o.updateLink j f).Has P l := by
  refine h.updateLink fun {k'} hk' hPk => ?_
  obtain rfl : k = k' := Option.some.inj (hk.symm.trans hk')
  exact absurd (hP.isSettled hPk) hs

/-- It holds when a datapath is registered. -/
theorem Has.register (h : o.Has P l) (hP : Lasting P) (d : DatapathId) (j : LinkId) :
    (o.register d j).Has P l :=
  h.updateLink fun _ => hP.enter (.inl rfl)

/-- It holds when one goes, as long as that does not matter to main connections. -/
theorem Has.unregister (h : o.Has P l) (hP : Lasting P) (d : DatapathId) (m : LinkId)
    (dp : DatapathOutline) {leave : LinkOutline → LinkOutline}
    (hleave : ∀ {k}, P k → P (leave k)) : (o.unregister d m dp leave).Has P l := by
  have hleft : ((o.setMain d none).updateLink m leave).Has P l := h.updateLink fun _ => hleave
  exact hleft.closeLinks hP dp.auxiliaries.values

/-- What lasts is kept by every step without news. -/
theorem Has.calm (h : o.Has P l) (hP : Lasting P) {a : Option LinkId} (hstep : Calm a o o') :
    o'.Has P l := by
  cases hstep with
  | @accept _ _ j hj =>
    obtain ⟨k, hk, hPk⟩ := h
    have hlj : l ≠ j := by
      rintro rfl
      rw [hj] at hk
      cases hk
    exact ⟨k, (if_neg hlj).trans hk, hPk⟩
  | close j => exact h.close hP j
  | cancel j => exact h.updateLink fun _ => hP.cancel
  | finish j => exact h.updateLink fun _ => hP.finish
  | greet hk hs => exact h.updateFresh hP hk (LinkOutline.not_isSettled (hs.imp id .inl))
  | bind hk hs | collect hk hs =>
    exact h.updateFresh hP hk (LinkOutline.not_isSettled (.inr (.inr (.inl hs))))
  | learn hk hs =>
    exact h.updateFresh hP hk (LinkOutline.not_isSettled (.inr (.inr (.inr hs))))
  | introduce | ports | detach => exact h
  | @attach _ j m k d dp hk hs =>
    -- connection `j` was not put to use before, so `l` is another one
    have hlj : l ≠ j := by
      rintro rfl
      obtain ⟨k', hk', hPk⟩ := h
      obtain rfl : k = k' := Option.some.inj (hk.symm.trans hk')
      exact LinkOutline.not_isSettled (.inr (.inr (.inl hs))) (hP.isSettled hPk)
    obtain ⟨k', hk', hPk⟩ := h.closeLinks hP (dp.auxiliaries.find? k.auxiliary).toList
    exact ⟨k', (if_neg hlj).trans hk', hPk⟩

/-- So it holds over every step that listeners hear of. -/
theorem Has.eventful (h : o.Has P l) (hP : Lasting P) (hstep : Eventful j o o') :
    o'.Has P l := by
  cases hstep with
  | @connects _ dp => exact h.register hP dp.id j
  | @replaces _ dp old m =>
    have hgone := h.unregister hP dp.id m old hP.revoke
    exact hgone.register hP dp.id j
  | serves => exact h
  | readies => exact h.updateLink fun _ => hP.enter (.inl rfl)
  | @disconnects d dp => exact h.unregister hP d j dp hP.close

/-- And over quiet steps. -/
theorem Has.calms (h : o.Has P l) (hP : Lasting P) {a : Option LinkId}
    (hsteps : Relation.ReflTransGen (Calm a) o o') : o'.Has P l :=
  hsteps.rec h fun _ hstep hpast => hpast.calm hP hstep

end Has

/-! ## Attached connections -/

/-- A datapath changes, and the connections attached to it are among those there were. -/
theorem Attached.updateDatapath (h : o.Attached) {m : LinkId}
    {f : DatapathOutline → DatapathOutline}
    (hf : ∀ {dp j}, j ∈ (f dp).auxiliaries.values → j ∈ dp.auxiliaries.values)
    {i j : LinkId} {dp : DatapathOutline} (hdp : (o.updateDatapath m f).datapath? i = some dp)
    (hj : j ∈ dp.auxiliaries.values) : o.IsPast j := by
  rw [datapath?_updateDatapath] at hdp
  split at hdp
  · obtain ⟨dp₀, hdp₀, rfl⟩ := Option.map_eq_some_iff.1 hdp
    exact h.settled hdp₀ (hf hj)
  · exact h.settled hdp hj

/-- Every step without news attaches connections only when they are put to use. -/
theorem Attached.calm (h : o.Attached) {a : Option LinkId} (hstep : Calm a o o') :
    o'.Attached := by
  have hkeep {j : LinkId} (hj : o.IsPast j) : o'.IsPast j := hj.calm lasting_isSettled hstep
  refine ⟨fun {i dp' j} hdp' hj => ?_⟩
  cases hstep with
  | accept | close | cancel | finish | greet | bind | collect | learn =>
    exact hkeep (h.settled hdp' hj)
  | ports _ _ _ f => exact hkeep (h.updateDatapath (f := .updatePorts f) id hdp' hj)
  | @introduce _ l k hk hs d ports =>
    by_cases hi : i = l
    · obtain rfl : DatapathOutline.new d l ports = dp' :=
        Option.some.inj ((if_pos hi).symm.trans hdp')
      cases hj
    · exact hkeep (h.settled ((if_neg hi).symm.trans hdp') hj)
  | @attach _ l m k d dp hk hs hd haux hm hdp =>
    -- only `l` is new among the connections of the datapath, and it is put to use by this step
    by_cases hjl : j = l
    · subst hjl
      have hself : ∃ k', (o.attach j m dp k.auxiliary).link? j = some k' ∧ k'.IsSettled := by
        simp only [Outline.attach, link?_updateLink, ↓reduceIte, link?_updateDatapath,
          link?_closeLinks, hk]
        split
        · exact ⟨_, rfl, LinkOutline.isSettled_enter _ (.inl rfl)⟩
        · exact ⟨_, rfl, LinkOutline.isSettled_enter _ (.inl rfl)⟩
      exact hself
    · simp only [Outline.attach, datapath?_updateLink, datapath?_updateDatapath,
        datapath?_closeLinks] at hdp'
      split at hdp'
      · obtain ⟨dp₀, hdp₀, rfl⟩ := Option.map_eq_some_iff.1 hdp'
        obtain ⟨e, he, rfl⟩ := List.mem_map.1 hj
        rcases Keyed.mem_put he with rfl | he
        · exact absurd rfl hjl
        · exact hkeep (h.settled hdp₀ (List.mem_map.2 ⟨e, he, rfl⟩))
      · exact hkeep (h.settled hdp' hj)
  | detach =>
    refine hkeep (h.updateDatapath (fun {dp₀ j'} hj' => ?_) hdp' hj)
    obtain ⟨e, he, rfl⟩ := List.mem_map.1 hj'
    exact List.mem_map.2 ⟨e, (List.mem_filter.1 he).1, rfl⟩

/-- A datapath that is registered keeps its auxiliary connections. -/
private theorem Attached.register (h : o.Attached) (d : DatapathId) (l : LinkId) :
    (o.register d l).Attached where
  settled hdp hj :=
    Has.register (h.updateDatapath (f := .announce) id hdp hj) lasting_isSettled d l

/-- One that goes has none any longer. -/
private theorem Attached.unregister (h : o.Attached) (d : DatapathId) (m : LinkId)
    (dp : DatapathOutline) {leave : LinkOutline → LinkOutline}
    (hleave : ∀ k, (leave k).stage.isFinal = true) :
    (o.unregister d m dp leave).Attached where
  settled {i dp' j} hdp hj := by
    have hdp' : (o.updateDatapath m .withdraw).datapath? i = some dp' := by
      rw [← hdp]
      simp
    exact Has.unregister (h.updateDatapath (f := .withdraw) nofun hdp' hj) lasting_isSettled d m dp
      fun {k} _ => .inr (hleave k)

/-- A step that listeners hear of attaches nobody. -/
theorem Attached.eventful (h : o.Attached) {l : LinkId} (hstep : Eventful l o o') :
    o'.Attached := by
  cases hstep with
  | @connects _ dp => exact ⟨(h.register dp.id l).settled⟩
  | @replaces _ dp old m =>
    have hgone := h.unregister dp.id m old LinkOutline.isFinal_revoke
    exact ⟨(hgone.register dp.id l).settled⟩
  | serves => exact ⟨h.settled⟩
  | readies =>
    refine ⟨fun {i dp j} hdp hj => ?_⟩
    have hpast := h.updateDatapath (f := .getReady) id hdp hj
    exact Has.updateLink hpast fun _ _ => LinkOutline.isSettled_enter _ (.inl rfl)
  | @disconnects d dp => exact ⟨(h.unregister d l dp LinkOutline.isFinal_close).settled⟩

/-! ## Any number of steps without news -/

section Calms

open Relation (ReflTransGen)

variable {a : Option LinkId}

/-- By induction, outlines stay sound over quiet steps. -/
theorem Sound.calms (h : o.Sound) (hsteps : ReflTransGen (Calm a) o o') : o'.Sound :=
  hsteps.rec h fun _ hstep hs => hs.calm hstep

/-- So do their attachments. -/
theorem Attached.calms (h : o.Attached) (hsteps : ReflTransGen (Calm a) o o') : o'.Attached :=
  hsteps.rec h fun _ hstep hs => hs.calm hstep

end Calms

end Southbound.Outline
