import Mathlib.Data.List.Induction
import Southbound.Proofs.Controller.Soundness

/-!
# What is told of a datapath

The events about one datapath id take turns: it is connected, may become ready, and is then
disconnected or revoked, and one that is revoked is connected again at once. `Phase` is where such a
history stands, and `Phase.after` follows it, as long as it is one. `Story.calm` and
`Story.eventful` say that the events of an outline are such histories and stand where the registry
says.
-/

namespace Southbound

/-! ## Histories -/

/-- What an event tells of a datapath. -/
def Event.turn? (d : DatapathId) : Event → Option DatapathEventKind
  | .datapath e => if e.datapath = d then some e.kind else none
  | .message _ => none

/-- What events tell of a datapath, in order. -/
def history (d : DatapathId) (es : List Event) : List DatapathEventKind :=
  es.filterMap (Event.turn? d)

/-- The event is about a datapath that comes or goes. -/
def DatapathEventKind.isBound : DatapathEventKind → Bool
  | connected | disconnected | revoked => true
  | _ => false

/-- Where the history of a datapath stands. -/
inductive Phase where
  | away
  /-- Another datapath with the same id is about to take over. -/
  | revoked
  | connected
  | ready
deriving DecidableEq

namespace Phase

/-- The turns that can be next. -/
def next : Phase → DatapathEventKind → Option Phase
  | away, .connected | revoked, .connected => some connected
  | connected, .ready => some ready
  | connected, .disconnected | ready, .disconnected => some away
  | connected, .revoked | ready, .revoked => some revoked
  | connected, .portAdded | connected, .portChanged | connected, .portRemoved => some connected
  | ready, .portAdded | ready, .portChanged | ready, .portRemoved => some ready
  | _, _ => none

/-- Where a history stands, if it is one. -/
def after (turns : List DatapathEventKind) : Option Phase := turns.foldlM next away

/-- A history can be followed in two parts. -/
private theorem after_append (turns more : List DatapathEventKind) :
    after (turns ++ more) = (after turns).bind fun p => more.foldlM next p :=
  List.foldlM_append

/-- The datapath can be used. -/
def isUp : Phase → Bool
  | connected | ready => true
  | _ => false

/-- Only coming and going decides whether a datapath can be used. -/
private theorem isUp_next {p q : Phase} {t : DatapathEventKind} (h : p.next t = some q) :
    q.isUp = if t.isBound then t == .connected else p.isUp := by
  cases p <;> cases t <;> cases h <;> rfl

/-- Once a datapath has arrived it is up until it goes. -/
theorem isUp_iff_getLast? {turns : List DatapathEventKind} {p : Phase}
    (h : after turns = some p) :
    p.isUp = true ↔ (turns.filter (·.isBound)).getLast? = some .connected := by
  induction turns using List.reverseRecOn generalizing p with
  | nil =>
    obtain rfl : away = p := Option.some.inj h
    simp [isUp]
  | append_singleton turns t ih =>
    rw [after_append, Option.bind_eq_some_iff] at h
    obtain ⟨q, hq, hnext⟩ := h
    have hturn : q.next t = some p := by simpa using hnext
    rw [isUp_next hturn, List.filter_append]
    -- the last turn decides, unless it is one that leaves a datapath as up as it was
    cases ht : t.isBound with
    | true => simp [ht]
    | false => simpa [ht] using ih hq

end Phase

/-- A revocation is followed at once by the arrival of the datapath that takes over. -/
def Paired : List Event → Prop
  | [] => True
  | .message _ :: es => Paired es
  | .datapath e :: es =>
    (e.kind = .revoked → ∃ f rest, es = .datapath f :: rest ∧ f.kind = .connected ∧
      f.datapath = e.datapath) ∧ Paired es

/-- Events that are paired can be put one behind the other. -/
private theorem paired_append {es fs : List Event} (hes : Paired es) (hfs : Paired fs) :
    Paired (es ++ fs) := by
  induction es with
  | nil => exact hfs
  | cons e es ih =>
    cases e with
    | message m => exact ih hes
    | datapath e =>
      refine ⟨fun hk => ?_, ih hes.2⟩
      obtain ⟨f, rest, rfl, hf⟩ := hes.1 hk
      exact ⟨f, rest ++ fs, rfl, hf⟩

private theorem history_append (d : DatapathId) (es fs : List Event) :
    history d (es ++ fs) = history d es ++ history d fs := List.filterMap_append

/-- An event that tells something of a datapath is a turn of that datapath. -/
private theorem Event.Tells.turn? {e : Event} {kind : DatapathEventKind} {d : DatapathId}
    (h : e.Tells kind d) (i : DatapathId) : e.turn? i = if d = i then some kind else none := by
  obtain ⟨t, rfl, rfl, rfl⟩ := h
  rfl

/-- What is passed on is no turn, or tells of ports of that datapath. -/
private theorem Event.Passes.turn? {e : Event} {d : DatapathId} (h : e.Passes d) (i : DatapathId) :
    e.turn? i = none ∨ (i = d ∧ (e.turn? i = some .portAdded ∨ e.turn? i = some .portChanged ∨
      e.turn? i = some .portRemoved)) := by
  cases h with
  | message => exact .inl rfl
  | @port t ht hk =>
    by_cases hd : i = d
    · refine .inr ⟨hd, ?_⟩
      rw [Event.turn?, if_pos (ht.trans hd.symm)]
      exact hk.imp (congrArg some) (Or.imp (congrArg some) (congrArg some))
    · exact .inl (if_neg fun heq => hd (heq.symm.trans ht))

namespace Outline

variable {o o' : Outline}

/-- Where the registry says that a datapath stands. -/
def phase (o : Outline) (d : DatapathId) : Phase :=
  match o.main? d with
  | none => .away
  | some m =>
    match o.datapath? m with
    | some dp => if dp.isReady then .ready else .connected
    | none => .connected

/-- What was told agrees with what is the case. -/
structure Story (o : Outline) : Prop where
  after : ∀ d, Phase.after (history d o.events) = some (o.phase d)
  paired : Paired o.events

/-- A registered datapath is connected, or ready if it is marked so. -/
private theorem phase_of_main {d : DatapathId} {m : LinkId} {dp : DatapathOutline}
    (hm : o.main? d = some m) (hdp : o.datapath? m = some dp) :
    o.phase d = if dp.isReady then .ready else .connected := by
  simp only [phase, hm, hdp]

/-- A datapath that is not registered is away. -/
theorem phase_of_none {d : DatapathId} (hm : o.main? d = none) : o.phase d = .away := by
  simp only [phase, hm]

/-- The phase of a datapath that a step leaves registered and as ready as it was. -/
theorem Sound.phase_congr (h : o.Sound) {d : DatapathId} (hmain : o'.main? d = o.main? d)
    (hready : ∀ {m dp}, o.main? d = some m → o.datapath? m = some dp →
      ∃ dp', o'.datapath? m = some dp' ∧ dp'.isReady = dp.isReady) : o'.phase d = o.phase d := by
  cases hm : o.main? d with
  | none => rw [phase_of_none hm, phase_of_none (hmain.trans hm)]
  | some m =>
    obtain ⟨k, dp, -, hdp, -⟩ := h.registered hm
    obtain ⟨dp', hdp', heq⟩ := hready hm hdp
    rw [phase_of_main hm hdp, phase_of_main (hmain.trans hm) hdp', heq]

/-- Changing a datapath leaves phases alone as long as it leaves readiness alone. -/
theorem Sound.phase_updateDatapath (h : o.Sound) (m : LinkId)
    {f : DatapathOutline → DatapathOutline} (hf : ∀ dp, (f dp).isReady = dp.isReady)
    (d : DatapathId) : (o.updateDatapath m f).phase d = o.phase d := by
  refine h.phase_congr rfl fun {i dp} _ hdp => ?_
  rw [datapath?_updateDatapath]
  split
  · rw [hdp]
    exact ⟨f dp, rfl, hf dp⟩
  · exact ⟨dp, hdp, rfl⟩

/-- A step without news changes neither who is registered nor who is ready. -/
theorem Sound.phase_calm (h : o.Sound) {a : Option LinkId} (hstep : Calm a o o') :
    o'.events = o.events ∧ o'.main? = o.main? ∧ ∀ d, o'.phase d = o.phase d := by
  cases hstep with
  | accept | close | cancel | finish | greet | bind | collect | learn =>
    exact ⟨rfl, rfl, fun _ => rfl⟩
  | ports => exact ⟨rfl, rfl, h.phase_updateDatapath _ fun _ => rfl⟩
  | @introduce _ l k hk hs i ports =>
    refine ⟨rfl, rfl, fun d => h.phase_congr rfl fun {m dp} hm hdp => ⟨dp, ?_, rfl⟩⟩
    -- the new datapath is nobody's yet, so no phase is read off it
    refine (if_neg ?_).trans hdp
    rintro rfl
    exact h.not_main hk (LinkOutline.not_isSettled (.inr (.inr (.inl hs)))) hm
  | @attach _ l m k i dp hk hs hd haux hm hdp =>
    have hclosed := h.closeLinks (dp.auxiliaries.find? k.auxiliary).toList
    refine ⟨events_closeLinks _ _, funext fun i => main?_closeLinks _ _ _, fun d => ?_⟩
    refine (hclosed.phase_updateDatapath m (f := .attach k.auxiliary l) (fun _ => rfl) d).trans ?_
    exact h.phase_congr (main?_closeLinks _ _ _) fun {m' dp'} _ hdp' =>
      ⟨dp', (datapath?_closeLinks _ _ _).trans hdp', rfl⟩
  | detach => exact ⟨rfl, rfl, h.phase_updateDatapath _ fun _ => rfl⟩

/-- A quiet step has nothing to tell. -/
theorem Story.calm (h : o.Story) (hsound : o.Sound) {a : Option LinkId} (hstep : Calm a o o') :
    o'.Story := by
  obtain ⟨hevents, -, hphase⟩ := hsound.phase_calm hstep
  refine ⟨fun d => ?_, ?_⟩
  · rw [hevents, hphase]
    exact h.after d
  · rw [hevents]
    exact h.paired

/-- The histories of datapaths go on with what is told, and the rest stays where it was. -/
theorem Story.tell (h : o.Story) {es : List Event} (hevents : o'.events = o.events ++ es)
    (hnext : ∀ d, (history d es).foldlM Phase.next (o.phase d) = some (o'.phase d))
    (hpaired : Paired es) : o'.Story := by
  refine ⟨fun d => ?_, ?_⟩
  · rw [hevents, history_append, Phase.after_append, h.after d]
    exact hnext d
  · rw [hevents]
    exact paired_append h.paired hpaired

/-- One event about one datapath. -/
theorem foldlM_next_single {e : Event} {kind : DatapathEventKind} {i : DatapathId}
    (he : e.Tells kind i) {p q : DatapathId → Phase} (hself : (p i).next kind = some (q i))
    (hother : ∀ {d}, d ≠ i → q d = p d) (d : DatapathId) :
    (history d [e]).foldlM Phase.next (p d) = some (q d) := by
  have hturn := he.turn? d
  by_cases hd : d = i
  · subst hd
    rw [if_pos rfl] at hturn
    simp [history, hturn, hself]
  · rw [if_neg (Ne.symm hd)] at hturn
    simp [history, hturn, hother hd]

/-- Messages and news of ports are told at any time while a datapath is registered. -/
theorem foldlM_next_passes {es : List Event} {i : DatapathId} (hes : ∀ e ∈ es, e.Passes i)
    {p : DatapathId → Phase} (hup : p i = .connected ∨ p i = .ready) (d : DatapathId) :
    (history d es).foldlM Phase.next (p d) = some (p d) := by
  induction es with
  | nil => rfl
  | cons e es ih =>
    obtain ⟨he, hrest⟩ := List.forall_mem_cons.1 hes
    have hfirst : (history d [e]).foldlM Phase.next (p d) = some (p d) := by
      rcases he.turn? d with hnone | ⟨rfl, hport⟩
      · simp [history, hnone]
      · -- connected or ready, a datapath stays so through news of its ports
        rcases hport with h | h | h <;> rcases hup with hp | hp <;>
          simp [history, h, hp, Phase.next]
    rw [show e :: es = [e] ++ es from rfl, history_append, List.foldlM_append, hfirst]
    exact ih hrest

/-- One event is paired unless it is a revocation. -/
private theorem paired_single {e : Event} {kind : DatapathEventKind} {d : DatapathId}
    (he : e.Tells kind d) (hk : kind ≠ .revoked) : Paired [e] := by
  obtain ⟨t, rfl, rfl, -⟩ := he
  exact ⟨fun h => absurd h hk, trivial⟩

/-- A revocation is paired with the arrival behind it. -/
private theorem paired_revoked {gone e : Event} {d : DatapathId} (hgone : gone.Tells .revoked d)
    (he : e.Tells .connected d) : Paired [gone, e] := by
  obtain ⟨t, rfl, ht, rfl⟩ := hgone
  obtain ⟨u, rfl, hu, heq⟩ := he
  refine ⟨fun _ => ⟨u, [], rfl, hu, heq⟩, fun h => ?_, trivial⟩
  rw [hu] at h
  cases h

/-- Nothing that is passed on is a revocation. -/
private theorem paired_passes {es : List Event} {d : DatapathId} (hes : ∀ e ∈ es, e.Passes d) :
    Paired es := by
  induction es with
  | nil => trivial
  | cons e es ih =>
    obtain ⟨he, hrest⟩ := List.forall_mem_cons.1 hes
    cases he with
    | message => exact ih hrest
    -- news of ports revoke nobody
    | port _ hk =>
      refine ⟨fun h => ?_, ih hrest⟩
      rw [h] at hk
      simp at hk

/-- A registered datapath is up. -/
theorem Sound.phase_registered (h : o.Sound) {d : DatapathId} {m : LinkId}
    (hm : o.main? d = some m) : o.phase d = .connected ∨ o.phase d = .ready := by
  obtain ⟨k, dp, -, hdp, -⟩ := h.registered hm
  rw [phase_of_main hm hdp]
  cases dp.isReady
  · exact .inl rfl
  · exact .inr rfl

/-- A datapath that is registered is connected. -/
private theorem Sound.phase_register (h : o.Sound) {l : LinkId} {k : LinkOutline}
    {dp : DatapathOutline} (hk : o.link? l = some k) (hs : k.stage = .extendedHandshake)
    (hdp : o.datapath? l = some dp) :
    (o.register dp.id l).phase dp.id = .connected ∧
      ∀ {d}, d ≠ dp.id → (o.register dp.id l).phase d = o.phase d := by
  obtain ⟨-, -, i, ports, -, hnew⟩ := (h.link hk).collecting hs
  obtain rfl : dp = .new i l ports := Option.some.inj (hdp.symm.trans hnew)
  have hself :
      (o.register i l).datapath? l = some (DatapathOutline.new i l ports).announce := by
    simp [hdp]
  have hmain : (o.register i l).main? i = some l := by simp
  refine ⟨phase_of_main hmain hself, fun {d} hd => ?_⟩
  refine h.phase_congr (if_neg hd) fun {m dp'} hm hdp' => ⟨dp', ?_, rfl⟩
  -- the others keep their connections, of which `l` is none
  have hml : m ≠ l := by
    rintro rfl
    exact h.not_collecting hm hk hs
  simp [hml, hdp']

/-- A datapath that is unregistered is away. -/
private theorem Sound.phase_unregister (h : o.Sound) (i : DatapathId) (m : LinkId)
    (dp : DatapathOutline) (leave : LinkOutline → LinkOutline) :
    (o.unregister i m dp leave).phase i = .away ∧
      ∀ {d}, d ≠ i → (o.unregister i m dp leave).phase d = o.phase d := by
  refine ⟨phase_of_none (by simp), fun {d} hd => ?_⟩
  refine h.phase_congr (by simp [hd]) fun {j dp'} _ hdp' => ?_
  by_cases hj : j = m
  · exact ⟨dp'.withdraw, by simp [hj ▸ hdp', hj], rfl⟩
  · exact ⟨dp', by simp [hj, hdp'], rfl⟩

/-- A datapath that gets ready is ready. -/
private theorem Sound.phase_getReady (h : o.Sound) {l : LinkId} {dp : DatapathOutline}
    (hm : o.main? dp.id = some l) (hdp : o.datapath? l = some dp) :
    ((o.updateDatapath l .getReady).updateLink l (.enter .ready)).phase dp.id = .ready ∧
      ∀ {d}, d ≠ dp.id →
        ((o.updateDatapath l .getReady).updateLink l (.enter .ready)).phase d = o.phase d := by
  constructor
  · have hself : ((o.updateDatapath l .getReady).updateLink l (.enter .ready)).phase dp.id =
        if dp.getReady.isReady then .ready else .connected := phase_of_main hm (by simp [hdp])
    exact hself
  · intro d hd
    refine h.phase_congr rfl fun {j dp'} hj hdp' => ⟨dp', ?_, rfl⟩
    -- a connection has one datapath, so that another one is that of another connection
    have hjl : j ≠ l := by
      rintro rfl
      obtain ⟨_, dp₀, -, hdp₀, hmain⟩ := h.registered hj
      obtain rfl : dp = dp₀ := Option.some.inj (hdp.symm.trans hdp₀)
      exact hd hmain.id_eq.symm
    simp [hjl, hdp']

/-- One datapath goes and another one comes in its place. -/
theorem foldlM_next_replaced {gone e : Event} {i : DatapathId} (hgone : gone.Tells .revoked i)
    (he : e.Tells .connected i) {p q : DatapathId → Phase} (hp : p i = .connected ∨ p i = .ready)
    (hq : q i = .connected) (hother : ∀ {d}, d ≠ i → q d = p d) (d : DatapathId) :
    (history d [gone, e]).foldlM Phase.next (p d) = some (q d) := by
  -- in between, the datapath is revoked
  let between (d : DatapathId) : Phase := if d = i then .revoked else p d
  have hi : between i = .revoked := if_pos rfl
  have hrevoked : (p i).next .revoked = some (between i) := by
    rw [hi]
    rcases hp with hp | hp <;> rw [hp] <;> rfl
  have hgoing := foldlM_next_single hgone hrevoked (fun {d} hd => if_neg hd) d
  have hconnected : (between i).next .connected = some (q i) := by
    rw [hi, hq]
    rfl
  rw [show [gone, e] = [gone] ++ [e] from rfl, history_append, List.foldlM_append, hgoing]
  exact foldlM_next_single he hconnected (fun {d} hd => (hother hd).trans (if_neg hd).symm) d

/-- What a step tells listeners is what happened to the registry. -/
theorem Story.eventful (h : o.Story) (hsound : o.Sound) (ha : o.Attached) {l : LinkId}
    (hstep : Eventful l o o') : o'.Story := by
  cases hstep with
  | @connects k dp e hk hs hdp hfree he =>
    obtain ⟨hself, hother⟩ := hsound.phase_register hk hs hdp
    refine h.tell rfl (foldlM_next_single he ?_ hother) (paired_single he (by decide))
    rw [phase_of_none hfree]
    exact congrArg some hself.symm
  | @replaces k dp old m gone e hk hs hdp hm hold hgone he =>
    have hgo := hsound.unregister hm hold fun k => ⟨k.isClosed_revoke, k.isFinal_revoke⟩
    obtain ⟨-, hleft⟩ := hsound.phase_unregister dp.id m old .revoke
    obtain ⟨hlink, hdatapath⟩ := hsound.unregister_apart ha hk hs hm hold .revoke
    obtain ⟨hself, hother⟩ := hgo.phase_register (hlink.trans hk) hs (hdatapath.trans hdp)
    -- the history of its id takes two turns, and the others none
    have hturns := foldlM_next_replaced hgone he (hsound.phase_registered hm) hself
      fun {d} hd => (hother hd).trans (hleft hd)
    exact h.tell (by simp [Outline.tell]) hturns (paired_revoked hgone he)
  | @serves k m dp es hk hs hm hdp hes =>
    have hup := hsound.phase_registered (hsound.main?_of_serves hk hs hm hdp)
    exact h.tell rfl (foldlM_next_passes hes hup) (paired_passes hes)
  | @readies k dp e hk hopen hdp hsubmitted hnew he =>
    have hm := hsound.submitted hdp hsubmitted
    obtain ⟨hself, hother⟩ := hsound.phase_getReady hm hdp
    refine h.tell rfl (foldlM_next_single he ?_ hother) (paired_single he (by decide))
    rw [phase_of_main hm hdp, hnew]
    exact congrArg some hself.symm
  | @disconnects d dp e hm hdp he =>
    obtain ⟨hself, hother⟩ := hsound.phase_unregister d l dp .close
    refine h.tell (by simp [Outline.tell]) (foldlM_next_single he ?_ hother)
      (paired_single he (by decide))
    have hup := hsound.phase_registered hm
    show (o.phase d).next .disconnected = some _
    rw [show (((o.unregister d l dp .close).tell [e]).phase d) = .away from hself]
    rcases hup with hp | hp <;> rw [hp] <;> rfl

end Outline

end Southbound
