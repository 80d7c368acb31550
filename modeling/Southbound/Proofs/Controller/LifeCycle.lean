import Southbound.Proofs.Controller.Tasks

/-!
# The life cycle of datapaths

An `Operation` is anything that happens to a controller as a whole, and `run` lets any number of
them happen in any order. Whatever they are, the events about a datapath tell of a well-nested life
that stands where the registry says.
-/

namespace Southbound

open Relation (ReflTransGen)

/-- All that is the case in every outline that can be reached. -/
structure Outline.Healthy (o : Outline) : Prop where
  sound : o.Sound
  attached : o.Attached
  story : o.Story

/-- Quiet steps keep an outline healthy, tell nothing and register nobody. -/
theorem Outline.Healthy.calm {a : Option LinkId} {o o' : Outline} (h : o.Healthy)
    (hsteps : ReflTransGen (Outline.Calm a) o o') :
    o'.Healthy ∧ o'.events = o.events ∧ o'.main? = o.main? := by
  induction hsteps with
  | refl => exact ⟨h, rfl, rfl⟩
  | tail _ hstep ih =>
    obtain ⟨hmid, hevents, hmain⟩ := ih
    obtain ⟨hevents', hmain', -⟩ := hmid.sound.phase_calm hstep
    exact ⟨⟨hmid.sound.calm hstep, hmid.attached.calm hstep, hmid.story.calm hmid.sound hstep⟩,
      hevents'.trans hevents, hmain'.trans hmain⟩

/-- So does a step that listeners hear of, whatever it tells. -/
theorem Outline.Healthy.eventful {o o' : Outline} {l : LinkId} (h : o.Healthy)
    (hstep : Outline.Eventful l o o') : o'.Healthy :=
  ⟨h.sound.eventful h.attached hstep, h.attached.eventful hstep,
    h.story.eventful h.sound h.attached hstep⟩

namespace Controller

variable {a : Option LinkId} {c c' : Controller} {l : LinkId}

inductive Operation where
  /-- A switch connects. -/
  | accept (remote : String)
  /-- A session takes in a frame. -/
  | frame (l : LinkId) (f : Frame)
  /-- A session ends for a reason of its own, such as the end of its stream. -/
  | close (l : LinkId)
  /-- The writer of a connection has run. -/
  | write (l : LinkId) (w : WriterRun)
  | checkIdle
  | pruneRequests
  /-- The installation of initial flows takes a step, or cannot take one. -/
  | provision (patient : Bool)
  | send (d : DatapathId) (auxiliary : UInt8) (m : Message)
  | sendRequest (d : DatapathId) (o : Outbound)
  | sendWithBarrier (d : DatapathId) (o : Outbound) (barrier : Option Xid)
  | sendWithCompanion (d : DatapathId) (o companion : Outbound)
  | sendBatch (d : DatapathId) (ms : List Message)
  | enablePort (d : DatapathId) (n : PortNumber) (enable : Bool)
  | addContributor (flows : DatapathInfo → Bool → List FlowMod)
  | removeContributor (id : ContributorId)
  /-- Time goes by. -/
  | wait (milliseconds : Nat)
  | shutDown
  /-- The last holder lets go of the controller. -/
  | abandon

def apply (c : Controller) : Operation → Controller
  | .accept remote =>
    match c.accept remote with
    | .ok (c', _) => c'
    | .error _ => c
  | .frame l f => (c.handleFrame l f).1
  | .close l => c.endSession l
  | .write l w => c.modifyConnection l fun k => k.afterWriting w
  | .checkIdle => c.checkIdle
  | .pruneRequests => c.pruneRequests
  | .provision patient =>
    match c.provision? patient with
    | some (_, c', _) => c'
    | none => c
  | .send d auxiliary m => (c.send d auxiliary m).1
  | .sendRequest d o => (c.sendRequest d o).1
  | .sendWithBarrier d o barrier => (c.sendWithBarrier d o barrier).1
  | .sendWithCompanion d o companion => (c.sendWithCompanion d o companion).1
  | .sendBatch d ms => (c.sendBatch d ms).1
  | .enablePort d n enable => (c.enablePort d n enable).1
  | .addContributor flows => (c.addContributor flows).1
  | .removeContributor id => (c.removeContributor id).1
  | .wait milliseconds => { c with clock := c.clock + milliseconds }
  | .shutDown => c.shutDown
  | .abandon => c.abandon

def run (c : Controller) (ops : List Operation) : Controller := ops.foldl apply c

/-- The last operation is done behind the others. -/
theorem run_concat (c : Controller) (ops : List Operation) (op : Operation) :
    c.run (ops ++ [op]) = (c.run ops).apply op := List.foldl_append

/-- The connection that an operation is one of, if it is one of a single connection. -/
def subject? (c : Controller) : Operation → Option LinkId
  | .frame l _ | .close l | .write l _ => some l
  | .provision patient => (c.provision? patient).map (·.1)
  | _ => none

/-- The connection whose session an operation is a step of. -/
def speaker? : Operation → Option LinkId
  | .frame l _ => some l
  | _ => none

/-! ## What one operation does -/

/-- An operation of a connection does what `Moves` allows, and any other makes no news. -/
theorem apply_spec (h : c.outline.Sound) (ha : c.outline.Attached) (op : Operation) :
    (∃ l, c.subject? op = some l ∧ Moves (speaker? op) l c (c.apply op)) ∨
      ReflTransGen (Outline.Calm (speaker? op)) c.outline (c.apply op).outline := by
  -- a frame, a closing and a step of provisioning may tell something, the rest is calm
  cases op with
  | accept remote =>
    right
    rw [apply]
    split
    · next haccept => exact .single (calm_accept haccept)
    · exact .refl
  | frame l f => exact .inl ⟨l, rfl, moves_handleFrame h ha l f⟩
  | close l => exact .inl ⟨l, rfl, moves_endSession h none l⟩
  | write l w => exact .inr (calm_afterWriting c l w)
  | checkIdle => exact .inr (calm_checkIdle c)
  | pruneRequests => exact .inr ((outline_pruneRequests c).symm ▸ .refl)
  | provision patient =>
    rw [apply, subject?]
    cases hstep : c.provision? patient with
    | none => exact .inr .refl
    | some step => exact .inl ⟨step.1, rfl, moves_provision? h hstep⟩
  | send d auxiliary m => exact .inr ((outline_send_plain c d auxiliary m).symm ▸ .refl)
  | sendRequest d o => exact .inr ((outline_sendRequest c d o).symm ▸ .refl)
  | sendWithBarrier d o barrier =>
    exact .inr ((outline_sendWithBarrier c d o barrier).symm ▸ .refl)
  | sendWithCompanion d o companion =>
    exact .inr ((outline_sendWithCompanion c d o companion).symm ▸ .refl)
  | sendBatch d ms => exact .inr ((outline_sendBatch c d ms).symm ▸ .refl)
  | enablePort d n enable => exact .inr ((outline_enablePort c d n enable).symm ▸ .refl)
  | addContributor flows => exact .inr .refl
  | removeContributor id => exact .inr .refl
  | wait milliseconds => exact .inr .refl
  | shutDown => exact .inr (calm_shutDown c)
  | abandon => exact .inr .refl

/-- The moves of a connection keep the outline healthy. -/
theorem Moves.healthy (h : c.outline.Healthy) (hmoves : Moves a l c c') : c'.outline.Healthy := by
  obtain ⟨o, hcalm, heq | hnews⟩ := hmoves
  · exact heq ▸ (h.calm hcalm).1
  · exact (h.calm hcalm).1.eventful hnews.eventful

/-- So does every operation. -/
theorem healthy_apply (h : c.outline.Healthy) (op : Operation) : (c.apply op).outline.Healthy := by
  rcases apply_spec h.sound h.attached op with ⟨l, -, hmoves⟩ | hcalm
  · exact hmoves.healthy h
  · exact (h.calm hcalm).1

/-- And by induction so does every run. -/
theorem healthy_run (h : c.outline.Healthy) (ops : List Operation) :
    (c.run ops).outline.Healthy := by
  induction ops generalizing c with
  | nil => exact h
  | cons op ops ih => exact ih (healthy_apply h op)

/-- What lasts on a connection lasts whatever is done. -/
theorem has_apply (h : c.outline.Healthy) {P : LinkOutline → Prop} (hP : Outline.Lasting P)
    (hl : c.outline.Has P l) (op : Operation) : (c.apply op).outline.Has P l := by
  rcases apply_spec h.sound h.attached op with ⟨m, -, hmoves⟩ | hcalm
  · exact hmoves.has hP hl
  · exact hl.calms hP hcalm

/-- What lasts is the case of a connection in every later state. -/
theorem has_run (h : c.outline.Healthy) {P : LinkOutline → Prop} (hP : Outline.Lasting P)
    (hl : c.outline.Has P l) (ops : List Operation) : (c.run ops).outline.Has P l := by
  induction ops generalizing c with
  | nil => exact hl
  | cons op ops ih => exact ih (healthy_apply h op) (has_apply h hP hl op)

/-- A controller that serves nobody yet. -/
theorem healthy_new (settings : Settings) (mastership : Mastership) :
    ({ settings, mastership } : Controller).outline.Healthy where
  sound := ⟨nofun, nofun, nofun, nofun⟩
  attached := ⟨nofun⟩
  story := ⟨fun _ => rfl, trivial⟩

/-! ## News -/

/-- The datapath `d` of one connection made room for that of another, which is told right behind
`gone`, and as it is now. -/
def Replaces (c c' : Controller) (d : DatapathId) (gone : Event) (es : List Event) : Prop :=
  ∃ old new t i, c.registry.find? d = some old ∧ c'.registry.find? d = some new ∧ new ≠ old ∧
    es = [gone, .datapath t] ∧ t.kind = .connected ∧ t.datapath = d ∧ t.info = some i ∧
    c'.info d = .ok i

/-- Connection `l` is one of a registered datapath: its main connection or an auxiliary one. -/
def Matters (c : Controller) (l : LinkId) : Prop :=
  ∃ d m, c.registry.find? d = some m ∧
    (m = l ∨ ∃ k, c.connection? l = some k ∧ k.auxiliary ≠ 0 ∧ k.datapath = some d)

/-- An event tells one thing of one datapath. -/
private theorem tells_unique {e : Event} {kind kind' : DatapathEventKind} {d d' : DatapathId}
    (h : e.Tells kind d) (h' : e.Tells kind' d') : kind = kind' ∧ d = d' := by
  obtain ⟨t, rfl, rfl, rfl⟩ := h
  obtain ⟨t', heq, rfl, rfl⟩ := h'
  obtain rfl := Event.datapath.inj heq
  exact ⟨rfl, rfl⟩

/-- Nothing that passes tells of a revocation. -/
theorem not_tells_revoked {es : List Event} {i : DatapathId} (hes : ∀ e ∈ es, e.Passes i) :
    ∀ gone ∈ es, ∀ d, ¬ gone.Tells .revoked d := by
  rintro gone hmem d ⟨t, rfl, hk, -⟩
  cases hes _ hmem with
  | port _ hport =>
    rw [hk] at hport
    simp at hport

/-- An event that tells of something else than a revocation. -/
theorem not_tells_revoked_single {e : Event} {kind : DatapathEventKind} {i : DatapathId}
    (he : e.Tells kind i) (hk : kind ≠ .revoked) : ∀ gone ∈ [e], ∀ d, ¬ gone.Tells .revoked d := by
  intro gone hmem d hgone
  rw [List.mem_singleton.1 hmem] at hgone
  exact hk (tells_unique he hgone).1

/-- News are about datapaths that their connection has to do with, and a revocation comes with the
arrival of another datapath. -/
theorem News.spec {o : Outline} (h : o.Healthy) (hmain : o.main? = c.outline.main?)
    (hnews : News l o c') : ∃ es, c'.events = o.events ++ es ∧ (c.Matters l ∨ c'.Matters l) ∧
      ∀ gone ∈ es, ∀ d, gone.Tells .revoked d → Replaces c c' d gone es := by
  obtain ⟨hstep, hintroduces⟩ := hnews
  -- the outline before the news has the registry of `c`, so what it says of main connections is
  -- known
  have hbefore {d : DatapathId} {m : LinkId} (hm : o.main? d = some m) :
      c.registry.find? d = some m := by
    rw [hmain] at hm
    exact hm
  have hregistry (d : DatapathId) : c'.registry.find? d = c'.outline.main? d := rfl
  have hevents : c'.events = c'.outline.events := rfl
  generalize hout : c'.outline = o' at hstep hregistry hevents
  cases hstep with
  | @connects k dp e hk hs hdp hfree he =>
    refine ⟨[e], hevents, .inr ⟨dp.id, l, (hregistry _).trans (by simp), .inl rfl⟩, ?_⟩
    intro gone hmem d hgone
    exact absurd hgone (not_tells_revoked_single he (by decide) gone hmem d)
  | @replaces k dp old m gone e hk hs hdp hm hold hgone he =>
    have hevents' : c'.events = o.events ++ [gone, e] := by
      rw [hevents]
      simp [Outline.tell]
    have hnew : c'.registry.find? dp.id = some l := by
      rw [hregistry]
      simp
    refine ⟨[gone, e], hevents', .inr ⟨dp.id, l, hnew, .inl rfl⟩, fun gone' hmem d hgone' => ?_⟩
    have hlm := (h.sound.apart h.attached hk hs hm hold).1
    have hfirst : gone' = gone ∧ d = dp.id := by
      rcases List.mem_cons.1 hmem with rfl | hmem
      · exact ⟨rfl, (tells_unique hgone' hgone).2⟩
      · exact absurd hgone' (not_tells_revoked_single he (by decide) gone' hmem d)
    obtain ⟨rfl, rfl⟩ := hfirst
    obtain ⟨t, rfl, ht, hid⟩ := he
    have hlast : c'.events.getLast? = some (.datapath t) := by simp [hevents']
    obtain ⟨i, hi, hinfo⟩ := hintroduces t hlast ht
    exact ⟨m, l, t, i, hbefore hm, hnew, hlm, rfl, ht, hid, hi, hid ▸ hinfo⟩
  | @serves k m dp es hk hs hm hdp hes =>
    refine ⟨es, hevents, ?_, fun gone hmem d hgone =>
      absurd hgone (not_tells_revoked hes gone hmem d)⟩
    obtain ⟨d, j, hj, -, rfl | ⟨haux, hd⟩⟩ := h.sound.exists_main hk hs
    · exact .inl ⟨d, j, hbefore hj, .inl rfl⟩
    · have hlink : c'.outline.link? l = some k := hout ▸ hk
      obtain ⟨j', hj', rfl⟩ := Option.map_eq_some_iff.1 hlink
      have hconnection : c'.connection? l = some j'.connection :=
        congrArg (Option.map fun j : Link => j.connection) hj'
      exact .inr ⟨d, j, (hregistry d).trans hj, .inr ⟨j'.connection, hconnection, haux, hd⟩⟩
  | @readies k dp e hk hopen hdp hsubmitted hnew he =>
    exact ⟨[e], hevents, .inl ⟨dp.id, l, hbefore (h.sound.submitted hdp hsubmitted), .inl rfl⟩,
      fun gone hmem d hgone => absurd hgone (not_tells_revoked_single he (by decide) gone hmem d)⟩
  | @disconnects d dp e hm hdp he =>
    refine ⟨[e], ?_, .inl ⟨d, l, hbefore hm, .inl rfl⟩, fun gone hmem d hgone =>
      absurd hgone (not_tells_revoked_single he (by decide) gone hmem d)⟩
    rw [hevents]
    simp [Outline.tell]

/-- What an operation adds to what was told. -/
theorem events_apply (h : c.outline.Healthy) (op : Operation) :
    ∃ es, (c.apply op).events = c.events ++ es ∧
      (es ≠ [] → ∃ l, c.subject? op = some l ∧ (c.Matters l ∨ (c.apply op).Matters l)) ∧
      ∀ gone ∈ es, ∀ d, gone.Tells .revoked d → Replaces c (c.apply op) d gone es := by
  -- quiet steps and at most one piece of news at their end
  rcases apply_spec h.sound h.attached op with ⟨l, hl, o, hcalm, heq | hnews⟩ | hcalm
  · obtain ⟨-, hevents, -⟩ := h.calm hcalm
    have hsame : (c.apply op).events = c.events := (congrArg (·.events) heq).trans hevents
    exact ⟨[], by simp [hsame], fun hne => absurd rfl hne, List.forall_mem_nil _⟩
  · obtain ⟨hhealthy, hevents, hmain⟩ := h.calm hcalm
    obtain ⟨es, hadded, hmatters, hreplaces⟩ := hnews.spec hhealthy hmain
    exact ⟨es, hadded.trans (congrArg (· ++ es) hevents), fun _ => ⟨l, hl, hmatters⟩, hreplaces⟩
  · obtain ⟨-, hevents, -⟩ := h.calm hcalm
    have hsame : (c.apply op).events = c.events := hevents
    exact ⟨[], by simp [hsame], fun hne => absurd rfl hne, List.forall_mem_nil _⟩

/-! ## The life cycle -/

/-- In every run of a controller, the events about a datapath are connections, each with at most one
time of becoming ready and exactly one end, and with news of ports in between; who was revoked is
replaced at once; a datapath is registered if and only if the last that was told of its coming and
going is that it came; and only a connection with a registered datapath makes news. -/
theorem lifeCycle_run (settings : Settings) (mastership : Mastership) (ops : List Operation) :
    let c := run { settings, mastership } ops
    (∀ d, ∃ p, Phase.after (history d c.events) = some p ∧ p ≠ .revoked) ∧
    Paired c.events ∧
    (∀ d, c.registry.has d = true ↔
      ((history d c.events).filter (·.isBound)).getLast? = some .connected) ∧
    ∀ op, ∃ es, (c.apply op).events = c.events ++ es ∧
      (es ≠ [] → ∃ l, c.subject? op = some l ∧ (c.Matters l ∨ (c.apply op).Matters l)) ∧
      ∀ gone ∈ es, ∀ d, gone.Tells .revoked d → Replaces c (c.apply op) d gone es := by
  have h := healthy_run (healthy_new settings mastership) ops
  -- the phase of an id is read off the registry and the datapath found there
  have hphase (d : DatapathId) : (run { settings, mastership } ops).outline.phase d ≠ .revoked ∧
      ((run { settings, mastership } ops).registry.has d = true ↔
        ((run { settings, mastership } ops).outline.phase d).isUp = true) := by
    cases hm : (run { settings, mastership } ops).registry.find? d with
    | none =>
      rw [Outline.phase_of_none hm]
      simp [Keyed.has, hm, Phase.isUp]
    | some m =>
      rcases h.sound.phase_registered hm with hp | hp <;> rw [hp] <;>
        simp [Keyed.has, hm, Phase.isUp]
  exact ⟨fun d => ⟨_, h.story.after d, (hphase d).1⟩, h.story.paired,
    fun d => (hphase d).2.trans (Phase.isUp_iff_getLast? (h.story.after d)),
    fun op => events_apply h op⟩

end Controller

end Southbound
