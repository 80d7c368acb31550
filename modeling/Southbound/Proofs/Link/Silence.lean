import Southbound.Controller.Sweep

/-!
# How long a silent peer stays connected

A liveness check acts only when it is made, and checks are made at sweeps that may be as far apart
as the sweep interval. So every wait, the one for the first probe and the one after each probe, can
last almost an interval longer than it has to.

* `givenUp_of_sweeps`  `n` probes make `n + 1` waits, which gives `Settings.slowestTeardown`
* `not_givenUp_reluctant`  and sweeps that always come as late as they may take that long

Therefore the advertised deadline, which has room for one interval, is kept only by a configuration
in which the other waits have nothing to lose (`zombieDeadline_kept_iff`).
-/

namespace Southbound

/-- Sweeps at increasing times, never further apart than the interval, the first at most an interval
after the time that counts. -/
structure Sweeps (interval since : Nat) (times : Nat → Nat) : Prop where
  start_le : times 0 ≤ since + interval
  lt_succ : ∀ n, times n < times (n + 1)
  succ_le : ∀ n, times (n + 1) ≤ times n + interval

/-- Later sweeps have later times. -/
private theorem Sweeps.lt_of_lt {interval since : Nat} {times : Nat → Nat}
    (h : Sweeps interval since times) {n m : Nat} (hnm : n < m) : times n < times m := by
  induction hnm with
  | refl => exact h.lt_succ n
  | step _ ih => exact Nat.lt_trans ih (h.lt_succ _)

/-- So no sweep comes before an earlier one. -/
private theorem Sweeps.le_of_le {interval since : Nat} {times : Nat → Nat}
    (h : Sweeps interval since times) {n m : Nat} (hnm : n ≤ m) : times n ≤ times m := by
  rcases Nat.eq_or_lt_of_le hnm with rfl | hlt
  · exact Nat.le_refl _
  · exact Nat.le_of_lt (h.lt_of_lt hlt)

namespace Liveness

variable (limits : LivenessLimits) (l : Liveness)

/-! ## One check -/

/-- The peer has been silent for long enough, and the last probe has had its time. -/
def IsRipe (now : Nat) : Prop := limits.maxIdle ≤ now - l.lastSeen ∧ ∀ e ∈ l.nextEcho, e ≤ now

/-- The state after one more probe. -/
def probed (now : Nat) : Liveness :=
  { l with attempts := l.attempts + 1, nextEcho := some (now + limits.echoInterval) }

variable {limits l} {now : Nat}

/-- A peer is ripe when a check would not leave it alone. -/
private theorem isRipe_iff : l.IsRipe limits now ↔
    ¬ (now - l.lastSeen < limits.maxIdle ∨ l.isEarly now = true) := by
  unfold IsRipe isEarly
  cases l.nextEcho <;> simp

/-- Nothing is done before the time. -/
private theorem check_of_not_isRipe (h : ¬ l.IsRipe limits now) :
    l.check now limits = (l, .alive) := by
  rw [isRipe_iff, Classical.not_not] at h
  rw [check, if_pos h]

/-- A peer that is ripe is probed while there are attempts left. -/
theorem check_of_lt (h : l.IsRipe limits now) (hlt : l.attempts < limits.maxAttempts) :
    l.check now limits = (l.probed limits now, .sendEcho) := by
  rw [check, if_neg (isRipe_iff.1 h), if_pos hlt]
  rfl

/-- After that it is given up. -/
private theorem check_of_le (h : l.IsRipe limits now) (hle : limits.maxAttempts ≤ l.attempts) :
    l.check now limits = (l, .disconnect) := by
  rw [check, if_neg (isRipe_iff.1 h), if_neg (Nat.not_lt.2 hle)]

/-- Those are the three things that a check can come to. -/
theorem check_cases (l : Liveness) (limits : LivenessLimits) (now : Nat) :
    ¬ l.IsRipe limits now ∧ l.check now limits = (l, .alive) ∨
      l.IsRipe limits now ∧ l.attempts < limits.maxAttempts ∧
        l.check now limits = (l.probed limits now, .sendEcho) ∨
      l.IsRipe limits now ∧ limits.maxAttempts ≤ l.attempts ∧
        l.check now limits = (l, .disconnect) := by
  by_cases hripe : l.IsRipe limits now
  · rcases Nat.lt_or_ge l.attempts limits.maxAttempts with hlt | hle
    · exact .inr (.inl ⟨hripe, hlt, check_of_lt hripe hlt⟩)
    · exact .inr (.inr ⟨hripe, hle, check_of_le hripe hle⟩)
  · exact .inl ⟨hripe, check_of_not_isRipe hripe⟩

/-! ## Sweeps without a sign of life -/

variable (limits l) (times : Nat → Nat)

/-- The state before the check at sweep `n`. -/
def checked : Nat → Liveness
  | 0 => l
  | n + 1 => ((checked n).check (times n) limits).1

/-- What the check at sweep `n` says. -/
def answer (n : Nat) : LivenessAction := ((checked limits l times n).check (times n) limits).2

/-- The check of some sweep up to the deadline gives the peer up. -/
def GivenUpBy (deadline : Nat) : Prop :=
  ∃ n, times n ≤ deadline ∧ answer limits l times n = .disconnect

variable {limits l times}

/-- Only a ripe peer without attempts left is given up. -/
private theorem of_answer_eq_disconnect {n : Nat} (h : answer limits l times n = .disconnect) :
    (checked limits l times n).IsRipe limits (times n) ∧
      limits.maxAttempts ≤ (checked limits l times n).attempts := by
  rcases check_cases (checked limits l times n) limits (times n) with
    ⟨-, heq⟩ | ⟨-, -, heq⟩ | ⟨hripe, hle, -⟩
  · rw [answer, heq] at h
    cases h
  · rw [answer, heq] at h
    cases h
  · exact ⟨hripe, hle⟩

end Liveness

/-- How long one wait can last beyond the time at which a sweep would find something to do. -/
def Settings.lag (s : Settings) : Nat := s.idleCheck - 1

/-- The time from one probe to the next action, when sweeps come as late as they may. Even without
an echo interval there is only one action at a sweep. -/
def Settings.slowestWait (s : Settings) : Nat := max s.echoInterval 1 + s.lag

/-- How long a silent peer stays connected when sweeps come as late as they may. -/
def Settings.slowestTeardown (s : Settings) : Nat :=
  max s.maxIdle 1 + s.lag + s.maxEchoAttempts * s.slowestWait

/-- The limits that a controller with these settings checks connections by. -/
def Settings.livenessLimits (s : Settings) : LivenessLimits :=
  ({ settings := s } : Controller).livenessLimits

namespace Liveness

variable {s : Settings} {since : Nat} {times : Nat → Nat} {l : Liveness}

section Upper

/-- From sweep `n` on, in state `l`, something is done at every sweep from `ripe` on. -/
structure Awaits (s : Settings) (times : Nat → Nat) (l : Liveness) (ripe n : Nat) : Prop where
  isRipe : ∀ t, ripe ≤ t → l.IsRipe s.livenessLimits t
  soon : times n ≤ ripe + s.lag

/-- The next sweep at which something is done is late by the lag at most. -/
theorem Awaits.exists_isRipe (hs : Sweeps s.idleCheck since times) {ripe n : Nat}
    {l₀ : Liveness} (h : Awaits s times (checked s.livenessLimits l₀ times n) ripe n) :
    ∃ m, times m ≤ ripe + s.lag ∧
      checked s.livenessLimits l₀ times m = checked s.livenessLimits l₀ times n ∧
      (checked s.livenessLimits l₀ times m).IsRipe s.livenessLimits (times m) := by
  -- by induction on the time that is left until `ripe`
  generalize hleft : ripe - times n = left
  induction left using Nat.strongRecOn generalizing n with
  | ind left ih =>
    by_cases hripe : (checked s.livenessLimits l₀ times n).IsRipe s.livenessLimits (times n)
    · exact ⟨n, h.soon, rfl, hripe⟩
    · have hearly : times n < ripe := Nat.lt_of_not_le fun hle => hripe (h.isRipe _ hle)
      have hsame : checked s.livenessLimits l₀ times (n + 1) =
          checked s.livenessLimits l₀ times n := by
        rw [checked, check_of_not_isRipe hripe]
      have hnext := hs.lt_succ n
      have hsoon : times (n + 1) ≤ ripe + s.lag := by
        have := hs.succ_le n
        unfold Settings.lag
        omega
      obtain ⟨m, hm, hstate, hact⟩ := ih (ripe - times (n + 1)) (by omega)
        ⟨hsame ▸ h.isRipe, hsoon⟩ rfl
      exact ⟨m, hm, hstate.trans hsame, hact⟩

/-- After a probe the next action is due within the slowest wait. -/
theorem Awaits.probed (hs : Sweeps s.idleCheck since times) {m : Nat}
    (hripe : l.IsRipe s.livenessLimits (times m)) :
    Awaits s times (l.probed s.livenessLimits (times m)) (times m + max s.echoInterval 1)
      (m + 1) where
  isRipe t ht := by
    refine ⟨?_, ?_⟩
    · have := hripe.1
      simp only [Liveness.probed]
      omega
    · intro e he
      obtain rfl := Option.some.inj he
      simp only [Settings.livenessLimits, Controller.livenessLimits]
      omega
  soon := by
    -- the next sweep comes at most one lag after the echo is due
    have := hs.succ_le m
    unfold Settings.lag
    omega

/-- Whatever probes are left, each takes at most the slowest wait. -/
theorem Awaits.givenUpBy (hs : Sweeps s.idleCheck since times) {ripe n left : Nat}
    (h : Awaits s times (checked s.livenessLimits l times n) ripe n)
    (hleft : s.maxEchoAttempts ≤ (checked s.livenessLimits l times n).attempts + left) :
    GivenUpBy s.livenessLimits l times (ripe + s.lag + left * s.slowestWait) := by
  -- each further attempt costs at most one slowest wait, so the induction is on the attempts left
  induction left generalizing ripe n with
  | zero =>
    obtain ⟨m, hm, hstate, hripe⟩ := h.exists_isRipe hs
    refine ⟨m, by omega, ?_⟩
    rw [answer, check_of_le hripe (hstate ▸ hleft)]
  | succ left ih =>
    obtain ⟨m, hm, hstate, hripe⟩ := h.exists_isRipe hs
    rw [← hstate] at hleft
    by_cases hlt : (checked s.livenessLimits l times m).attempts < s.maxEchoAttempts
    · have hnext : checked s.livenessLimits l times (m + 1) =
          (checked s.livenessLimits l times m).probed s.livenessLimits (times m) := by
        rw [checked, check_of_lt hripe hlt]
      obtain ⟨j, hj, hanswer⟩ := ih (hnext ▸ Awaits.probed hs hripe) (by
        rw [hnext]
        simp only [Liveness.probed]
        omega)
      refine ⟨j, ?_, hanswer⟩
      have hwait : times m + max s.echoInterval 1 + s.lag ≤ ripe + s.lag + s.slowestWait := by
        unfold Settings.slowestWait
        omega
      calc times j ≤ times m + max s.echoInterval 1 + s.lag + left * s.slowestWait := hj
        _ ≤ ripe + s.lag + s.slowestWait + left * s.slowestWait := by omega
        _ = ripe + s.lag + (left + 1) * s.slowestWait := by rw [Nat.succ_mul]; omega
    · refine ⟨m, by omega, ?_⟩
      rw [answer, check_of_le hripe (Nat.not_lt.1 hlt)]

/-- A peer that stays silent is given up within the time of the slowest teardown. -/
theorem givenUp_of_sweeps (hs : Sweeps s.idleCheck since times) :
    GivenUpBy s.livenessLimits (new since) times (since + s.slowestTeardown) := by
  -- the first probe is due when the link has been idle long enough
  have hstart : Awaits s times (new since) (since + max s.maxIdle 1) 0 := by
    refine ⟨fun t ht => ⟨?_, nofun⟩, ?_⟩
    · simp only [Settings.livenessLimits, Controller.livenessLimits, new]
      omega
    · have := hs.start_le
      unfold Settings.lag
      omega
  have hsum : since + s.slowestTeardown =
      since + max s.maxIdle 1 + s.lag + s.maxEchoAttempts * s.slowestWait := by
    unfold Settings.slowestTeardown
    omega
  rw [hsum]
  exact Awaits.givenUpBy hs (n := 0) hstart (Nat.le_add_left _ _)

end Upper

/-! ## Sweeps that come late -/

section Reluctant

/-- The time that wait number `q` would end at, if the waits before it were as long as can be. -/
def dueAt (s : Settings) (since q : Nat) : Nat :=
  since + max s.maxIdle 1 + q * (s.slowestWait)

/-- The first time from `t` on at which a late sweep comes: none comes within the lag after the end
of a wait. -/
def postponed (s : Settings) (since t : Nat) : Nat :=
  let late := (t - dueAt s since 0) % s.slowestWait
  if dueAt s since 0 ≤ t ∧ late < s.lag then t + (s.lag - late) else t

/-- Sweeps that follow each other closely, but not when a wait has ended. -/
def reluctant (s : Settings) (since : Nat) : Nat → Nat
  | 0 => postponed s since (since + 1)
  | n + 1 => postponed s since (reluctant s since n + 1)

/-- No sweep is brought forward. -/
private theorem le_postponed (s : Settings) (since t : Nat) : t ≤ postponed s since t := by
  unfold postponed
  dsimp only
  split <;> omega

/-- None is put off by more than the lag. -/
private theorem postponed_le (s : Settings) (since t : Nat) : postponed s since t ≤ t + s.lag := by
  unfold postponed
  dsimp only
  split <;> omega

/-- So the reluctant sweeps are such as there may be. -/
private theorem sweeps_reluctant (h : 0 < s.idleCheck) (since : Nat) :
    Sweeps s.idleCheck since (reluctant s since) where
  start_le := by
    have := postponed_le s since (since + 1)
    unfold Settings.lag at this
    simp only [reluctant]
    omega
  lt_succ n := le_postponed s since (reluctant s since n + 1)
  succ_le n := by
    have := postponed_le s since (reluctant s since n + 1)
    unfold Settings.lag at this
    simp only [reluctant]
    omega

/-- No late sweep comes between the end of a wait and the lag after it. -/
theorem le_of_dueAt_le {t q : Nat} (h : dueAt s since q ≤ postponed s since t) :
    dueAt s since q + s.lag ≤ postponed s since t := by
  have hlag : s.lag < s.slowestWait := by
    unfold Settings.slowestWait
    omega
  -- how far a late sweep is behind the last end of a wait
  have hlate : s.lag ≤ (postponed s since t - dueAt s since 0) % s.slowestWait ∨
      postponed s since t < dueAt s since 0 := by
    unfold postponed
    dsimp only
    split
    · next hgap =>
      left
      have hsplit : t + (s.lag - (t - dueAt s since 0) % s.slowestWait) - dueAt s since 0 =
          s.lag + s.slowestWait * ((t - dueAt s since 0) / s.slowestWait) := by
        have := Nat.mod_add_div (t - dueAt s since 0) s.slowestWait
        omega
      have hmod := Nat.add_mul_mod_self_left s.lag s.slowestWait
        ((t - dueAt s since 0) / s.slowestWait)
      rw [Nat.mod_eq_of_lt hlag, ← hsplit] at hmod
      exact Nat.le_of_eq hmod.symm
    · next hgap => omega
  have hzero : dueAt s since q = dueAt s since 0 + s.slowestWait * q := by
    unfold dueAt
    rw [Nat.mul_comm]
    omega
  rcases hlate with hlate | hbefore
  · refine Nat.le_of_not_lt fun hlt => ?_
    -- otherwise it would be less than the lag behind wait `q`
    have hmod : (postponed s since t - dueAt s since 0) % s.slowestWait =
        postponed s since t - dueAt s since q := by
      have hsplit : postponed s since t - dueAt s since 0 =
          postponed s since t - dueAt s since q + s.slowestWait * q := by omega
      rw [hsplit, Nat.add_mul_mod_self_left, Nat.mod_eq_of_lt (by omega)]
    omega
  · omega

/-- None of them comes within the lag after the end of a wait. -/
private theorem le_reluctant {n q : Nat} (h : dueAt s since q ≤ reluctant s since n) :
    dueAt s since q + s.lag ≤ reluctant s since n := by
  cases n with
  | zero => exact le_of_dueAt_le h
  | succ n => exact le_of_dueAt_le h

/-- One wait more ends one wait later. -/
private theorem dueAt_succ (q : Nat) : dueAt s since (q + 1) = dueAt s since q + s.slowestWait := by
  unfold dueAt
  rw [Nat.succ_mul]
  omega

/-- With late sweeps nothing is done before the waits of all probes so far have ended. -/
theorem not_isRipe_reluctant (h : 0 < s.idleCheck) (since n : Nat) :
    let k := checked s.livenessLimits (new since) (reluctant s since) n
    k.attempts ≤ s.maxEchoAttempts ∧ ∀ m, n ≤ m →
      reluctant s since m < dueAt s since k.attempts →
      ¬ k.IsRipe s.livenessLimits (reluctant s since m) := by
  have hs := sweeps_reluctant h since
  induction n with
  | zero =>
    refine ⟨Nat.zero_le _, fun m _ hm hripe => ?_⟩
    have hfirst := le_postponed s since (since + 1)
    have hmono := hs.le_of_le (Nat.zero_le m)
    have hidle := hripe.1
    simp only [checked, new, dueAt, reluctant, Settings.livenessLimits,
      Controller.livenessLimits] at hm hidle hmono
    omega
  | succ n ih =>
    obtain ⟨hle, hearly⟩ := ih
    rw [checked]
    rcases check_cases (checked s.livenessLimits (new since) (reluctant s since) n)
        s.livenessLimits (reluctant s since n) with ⟨-, heq⟩ | ⟨hripe, hlt, heq⟩ | ⟨-, -, heq⟩
    · rw [heq]
      exact ⟨hle, fun m hnm => hearly m (Nat.le_of_succ_le hnm)⟩
    · rw [heq]
      refine ⟨hlt, fun m hnm hm hnext => ?_⟩
      -- the probe went out late, and the next wait counts from there
      have hdue := le_reluctant (Nat.le_of_not_lt fun hlt => hearly n (Nat.le_refl n) hlt hripe)
      have hecho : reluctant s since n + s.echoInterval ≤ reluctant s since m := hnext.2 _ rfl
      have hmono := hs.lt_of_lt hnm
      simp only [Liveness.probed, dueAt_succ, Settings.slowestWait] at hm
      omega
    · rw [heq]
      exact ⟨hle, fun m hnm => hearly m (Nat.le_of_succ_le hnm)⟩

/-- With late sweeps a silent peer is not given up before the time of the slowest teardown. -/
theorem not_givenUp_reluctant (h : 0 < s.idleCheck) {deadline : Nat}
    (hdeadline : deadline < since + s.slowestTeardown) :
    ¬ GivenUpBy s.livenessLimits (new since) (reluctant s since) deadline := by
  rintro ⟨n, hn, hanswer⟩
  obtain ⟨hripe, hattempts⟩ := of_answer_eq_disconnect hanswer
  obtain ⟨hle, hearly⟩ := not_isRipe_reluctant h since n
  -- giving up takes all attempts, and the sweeps put each of them off as long as they can
  have hall : (checked s.livenessLimits (new since) (reluctant s since) n).attempts =
      s.maxEchoAttempts := Nat.le_antisymm hle hattempts
  have hdue := le_reluctant (Nat.le_of_not_lt fun hlt => hearly n (Nat.le_refl n) hlt hripe)
  rw [hall] at hdue
  unfold dueAt at hdue
  unfold Settings.slowestTeardown at hdeadline
  omega

end Reluctant

/-! ## The advertised deadline -/

/-- A silent peer is given up within the time of the slowest teardown, and no shorter time will do
for all sequences of sweeps. -/
theorem givenUp_iff (h : 0 < s.idleCheck) (since deadline : Nat) :
    (∀ times, Sweeps s.idleCheck since times →
      GivenUpBy s.livenessLimits (new since) times (since + deadline)) ↔
    s.slowestTeardown ≤ deadline := by
  constructor
  · intro hall
    refine Nat.le_of_not_lt fun hlt => ?_
    have hlater := Nat.add_lt_add_left hlt since
    exact not_givenUp_reluctant h hlater (hall _ (sweeps_reluctant h since))
  · intro hle times hs
    obtain ⟨n, hn, hanswer⟩ := givenUp_of_sweeps hs
    exact ⟨n, Nat.le_trans hn (Nat.add_le_add_left hle since), hanswer⟩

/-- Every probe can make a teardown later by the lag once more than the deadline has room for. -/
theorem slowestTeardown_le_iff (hidle : 0 < s.maxIdle) (hecho : 0 < s.echoInterval)
    (h : 0 < s.idleCheck) :
    s.slowestTeardown ≤ s.zombieDeadline ↔ s.maxEchoAttempts * (s.idleCheck - 1) ≤ 1 := by
  have hidle' : max s.maxIdle 1 = s.maxIdle := Nat.max_eq_left hidle
  have hecho' : max s.echoInterval 1 = s.echoInterval := Nat.max_eq_left hecho
  unfold Settings.slowestTeardown Settings.zombieDeadline Settings.slowestWait Settings.lag
  rw [hidle', hecho', Nat.mul_add, Nat.mul_comm s.echoInterval]
  omega

/-- A silent peer is given up within the time of the slowest teardown; within the advertised
deadline it is, for all sequences of sweeps, exactly if that time is no longer than the deadline,
which with more than one probe takes a sweep at every instant. -/
theorem zombieDeadline_kept_iff (s : Settings) (h : 0 < s.idleCheck) (since : Nat) :
    (∀ times, Sweeps s.idleCheck since times →
      GivenUpBy s.livenessLimits (new since) times (since + s.slowestTeardown)) ∧
    ((∀ times, Sweeps s.idleCheck since times →
      GivenUpBy s.livenessLimits (new since) times (since + s.zombieDeadline)) ↔
      s.slowestTeardown ≤ s.zombieDeadline) ∧
    (0 < s.maxIdle → 0 < s.echoInterval →
      (s.slowestTeardown ≤ s.zombieDeadline ↔ s.maxEchoAttempts * (s.idleCheck - 1) ≤ 1)) :=
  ⟨(givenUp_iff h since _).2 (Nat.le_refl _), givenUp_iff h since _,
    fun hidle hecho => slowestTeardown_le_iff hidle hecho h⟩

/-- Two probes that need a little more than the time between two sweeps. -/
def brisk : Settings := { idleCheck := 10, maxIdle := 10, echoInterval := 11, maxEchoAttempts := 2 }

/-- The sweeps come at 10, 20, 30 and so on. -/
private theorem sweeps_brisk : Sweeps brisk.idleCheck 0 fun n => 10 * (n + 1) where
  start_le := by decide
  lt_succ n := by omega
  succ_le n := by
    show 10 * (n + 1 + 1) ≤ 10 * (n + 1) + 10
    omega

/-- With two brisk probes a silent peer is given up by 59. -/
theorem zombieDeadline_kept_iff_brisk :
    0 < brisk.idleCheck ∧ brisk.slowestTeardown = 59 ∧
      GivenUpBy brisk.livenessLimits (new 0) (fun n => 10 * (n + 1)) (0 + 59) :=
  ⟨by decide, by decide, (zombieDeadline_kept_iff brisk (by decide) 0).1 _ sweeps_brisk⟩

/-- Regular sweeps find the probes due at 10 and 30, and have not given the peer up by 42. -/
theorem zombieDeadline_missed :
    0 < brisk.idleCheck ∧ brisk.zombieDeadline = 42 ∧
      Sweeps brisk.idleCheck 0 (fun n => 10 * (n + 1)) ∧
      ¬ GivenUpBy brisk.livenessLimits (new 0) (fun n => 10 * (n + 1))
        (0 + brisk.zombieDeadline) := by
  refine ⟨by decide, by decide, sweeps_brisk, ?_⟩
  rintro ⟨n, hn, hanswer⟩
  have hsmall : n < 4 := by
    have : 10 * (n + 1) ≤ 42 := hn
    omega
  have hnone : ∀ m < 4,
      answer brisk.livenessLimits (new 0) (fun n => 10 * (n + 1)) m ≠ .disconnect := by decide
  exact hnone n hsmall hanswer

end Liveness

end Southbound
