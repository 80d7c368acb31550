import Mathlib.Data.List.Induction
import Southbound.Proofs.Link.Silence

/-!
# How soon a silent peer is given up

A peer may be heard from and checked on at any times, in any order. Of all that has happened only
two things count: when the peer was last heard from, and the probes since then (`Recounts`). They
decide every answer of a check (`Recounts.check_eq_sendEcho_iff`,
`Recounts.check_eq_disconnect_iff`), so a peer has the time of all its probes before it is given up,
and then it is given up for good (`allowance_run`).

A difference of times that would be negative counts as 0. So with no idle time at all a check that
comes with an earlier time than the last sign of life can still send a probe
(`probed_before_heard`).
-/

namespace Southbound.Liveness

/-! ## Histories -/

/-- What happens on a connection as far as its liveness is concerned. -/
inductive Occurrence where
  /-- The peer is heard from. -/
  | heard (now : Nat)
  /-- The connection is checked. -/
  | checked (now : Nat)
deriving DecidableEq

/-- A connection that is watched. -/
structure Watch where
  liveness : Liveness
  /-- The times of the probes since the peer was last heard from. -/
  probes : List Nat := []
deriving DecidableEq

variable (limits : LivenessLimits)

/-- What a check at a time answers. -/
def Watch.answer (w : Watch) (now : Nat) : LivenessAction := (w.liveness.check now limits).2

def Watch.see (w : Watch) : Occurrence → Watch
  | .heard now => { liveness := w.liveness.touch now }
  | .checked now =>
    { liveness := (w.liveness.check now limits).1
      probes := if w.answer limits now = .sendEcho then w.probes ++ [now] else w.probes }

/-- A connection after what has happened on it. -/
def Watch.seeAll (w : Watch) (history : List Occurrence) : Watch :=
  history.foldl (Watch.see limits) w

/-- A connection that was made at a time, after what has happened on it. -/
def watch (since : Nat) (history : List Occurrence) : Watch :=
  Watch.seeAll limits { liveness := new since } history

/-- When the peer was last heard from. Making the connection counts. -/
def lastHeard (since : Nat) (history : List Occurrence) : Nat :=
  history.foldl (fun seen o => match o with
    | .heard now => now
    | .checked _ => seen) since

/-! ## What counts of a history -/

/-- The state knows when the peer was last heard from and the probes since, which came after the
idle time and one echo interval after the other. -/
structure Recounts (l : Liveness) (seen : Nat) (probes : List Nat) : Prop where
  lastSeen : l.lastSeen = seen
  attempts : l.attempts = probes.length
  nextEcho : l.nextEcho = probes.getLast?.map (· + limits.echoInterval)
  length_le : probes.length ≤ limits.maxAttempts
  idle : ∀ p ∈ probes, limits.maxIdle ≤ p - seen
  apart : probes.Pairwise fun p q => p + limits.echoInterval ≤ q

/-- The idle time is over, and every probe has had its time. -/
def IsDue (seen : Nat) (probes : List Nat) (now : Nat) : Prop :=
  limits.maxIdle ≤ now - seen ∧ ∀ p ∈ probes, p + limits.echoInterval ≤ now

variable {limits} {l : Liveness} {seen now : Nat} {probes : List Nat}

/-- At first the peer has been heard from, and was not probed. -/
private theorem recounts_new (now : Nat) : Recounts limits (new now) now [] where
  lastSeen := rfl
  attempts := rfl
  nextEcho := rfl
  length_le := Nat.zero_le _
  idle := nofun
  apart := .nil

/-- The last probe is the one that counts, as those before it are over earlier. -/
theorem Recounts.isRipe_iff (h : Recounts limits l seen probes) :
    l.IsRipe limits now ↔ IsDue limits seen probes now := by
  unfold IsRipe IsDue
  rw [h.lastSeen, h.nextEcho]
  refine and_congr_right fun _ => ?_
  have hapart := h.apart
  -- the last probe is the one that counts, because it is the latest
  rcases List.eq_nil_or_concat probes with rfl | ⟨ps, last, rfl⟩
  · simp
  · rw [List.concat_eq_append, List.pairwise_append] at hapart
    simp only [List.concat_eq_append, List.getLast?_concat, Option.map_some, Option.mem_def,
      Option.some.injEq, forall_eq', List.mem_append, List.mem_singleton]
    constructor
    · rintro hlast p (hp | rfl)
      · have := hapart.2.2 p hp last List.mem_cons_self
        omega
      · exact hlast
    · exact fun hall => hall last (.inr rfl)

/-- A probe is sent when it is due and there are some left. -/
theorem Recounts.check_eq_sendEcho_iff (h : Recounts limits l seen probes) :
    (l.check now limits).2 = .sendEcho ↔
      IsDue limits seen probes now ∧ probes.length < limits.maxAttempts := by
  rw [← h.isRipe_iff, ← h.attempts]
  rcases l.check_cases limits now with ⟨hnot, heq⟩ | ⟨hripe, hlt, heq⟩ | ⟨-, hle, heq⟩
  · simp [heq, hnot]
  · simp [heq, hripe, hlt]
  · simp [heq, hle]

/-- The peer is given up when a probe would be due and none is left. -/
theorem Recounts.check_eq_disconnect_iff (h : Recounts limits l seen probes) :
    (l.check now limits).2 = .disconnect ↔
      IsDue limits seen probes now ∧ probes.length = limits.maxAttempts := by
  have hle := h.length_le
  rw [← h.isRipe_iff, ← h.attempts] at *
  rcases l.check_cases limits now with ⟨hnot, heq⟩ | ⟨-, hlt, heq⟩ | ⟨hripe, hge, heq⟩
  · simp [heq, hnot]
  · simp [heq, Nat.ne_of_lt hlt]
  · simp [heq, hripe, Nat.le_antisymm hle hge]

/-- Only a probe changes the state. -/
theorem check_fst_of_ne (h : (l.check now limits).2 ≠ .sendEcho) : (l.check now limits).1 = l := by
  rcases l.check_cases limits now with ⟨-, heq⟩ | ⟨-, -, heq⟩ | ⟨-, -, heq⟩
  · rw [heq]
  · rw [heq] at h
    exact absurd rfl h
  · rw [heq]

/-- A probe that was sent is counted. -/
private theorem Recounts.probed (h : Recounts limits l seen probes)
    (hdue : IsDue limits seen probes now) (hlt : probes.length < limits.maxAttempts) :
    Recounts limits (l.probed limits now) seen (probes ++ [now]) where
  lastSeen := h.lastSeen
  attempts := by rw [List.length_append, ← h.attempts]; rfl
  nextEcho := by rw [List.getLast?_concat]; rfl
  length_le := by rw [List.length_append]; exact hlt
  idle p hp := by
    rcases List.mem_append.1 hp with hp | hp
    · exact h.idle p hp
    · exact List.mem_singleton.1 hp ▸ hdue.1
  apart := List.pairwise_append.2 ⟨h.apart, List.pairwise_singleton _ _,
    fun p hp q hq => List.mem_singleton.1 hq ▸ hdue.2 p hp⟩

/-- What counts of a history is kept by everything that happens. -/
theorem Recounts.see {w : Watch} (h : Recounts limits w.liveness seen w.probes) (o : Occurrence) :
    Recounts limits (w.see limits o).liveness (lastHeard seen [o]) (w.see limits o).probes := by
  cases o with
  | heard now => exact recounts_new now
  | checked now =>
    show Recounts limits (w.liveness.check now limits).1 seen
      (if w.answer limits now = .sendEcho then w.probes ++ [now] else w.probes)
    -- a probe is recorded exactly when one is sent
    by_cases hanswer : (w.liveness.check now limits).2 = .sendEcho
    · obtain ⟨hdue, hlt⟩ := h.check_eq_sendEcho_iff.1 hanswer
      rw [Watch.answer, if_pos hanswer,
        check_of_lt (h.isRipe_iff.2 hdue) (h.attempts.symm ▸ hlt)]
      exact h.probed hdue hlt
    · rw [Watch.answer, if_neg hanswer, check_fst_of_ne hanswer]
      exact h

/-- By induction on the history, nothing else of it counts. -/
private theorem Recounts.seeAll {w : Watch} (h : Recounts limits w.liveness seen w.probes)
    (history : List Occurrence) :
    Recounts limits (w.seeAll limits history).liveness (lastHeard seen history)
      (w.seeAll limits history).probes := by
  induction history generalizing w seen with
  | nil => exact h
  | cons o history ih => exact ih (h.see o)

/-- So it is from the making of a connection on. -/
private theorem recounts_watch (limits : LivenessLimits) (since : Nat) (history : List Occurrence) :
    Recounts limits (watch limits since history).liveness (lastHeard since history)
      (watch limits since history).probes :=
  Recounts.seeAll (w := { liveness := new since }) (recounts_new since) history

/-! ## Giving a peer up -/

/-- Probes that come one echo interval after the other take that interval each. -/
theorem Recounts.le_of_isDue (h : Recounts limits l seen probes)
    (hidle : ∀ p ∈ probes, seen + limits.maxIdle ≤ p) (hdue : IsDue limits seen probes now)
    (hnow : seen + limits.maxIdle ≤ now) :
    seen + limits.maxIdle + probes.length * limits.echoInterval ≤ now := by
  have hapart := h.apart
  have hover := hdue.2
  clear h hdue
  -- by induction on the probes, each of which is the end of the time for those before it
  induction probes using List.reverseRecOn generalizing now with
  | nil => simpa using hnow
  | append_singleton ps last ih =>
    rw [List.pairwise_append] at hapart
    have hlast : last + limits.echoInterval ≤ now := hover last (by simp)
    have hbefore := ih (fun p hp => hidle p (List.mem_append_left _ hp)) (hidle last (by simp))
      hapart.1 fun p hp => hapart.2.2 p hp last List.mem_cons_self
    rw [List.length_append, List.length_singleton, Nat.succ_mul]
    omega

/-- Nothing but a sign of life changes the state of a peer that has been given up. -/
theorem seeAll_of_disconnect {w : Watch} (h : Recounts limits w.liveness seen w.probes)
    (hall : w.probes.length = limits.maxAttempts) (times : List Nat) :
    w.seeAll limits (times.map .checked) = w := by
  induction times with
  | nil => rfl
  | cons now times ih =>
    have hanswer : (w.liveness.check now limits).2 ≠ .sendEcho := fun heq =>
      absurd (h.check_eq_sendEcho_iff.1 heq).2 (by omega)
    have hsee : w.see limits (.checked now) = w := by
      rw [Watch.see, Watch.answer, if_neg hanswer, check_fst_of_ne hanswer]
    rw [List.map_cons, Watch.seeAll, List.foldl_cons, hsee]
    exact ih

/-! ## The allowance -/

/-- What a peer that was last heard from at `seen` is allowed before it is given up. -/
structure Watch.Allows (limits : LivenessLimits) (w : Watch) (seen : Nat) : Prop where
  lastSeen : w.liveness.lastSeen = seen
  length_le : w.probes.length ≤ limits.maxAttempts
  idle : ∀ p ∈ w.probes, limits.maxIdle ≤ p - seen
  apart : w.probes.Pairwise fun p q => p + limits.echoInterval ≤ q
  sendEcho_iff : ∀ now, w.answer limits now = .sendEcho ↔
    IsDue limits seen w.probes now ∧ w.probes.length < limits.maxAttempts
  disconnect_iff : ∀ now, w.answer limits now = .disconnect ↔
    IsDue limits seen w.probes now ∧ w.probes.length = limits.maxAttempts
  /-- No probe comes before the idle time is over, unless that is no time at all. -/
  probe_le : (0 < limits.maxIdle ∨ ∀ p ∈ w.probes, seen ≤ p) →
    ∀ p ∈ w.probes, seen + limits.maxIdle ≤ p
  /-- Nor is the peer given up before all its probes have had their time. -/
  disconnect_le : ∀ now, (0 < limits.maxIdle ∨ seen ≤ now ∧ ∀ p ∈ w.probes, seen ≤ p) →
    w.answer limits now = .disconnect →
    seen + limits.maxIdle + limits.maxAttempts * limits.echoInterval ≤ now
  /-- Checks that come earlier do not matter any more. -/
  final : ∀ now, w.answer limits now = .disconnect → ∀ (times : List Nat) later, now ≤ later →
    (w.seeAll limits (times.map .checked)).answer limits later = .disconnect

/-- The idle time counts from the last sign of life. -/
theorem add_le_of_le_sub {idle t : Nat} (h : idle ≤ t - seen) (hpos : 0 < idle ∨ seen ≤ t) :
    seen + idle ≤ t := by
  omega

/-- The peer has been allowed the time of its probes. -/
private theorem Recounts.allows {w : Watch} (h : Recounts limits w.liveness seen w.probes) :
    w.Allows limits seen where
  lastSeen := h.lastSeen
  length_le := h.length_le
  idle := h.idle
  apart := h.apart
  sendEcho_iff _ := h.check_eq_sendEcho_iff
  disconnect_iff _ := h.check_eq_disconnect_iff
  probe_le hpos p hp := add_le_of_le_sub (h.idle p hp) (hpos.imp_right fun hle => hle p hp)
  disconnect_le now hpos hanswer := by
    obtain ⟨hdue, hall⟩ := h.check_eq_disconnect_iff.1 hanswer
    have hidle : ∀ p ∈ w.probes, seen + limits.maxIdle ≤ p := fun p hp =>
      add_le_of_le_sub (h.idle p hp) (hpos.imp_right fun hle => hle.2 p hp)
    exact hall ▸ h.le_of_isDue hidle hdue (add_le_of_le_sub hdue.1 (hpos.imp_right And.left))
  final now hanswer times later hle := by
    -- the attempts are used up, and time only makes everything more overdue
    obtain ⟨hdue, hall⟩ := h.check_eq_disconnect_iff.1 hanswer
    rw [seeAll_of_disconnect h hall]
    refine h.check_eq_disconnect_iff.2 ⟨⟨?_, fun p hp => ?_⟩, hall⟩
    · exact Nat.le_trans hdue.1 (Nat.sub_le_sub_right hle seen)
    · exact Nat.le_trans (hdue.2 p hp) hle

/-- Whatever has happened, in whatever order of times: since the peer was last heard from there were
no more probes than allowed, none before the idle time was over and none within an echo interval of
another; a check gives the peer up exactly if there were all of them and the last has had its time;
it stays given up; and a sign of life makes the connection as good as new. -/
theorem allowance_run (limits : LivenessLimits) (since : Nat) (history : List Occurrence) :
    (watch limits since history).Allows limits (lastHeard since history) ∧
    ∀ now, watch limits since (history ++ [.heard now]) = watch limits now [] := by
  refine ⟨(recounts_watch limits since history).allows, fun now => ?_⟩
  rw [watch, Watch.seeAll, List.foldl_append]
  rfl

/-- Two probes, the second of which waits for the end of the first. -/
theorem allowance_run_probed :
    let limits : LivenessLimits := { maxIdle := 100, echoInterval := 50, maxAttempts := 2 }
    let w := watch limits 0 [.checked 99, .checked 100, .checked 120, .checked 150, .checked 199]
    w.probes = [100, 150] ∧ w.answer limits 200 = .disconnect ∧
      (w.seeAll limits ([120, 160].map .checked)).answer limits 210 = .disconnect := by
  intro limits w
  have hgiven : w.answer limits 200 = .disconnect := by decide
  exact ⟨by decide, hgiven,
    (allowance_run limits 0 _).1.final 200 hgiven [120, 160] 210 (by decide)⟩

/-- Without any idle time a check that comes with an earlier time than the last sign of life sends a
probe, and the peer is given up before that sign of life. -/
theorem probed_before_heard :
    let limits : LivenessLimits := { maxIdle := 0, echoInterval := 3, maxAttempts := 1 }
    let w := watch limits 10 []
    (w.answer limits 2 = .sendEcho ∧ ¬ 10 + limits.maxIdle ≤ 2) ∧
      (w.see limits (.checked 2)).answer limits 5 = .disconnect ∧
      ¬ 10 + limits.maxIdle + limits.maxAttempts * limits.echoInterval ≤ 5 := by
  decide

end Southbound.Liveness
