import Southbound.Proofs.Controller.Outline

/-!
# What is heard of ports

A switch that is being described tells of its ports in two ways, in answer to a request and, when
something changes, without being asked. What is made of a number of messages in all is said here in
terms of the messages alone:

* `PortTable.get?_hearAll`      of the notifications the last about a port counts
* `Descriptions.ports_hearAll`  the parts of the answer count one behind the other
* `Descriptions.asks_expectAll` one transaction id is that of the answer
-/

namespace Southbound

/-- What there is under the number of a port after a notification. -/
def PortStatus.outcome (s : PortStatus) : Option Port :=
  match s.reason with
  | .delete => none
  | .add | .modify => some s.port

/-- The notifications about port `n`. -/
def statuses (n : PortNumber) (ms : List (Xid × Message)) : List PortStatus :=
  ms.filterMap fun
    | (_, .portStatus s) => if s.port.number = n then some s else none
    | _ => none

/-- The parts of the answer to request `x` for the ports. It ends with the reply that announces no
more, or with an error. -/
def portParts (x : Xid) : List (Xid × Message) → List (List Port)
  | [] => []
  | (y, .multipartReply r) :: ms =>
    if y = x then
      let rest := if r.hasMore then portParts x ms else []
      match r.body with
      | .ports ports => ports :: rest
      -- a body of another kind counts for the end alone
      | _ => rest
    else portParts x ms
  | (y, .error _) :: ms => if y = x then [] else portParts x ms
  | _ :: ms => portParts x ms

/-! ## Notifications -/

namespace PortTable

def hearAll (t : PortTable) (ms : List (Xid × Message)) : PortTable :=
  ms.foldl (fun t m => t.hear m.2) t

/-- Messages can be heard in two parts. -/
theorem hearAll_append (t : PortTable) (ms more : List (Xid × Message)) :
    t.hearAll (ms ++ more) = (t.hearAll ms).hearAll more :=
  List.foldl_append

/-- A notification changes what is found under the number of its port. -/
theorem get?_apply (t : PortTable) (s : PortStatus) (n : PortNumber) :
    (t.apply s).get? n = if n = s.port.number then s.outcome else t.get? n := by
  unfold apply PortStatus.outcome
  cases s.reason with
  | delete => exact t.get?_erase s.port.number n
  | add | modify => exact t.get?_insert s.port n

/-- The last notification about a port counts. -/
theorem get?_hearAll (t : PortTable) (ms : List (Xid × Message)) (n : PortNumber) :
    (t.hearAll ms).get? n =
      match (statuses n ms).getLast? with
      | some s => s.outcome
      | none => t.get? n := by
  induction ms generalizing t with
  | nil => rfl
  | cons m ms ih =>
    -- a message about something else is skipped on both sides
    have hskip (hm : statuses n (m :: ms) = statuses n ms) (ht : (t.hear m.2).get? n = t.get? n) :
        (t.hearAll (m :: ms)).get? n =
          match (statuses n (m :: ms)).getLast? with
          | some s => s.outcome
          | none => t.get? n := by
      rw [hm, ← ht]
      exact ih (t.hear m.2)
    obtain ⟨x, m⟩ := m
    cases m with
    | portStatus s =>
      have hheard := t.get?_apply s n
      by_cases hn : s.port.number = n
      · have hmine : statuses n ((x, .portStatus s) :: ms) = s :: statuses n ms := by
          simp [statuses, hn]
        rw [if_pos hn.symm] at hheard
        rw [hmine, List.getLast?_cons]
        refine (ih (t.apply s)).trans ?_
        -- `s` counts unless another notification about the port is still to come
        cases (statuses n ms).getLast? with
        | none => exact hheard
        | some s => rfl
      · refine hskip (by simp [statuses, hn]) ?_
        rw [if_neg (Ne.symm hn)] at hheard
        exact hheard
    | _ => exact hskip rfl rfl

end PortTable

/-! ## Answers -/

namespace Descriptions

def hearAll (d : Descriptions) (ms : List (Xid × Message)) : Descriptions :=
  ms.foldl (fun d m => d.hear m.1 m.2) d

/-- Messages can be heard in two parts. -/
theorem hearAll_append (d : Descriptions) (ms more : List (Xid × Message)) :
    d.hearAll (ms ++ more) = (d.hearAll ms).hearAll more :=
  List.foldl_append

/-- The ports are asked for by request `x`, and nowhere else. -/
def Asks (d : Descriptions) (x : Xid) : Prop :=
  ∀ y, d.outstanding.find? y = some .ports ↔ y = x

/-- The request for the ports has been answered. -/
def IsTold (d : Descriptions) : Prop := ∀ y, d.outstanding.find? y ≠ some .ports

variable {d : Descriptions} {x y : Xid}

/-- A request that is closed is not outstanding. -/
theorem find?_close (d : Descriptions) (x y : Xid) :
    (d.close x).outstanding.find? y = if y = x then none else d.outstanding.find? y :=
  Keyed.find?_erase x y d.outstanding

/-- A request that is made is outstanding. -/
theorem find?_expect (d : Descriptions) (x y : Xid) (kind : DescriptionKind) :
    (d.expect x kind).outstanding.find? y = if y = x then some kind else d.outstanding.find? y :=
  Keyed.find?_put x y kind d.outstanding

/-- An answer that has come is not waited for again. -/
private theorem IsTold.close (h : d.IsTold) (y : Xid) : (d.close y).IsTold := by
  intro z
  rw [find?_close]
  split
  · exact (Option.some_ne_none _).symm
  · exact h z

/-- When the request for the ports is closed, no other one is left. -/
private theorem Asks.isTold_close (h : d.Asks x) : (d.close x).IsTold := by
  intro y
  rw [find?_close]
  split
  · exact (Option.some_ne_none _).symm
  · next hy => exact fun hports => hy ((h y).1 hports)

/-- It is left when another request is closed. -/
private theorem Asks.close_of_ne (h : d.Asks x) (hy : y ≠ x) : (d.close y).Asks x := by
  intro z
  rw [find?_close]
  split
  · next hz => simp [hz, hy]
  · exact h z

/-- Only an answer about the ports teaches ports. -/
theorem ports_learn {kind : DescriptionKind} (hk : kind ≠ .ports) (d : Descriptions)
    (body : MultipartBody) : (d.learn kind body).ports = d.ports := by
  unfold learn
  split
  · rfl
  · exact absurd rfl hk
  · rfl

/-- Learning from a reply closes nothing. -/
theorem outstanding_learn (d : Descriptions) (kind : DescriptionKind) (body : MultipartBody) :
    (d.learn kind body).outstanding = d.outstanding := by
  unfold learn
  split <;> rfl

/-- What a reply teaches does not change what is asked. -/
private theorem Asks.learn (h : d.Asks x) (kind : DescriptionKind) (body : MultipartBody) :
    (d.learn kind body).Asks x := by
  intro y
  rw [outstanding_learn]
  exact h y

/-- What is heard under an id that does not ask for ports tells nothing of them, and closes no other
request. -/
private theorem hear_of_ne_ports (hy : d.outstanding.find? y ≠ some .ports) (m : Message) :
    (d.hear y m).ports = d.ports ∧ ((d.hear y m).outstanding = d.outstanding ∨
      (d.hear y m).outstanding = (d.close y).outstanding) := by
  cases m with
  | multipartReply r =>
    simp only [Descriptions.hear, onReply]
    split
    · exact ⟨rfl, .inl rfl⟩
    · next kind hkind =>
      have hports := ports_learn (fun hk => hy (hk ▸ hkind)) d r.body
      have hsame := outstanding_learn d kind r.body
      split
      · exact ⟨hports, .inl hsame⟩
      · exact ⟨hports, .inr (congrArg (fun o => o.erase y) hsame)⟩
  | error e =>
    simp only [Descriptions.hear, onError]
    split
    · exact ⟨rfl, .inl rfl⟩
    · split
      · exact ⟨rfl, .inr rfl⟩
      · exact ⟨rfl, .inr rfl⟩
  | _ => exact ⟨rfl, .inl rfl⟩

/-- When the request has been answered, nothing is learnt of ports any more. -/
theorem IsTold.hear (h : d.IsTold) (x : Xid) (m : Message) :
    (d.hear x m).IsTold ∧ (d.hear x m).ports = d.ports := by
  obtain ⟨hports, hsame | hclosed⟩ := hear_of_ne_ports (h x) m
  · exact ⟨fun z => hsame ▸ h z, hports⟩
  · exact ⟨fun z => hclosed ▸ h.close x z, hports⟩

/-- Once the ports have been told they stay as they are. -/
private theorem IsTold.hearAll (h : d.IsTold) (ms : List (Xid × Message)) :
    (d.hearAll ms).ports = d.ports := by
  induction ms generalizing d with
  | nil => rfl
  | cons m ms ih =>
    obtain ⟨htold, hports⟩ := h.hear m.1 m.2
    exact (ih htold).trans hports

/-- Answers to other requests, and what is no answer, tell nothing of ports. -/
theorem Asks.hear_of_ne (h : d.Asks x) (hy : y ≠ x) (m : Message) :
    (d.hear y m).Asks x ∧ (d.hear y m).ports = d.ports := by
  obtain ⟨hports, hsame | hclosed⟩ := hear_of_ne_ports (fun hasks => hy ((h y).1 hasks)) m
  · exact ⟨fun z => hsame ▸ h z, hports⟩
  · exact ⟨fun z => hclosed ▸ h.close_of_ne hy z, hports⟩

/-- One more part of an answer behind those that came before. -/
def addPart (ports : Option (List Port)) (part : List Port) : Option (List Port) :=
  some (ports.getD [] ++ part)

/-- Parts come one behind the other. -/
theorem foldl_addPart_some (ports : List Port) (parts : List (List Port)) :
    parts.foldl addPart (some ports) = some (ports ++ parts.flatten) := by
  induction parts generalizing ports with
  | nil => simp
  | cons part parts ih => simp [addPart, ih]

/-- All that is known of ports is what the parts of the answer say, one behind the other. -/
theorem ports_hearAll (h : d.Asks x) (ms : List (Xid × Message)) :
    (d.hearAll ms).ports = (portParts x ms).foldl addPart d.ports := by
  induction ms generalizing d with
  | nil => rfl
  | cons m ms ih =>
    obtain ⟨y, m⟩ := m
    by_cases hy : y = x
    · -- an answer to the request, or a message that happens to have its id
      subst hy
      have hfind := (h y).2 rfl
      cases m with
      | multipartReply r =>
        have hreply : (d.hear y (.multipartReply r)) =
            if r.hasMore then d.learn .ports r.body else (d.learn .ports r.body).close y := by
          simp only [Descriptions.hear, onReply, hfind]
        have hlearnt := h.learn .ports r.body
        -- what comes behind this part, if there is more
        have hrest : (d.hearAll ((y, .multipartReply r) :: ms)).ports =
            (if r.hasMore then portParts y ms else []).foldl addPart
              (d.learn .ports r.body).ports := by
          show ((d.hear y (.multipartReply r)).hearAll ms).ports = _
          rw [hreply]
          split
          · exact ih hlearnt
          · exact hlearnt.isTold_close.hearAll ms
        rw [hrest]
        simp only [portParts, ↓reduceIte]
        cases r.body with
        | ports ports => rfl
        | _ => rfl
      | error e =>
        have herror : d.hear y (.error e) = d.close y := by
          simp [Descriptions.hear, onError, hfind]
        show ((d.hear y (.error e)).hearAll ms).ports = _
        rw [herror, h.isTold_close.hearAll ms]
        simp only [portParts, ↓reduceIte]
        rfl
      | _ => exact ih h
    · obtain ⟨hasks, hports⟩ := h.hear_of_ne hy m
      have hskip : portParts x ((y, m) :: ms) = portParts x ms := by
        cases m <;> simp [portParts, hy]
      rw [hskip, ← hports]
      exact ih hasks

/-- What is asked for one after the other is asked for under different transaction ids, so that it
is clear what is an answer about ports. -/
theorem asks_expectAll (n : Nat) :
    ∃ y, (({} : Descriptions).expectAll n (DescriptionKind.requiredFor Version.v13)).Asks y := by
  -- the ids come round, but not within three draws
  have hnear : n + 2 < n + 1 + (UInt32.size - 1) := by
    have : UInt32.size = 4294967296 := rfl
    omega
  have hne : xidAt (n + 1) ≠ xidAt (n + 2) := xidAt_ne (Nat.lt_succ_self _) hnear
  refine ⟨xidAt (n + 1), fun y => ?_⟩
  show (((({} : Descriptions).expect (xidAt n) .device).expect (xidAt (n + 1)) .ports).expect
    (xidAt (n + 2)) .tableFeatures).outstanding.find? y = _ ↔ _
  rw [find?_expect, find?_expect, find?_expect]
  by_cases hy : y = xidAt (n + 1)
  · simp [hy, hne]
  · simp only [hy, ↓reduceIte, iff_false]
    split
    · simp
    · split <;> simp

/-- Asking tells nothing of the ports yet. -/
theorem ports_expectAll (d : Descriptions) (n : Nat) (kinds : List DescriptionKind) :
    (d.expectAll n kinds).ports = d.ports := by
  induction kinds generalizing d n with
  | nil => rfl
  | cons kind kinds ih => exact ih (d.expect _ kind) _

/-- If nothing was known of ports, a port about which there was a notification is in the end as the
last one says, unless the answer says something else. -/
theorem get?_settle_hearAll (h : d.Asks x) (hnew : d.ports = none) (t : PortTable)
    {ms : List (Xid × Message)} {n : PortNumber} {s : PortStatus}
    (hs : (statuses n ms).getLast? = some s) :
    ((d.hearAll ms).settle (t.hearAll ms)).get? n = s.outcome ↔
      portParts x ms = [] ∨ (PortTable.ofList (portParts x ms).flatten).get? n = s.outcome := by
  have hports := ports_hearAll h ms
  rw [hnew] at hports
  cases hparts : portParts x ms with
  | nil =>
    rw [hparts] at hports
    -- no part came, and what the notifications made of the table stays
    have hkept : (d.hearAll ms).settle (t.hearAll ms) = t.hearAll ms := by
      rw [settle, hports]
      rfl
    rw [hkept, PortTable.get?_hearAll, hs]
    simp
  | cons part parts =>
    rw [hparts, List.foldl_cons, addPart, foldl_addPart_some] at hports
    -- what came takes the place of the table, and of all notifications
    have hreplaced : (d.hearAll ms).settle (t.hearAll ms) =
        .ofList (part :: parts).flatten := by
      rw [settle, hports]
      rfl
    simp [hreplaced]

end Descriptions

end Southbound
