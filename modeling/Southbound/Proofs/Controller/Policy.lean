import Southbound.Proofs.Controller.Registry
import Southbound.Proofs.Controller.Speech

/-!
# What callers get sent

Callers send through a handful of calls, each of which looks the datapath up, asks the policy and
checks transaction ids before it does anything else. Whatever is refused leaves no trace
(`sparing_perform`), and whatever is put into a queue has passed the policy (`sends_perform`).
`policy_calls` says both, of any state and any sequence of calls.
-/

namespace Southbound

/-- The failures of calls that are refused before anything is done. -/
def Failure.isRefusal : Failure → Bool
  | .invalidArgument _ | .notFound _ | .portNotFound .. => true
  | _ => false

/-- A way for callers to have something sent. -/
inductive Call where
  | send (d : DatapathId) (auxiliary : UInt8) (m : Message)
  | sendRequest (d : DatapathId) (o : Outbound)
  | sendWithCompanion (d : DatapathId) (o companion : Outbound)
  | sendBatch (d : DatapathId) (ms : List Message)
  | enablePort (d : DatapathId) (n : PortNumber) (enable : Bool)

namespace Call

/-- The datapath that a call is about. -/
def datapath : Call → DatapathId
  | send d .. | sendRequest d _ | sendWithCompanion d .. | sendBatch d _ | enablePort d .. => d

/-- Does the call send a barrier behind its messages? -/
def isCoupled : Call → Bool
  | send .. | sendRequest .. => false
  | sendWithCompanion .. | sendBatch .. | enablePort .. => true

end Call

namespace Policy

variable {role : Role} {d : DatapathId} {m : Message} {path : SendPath}

/-- What the policy lets pass. -/
theorem refusal?_eq_none_iff : refusal? role d m path = none ↔
    m.type ≠ .hello ∧ m.type.direction ≠ .switchToController ∧
      (m.type = .flowMod → path = .barrier) ∧ (m.type.isMutating = true → role = .master) := by
  -- the reasons are looked for one after the other
  have hnone {p : Prop} [Decidable p] {r : Refusal} {rest : Option Refusal} :
      (if p then some r else rest) = none ↔ ¬ p ∧ rest = none := by
    split <;> simp [*]
  simp only [refusal?, hnone, not_or, not_and, ne_eq, not_not, and_true, and_assoc]

/-- A message passes if there is no reason to refuse it. -/
private theorem check_eq_ok_iff : check role d m path = .ok () ↔ refusal? role d m path = none := by
  unfold check
  cases refusal? role d m path with
  | none => simp
  | some r => simp

end Policy

namespace Controller

variable {c c' c'' : Controller} {l : LinkId} {α : Type}

/-- Has a call carried out. -/
def perform (c : Controller) : Call → Controller × Except Failure Unit
  | .send d auxiliary m => c.send d auxiliary m
  | .sendRequest d o => Prod.map id (Except.map fun _ => ()) (c.sendRequest d o)
  | .sendWithCompanion d o companion =>
    Prod.map id (Except.map fun _ => ()) (c.sendWithCompanion d o companion)
  | .sendBatch d ms => Prod.map id (Except.map fun _ => ()) (c.sendBatch d ms)
  | .enablePort d n enable => Prod.map id (Except.map fun _ => ()) (c.enablePort d n enable)

/-- Has several calls carried out, one after the other. -/
def performAll (c : Controller) (calls : List Call) : Controller :=
  calls.foldl (fun c call => (c.perform call).1) c

/-- A datapath is registered under its id, and its main connection is one of the controller's. -/
def Linked (c : Controller) : Prop :=
  ∀ d dp, c.registered? d = some dp → dp.id = d ∧ ∃ k, c.connection? dp.main = some k

/-- What a call may put on a connection: a message for a datapath with that connection, of a kind
that controllers originate, which changes the switch only under its master and its flows only
together with a barrier. -/
structure Permits (c : Controller) (call : Call) (l : LinkId) (m : Message) : Prop where
  link : ∃ dp, c.registered? call.datapath = some dp ∧
    (l = dp.main ∨ ∃ auxiliary, dp.auxiliaries.find? auxiliary = some l)
  notHello : m.type ≠ .hello
  notFromSwitch : m.type.direction ≠ .switchToController
  coupled : m.type = .flowMod → call.isCoupled = true
  master : m.type.isMutating = true → c.roleOf call.datapath = .master

/-! ## States that look alike -/

/-- Who is registered can be read off the outline. -/
private theorem registered?_of_outline (ho : c'.outline = c.outline) {d : DatapathId}
    {dp' : Datapath} (h : c'.registered? d = some dp') :
    ∃ dp, c.registered? d = some dp ∧ dp.outline = dp'.outline := by
  obtain ⟨m, hm, hdp'⟩ := registered?_eq_some h
  have hmain : c.registry.find? d = some m := by
    have := congrArg (fun o => o.main? d) ho
    exact this.symm.trans hm
  have hdp : c.outline.datapath? m = some dp'.outline := ho ▸ datapath?_outline hdp'
  obtain ⟨dp, hdp, heq⟩ := Option.map_eq_some_iff.1 hdp
  exact ⟨dp, Option.bind_eq_some_iff.2 ⟨m, hmain, hdp⟩, heq⟩

/-- So can whether the registered datapaths have their main connections. -/
private theorem Linked.of_outline (h : c.Linked) (ho : c'.outline = c.outline) : c'.Linked := by
  intro d dp' hdp'
  obtain ⟨dp, hdp, heq⟩ := registered?_of_outline ho hdp'
  obtain ⟨hid, k, hk⟩ := h d dp hdp
  -- the outline shows registry, ids and main connections, which is all that is asked
  obtain ⟨j, hj, -⟩ := connection?_eq_some hk
  have hlink : c'.outline.link? dp.main = some j.outline := ho ▸ link?_outline hj
  obtain ⟨j', hj', -⟩ := Option.map_eq_some_iff.1 hlink
  have hid' : dp'.id = dp.id := congrArg DatapathOutline.id heq.symm
  have hmain : dp'.main = dp.main := congrArg DatapathOutline.main heq.symm
  refine ⟨hid'.trans hid, j'.connection, ?_⟩
  rw [hmain, connection?, hj']
  rfl

/-- And so can what a call may put on a connection, given the roles. -/
private theorem Permits.of_outline {call : Call} {m : Message} (h : c'.Permits call l m)
    (ho : c'.outline = c.outline) (hmastership : c'.mastership = c.mastership) :
    c.Permits call l m := by
  obtain ⟨dp', hdp', hconnected⟩ := h.link
  obtain ⟨dp, hdp, heq⟩ := registered?_of_outline ho hdp'
  have hmain : dp'.main = dp.main := congrArg DatapathOutline.main heq.symm
  have haux : dp'.auxiliaries = dp.auxiliaries := congrArg DatapathOutline.auxiliaries heq.symm
  refine ⟨⟨dp, hdp, ?_⟩, h.notHello, h.notFromSwitch, h.coupled, fun hm => ?_⟩
  · rw [← hmain, ← haux]
    exact hconnected
  · have hrole := h.master hm
    rwa [roleOf, hmastership] at hrole

/-! ## Refused calls -/

/-- If the result is that of a refused call, the state is what it was. -/
def Sparing (c : Controller) (r : Controller × Except Failure α) : Prop :=
  ∀ e, r.2 = .error e → e.isRefusal = true → r.1 = c

/-- A call that succeeds was not refused. -/
private theorem sparing_ok {r : Controller × Except Failure α} {a : α} (h : r.2 = .ok a) :
    c.Sparing r := fun e he => by
  rw [h] at he
  cases he

/-- Who does nothing leaves no trace. -/
private theorem sparing_self (result : Except Failure α) : c.Sparing (c, result) := fun _ _ _ => rfl

/-- A failed check leaves no trace. -/
private theorem sparing_andThen {β : Type} {checked : Except Failure β}
    {next : β → Controller × Except Failure α}
    (h : ∀ b, checked = .ok b → c.Sparing (next b)) : c.Sparing (c.andThen checked next) := by
  cases checked with
  | error e => exact sparing_self _
  | ok b => exact h b rfl

/-- What a call returns when it succeeds does not matter. -/
private theorem Sparing.forget {r : Controller × Except Failure α} (h : c.Sparing r) :
    c.Sparing (Prod.map id (Except.map fun _ => ()) r) := by
  intro e he hrefusal
  obtain ⟨c', result⟩ := r
  cases result with
  | ok a => cases he
  | error e' =>
    obtain rfl := Except.error.inj he
    exact h e' rfl hrefusal

/-- A connection that there is does not refuse: it fails to encode the message or to queue it. -/
theorem isRefusal_write {k : Connection} {x : Xid} {m : Message} {e : Failure}
    (hk : c.connection? l = some k) (h : c.write l x m = .error e) : e.isRefusal = false := by
  simp only [write, hk] at h
  cases hsent : k.send Codec.encode x m with
  | ok k' =>
    rw [hsent] at h
    cases h
  | error e' =>
    rw [hsent] at h
    obtain rfl := Except.error.inj h
    -- writing fails with an encoding or a closed connection, neither of which is a refusal
    unfold Connection.send at hsent
    split at hsent
    · obtain rfl := Except.error.inj hsent
      rfl
    · unfold Connection.sendFrame at hsent
      split at hsent
      · obtain rfl := Except.error.inj hsent
        rfl
      · cases hsent

/-- A datapath is found if it is registered. -/
theorem lookup_eq_ok_iff {d : DatapathId} {dp : Datapath} :
    c.lookup d = .ok dp ↔ c.registered? d = some dp := by
  unfold lookup
  cases c.registered? d with
  | none => simp
  | some dp' => simp

/-- Several messages pass only if each of them does. -/
private theorem forM_eq_ok {f : Message → Except Failure Unit} {ms : List Message}
    (h : ms.forM f = .ok ()) : ∀ m ∈ ms, f m = .ok () := by
  induction ms with
  | nil => intro m hm; cases hm
  | cons m ms ih =>
    have hsteps : (f m >>= fun _ => ms.forM f) = .ok () := h
    cases hm : f m with
    | error e =>
      rw [hm] at hsteps
      cases hsteps
    | ok u =>
      rw [hm] at hsteps
      exact List.forall_mem_cons.2 ⟨hm, ih hsteps⟩

/-- What is permitted goes to a registered datapath and has passed the policy. -/
theorem permit_single {d : DatapathId} {m : Message} {path : SendPath} {dp : Datapath}
    (h : c.permit d [m] path = .ok dp) :
    c.registered? d = some dp ∧ Policy.refusal? (c.roleOf d) d m path = none := by
  unfold permit at h
  cases hlookup : c.lookup d with
  | error e =>
    rw [hlookup] at h
    cases h
  | ok dp' =>
    -- the datapath is looked up first, then the one message is checked
    cases hcheck : Policy.check (c.roleOf d) d m path with
    | error e =>
      rw [hlookup] at h
      simp only [bind, Except.bind, List.forIn_cons, hcheck] at h
      cases h
    | ok u =>
      rw [hlookup] at h
      simp only [bind, Except.bind, List.forIn_cons, hcheck, List.forIn_nil, pure, Except.pure] at h
      obtain rfl := Except.ok.inj h
      exact ⟨lookup_eq_ok_iff.1 hlookup, Policy.check_eq_ok_iff.1 hcheck⟩

/-- The connection chosen for an auxiliary id is the main one or is attached under that id. -/
theorem select_eq (dp : Datapath) (isClosed : LinkId → Bool) (auxiliary : UInt8) :
    dp.select isClosed auxiliary = dp.main ∨
      dp.auxiliaries.find? auxiliary = some (dp.select isClosed auxiliary) ∧
        isClosed (dp.select isClosed auxiliary) = false := by
  unfold Datapath.select
  split
  · exact .inl rfl
  · split
    · next link hlink =>
      split
      · exact .inl rfl
      · next hopen => exact .inr ⟨hlink, by simpa using hopen⟩
    · exact .inl rfl

/-- The connection that is selected for a message is there. -/
private theorem Linked.exists_connection_select (h : c.Linked) {d : DatapathId} {dp : Datapath}
    (hdp : c.registered? d = some dp) (auxiliary : UInt8) :
    ∃ k, c.connection? (dp.select c.isClosed auxiliary) = some k := by
  rcases select_eq dp c.isClosed auxiliary with hmain | ⟨-, hopen⟩
  · rw [hmain]
    exact (h d dp hdp).2
  · -- a connection that never was counts as closed
    unfold isClosed at hopen
    split at hopen
    · next k hk => exact ⟨k, hk⟩
    · cases hopen

/-- A message that is refused leaves no trace. -/
private theorem sparing_send (h : c.Linked) (d : DatapathId) (auxiliary : UInt8) (m : Message) :
    c.Sparing (c.send d auxiliary m) := by
  refine sparing_andThen fun dp hdp e he hrefusal => ?_
  -- whichever connection is selected exists, so what fails is not a refusal
  obtain ⟨k, hk⟩ := h.exists_connection_select (permit_single hdp).1 auxiliary
  have hdrawn : c.drawXid.1.connection? (dp.select c.isClosed auxiliary) = some k := hk
  simp only [writeAll] at he
  split at he
  · next e' hwritten =>
    obtain rfl := Except.error.inj he
    rw [isRefusal_write hdrawn hwritten] at hrefusal
    cases hrefusal
  · cases he

/-- So does a request. -/
private theorem sparing_sendRequest (c : Controller) (d : DatapathId) (o : Outbound) :
    c.Sparing (c.sendRequest d o) :=
  sparing_andThen fun _ _ => sparing_andThen fun _ _ => sparing_ok rfl

/-- So does a message with a barrier. -/
private theorem sparing_sendWithBarrier (c : Controller) (d : DatapathId) (o : Outbound)
    (barrier : Option Xid) : c.Sparing (c.sendWithBarrier d o barrier) :=
  sparing_andThen fun _ _ => sparing_andThen fun _ _ => sparing_andThen fun _ _ => sparing_ok rfl

/-- So does a message with a companion. -/
private theorem sparing_sendWithCompanion (c : Controller) (d : DatapathId)
    (o companion : Outbound) :
    c.Sparing (c.sendWithCompanion d o companion) := by
  unfold sendWithCompanion
  split
  · exact sparing_self _
  · split
    · exact sparing_self _
    · exact sparing_sendWithBarrier c d o companion.xid

/-- So does a batch. -/
private theorem sparing_sendBatch (c : Controller) (d : DatapathId) (ms : List Message) :
    c.Sparing (c.sendBatch d ms) := by
  refine sparing_andThen fun dp _ => ?_
  cases ms with
  | nil => exact sparing_self _
  | cons first more => exact sparing_andThen fun _ _ => sparing_ok rfl

/-- So does a change of a port. -/
private theorem sparing_enablePort (c : Controller) (d : DatapathId) (n : PortNumber)
    (enable : Bool) :
    c.Sparing (c.enablePort d n enable) := by
  refine sparing_andThen fun dp _ => ?_
  split
  · exact sparing_self _
  · exact sparing_sendWithBarrier c d _ none

/-- A call that is refused leaves the state as it was. -/
theorem sparing_perform (h : c.Linked) (call : Call) : c.Sparing (c.perform call) := by
  cases call with
  | send d auxiliary m => exact sparing_send h d auxiliary m
  | sendRequest d o => exact (sparing_sendRequest c d o).forget
  | sendWithCompanion d o companion => exact (sparing_sendWithCompanion c d o companion).forget
  | sendBatch d ms => exact (sparing_sendBatch c d ms).forget
  | enablePort d n enable => exact (sparing_enablePort c d n enable).forget

/-! ## Queued messages -/

/-- Between two states, messages were put into queues only where they are allowed, and the
controller is the master of the same datapaths. -/
structure Sends (allowed : LinkId → Message → Prop) (c c' : Controller) : Prop where
  mastership : c'.mastership = c.mastership
  queues : ∀ l, ∃ ss, Utters l c c' ss ∧ ∀ s ∈ ss, allowed l s.message

section
variable {allowed : LinkId → Message → Prop}

/-- Who leaves the connections alone sends nothing. -/
private theorem sends_of_links (hmastership : c'.mastership = c.mastership)
    (hlinks : c'.links = c.links) :
    Sends allowed c c' :=
  ⟨hmastership, fun _ => ⟨[], (quiet_of_links hlinks).utters, List.forall_mem_nil _⟩⟩

private theorem Sends.refl (c : Controller) : Sends allowed c c := sends_of_links rfl rfl

/-- What is sent in two steps is allowed if it is in each. -/
private theorem Sends.trans (h : Sends allowed c c') (h' : Sends allowed c' c'') :
    Sends allowed c c'' := by
  refine ⟨h'.mastership.trans h.mastership, fun l => ?_⟩
  obtain ⟨ss, hss, hall⟩ := h.queues l
  obtain ⟨more, hmore, hall'⟩ := h'.queues l
  exact ⟨ss ++ more, hss.trans hmore, List.forall_mem_append.2 ⟨hall, hall'⟩⟩

private theorem sends_drawXid (c : Controller) :
    Sends allowed c c.drawXid.1 := sends_of_links rfl rfl

/-- Nothing is sent by drawing an id. -/
private theorem sends_xidFor (c : Controller) (chosen : Option Xid) :
    Sends allowed c (c.xidFor chosen).1 := by
  cases chosen with
  | none => exact sends_drawXid c
  | some x => exact .refl c

/-- Nor by drawing several. -/
private theorem sends_drawXids (c : Controller) (ms : List Message) :
    Sends allowed c (c.drawXids ms).1 := by
  induction ms generalizing c with
  | nil => exact .refl c
  | cons m ms ih => exact (sends_drawXid c).trans (ih _)

/-- A message is queued where it is written. -/
private theorem sends_write {x : Xid} {m : Message} (h : c.write l x m = .ok c')
    (hm : allowed l m) :
    Sends allowed c c' := by
  obtain ⟨k, frame, hk, -, hframe, rfl⟩ := write_eq_ok h
  refine ⟨by cases m <;> rfl, fun j => ?_⟩
  by_cases hj : j = l
  · subst hj
    have hs : Saying.IsFrame ⟨k.version, x, m⟩ frame := hframe
    exact ⟨_, (utters_modifyConnection hk hs _).before (quiet_countWrite _ m),
      List.forall_mem_singleton.2 hm⟩
  · -- nothing is put into the queues of other connections
    refine ⟨[], ⟨[], .nil, ?_⟩, List.forall_mem_nil _⟩
    rw [List.append_nil, quiet_countWrite]
    simp only [queue, connection?, modifyConnection, link?_modifyLink, if_neg hj]

/-- So are several, of which some may be left. -/
private theorem sends_writeAll {ws : List (Xid × Message)} (h : ∀ w ∈ ws, allowed l w.2) :
    Sends allowed c (c.writeAll l ws).1 := by
  induction ws generalizing c with
  | nil => exact .refl c
  | cons w ws ih =>
    obtain ⟨hfirst, hrest⟩ := List.forall_mem_cons.1 h
    unfold writeAll
    split
    · exact .refl c
    · next hwritten => exact (sends_write hwritten hfirst).trans (ih hrest)

/-- A request is queued on the main connection. -/
private theorem sends_issue {dp : Datapath} {type : MessageType} {claim : Ticket → Claim}
    {frames : List (Xid × Message)} (h : ∀ w ∈ frames, allowed dp.main w.2) :
    Sends allowed c (c.issue dp type claim frames).1 := by
  simp only [issue]
  split
  · next c' _ htrack =>
    have heq : _ = c' := congrArg Prod.fst htrack
    exact heq ▸ sends_of_links rfl rfl
  · next c' htrack =>
    have heq : _ = c' := congrArg Prod.fst htrack
    have htracked : Sends allowed c c' := heq ▸ sends_of_links rfl rfl
    -- what is queued is a prefix of the frames, whether or not all could be written
    have hwritten : Sends allowed c' (c'.writeAll dp.main frames).1 := sends_writeAll h
    split
    · next c'' hw =>
      have heq' : _ = c'' := congrArg Prod.fst hw
      exact htracked.trans (heq' ▸ hwritten)
    · next c'' e hw =>
      have heq' : _ = c'' := congrArg Prod.fst hw
      have hfailed : Sends allowed c c'' := htracked.trans (heq' ▸ hwritten)
      split
      · exact hfailed
      · -- taking the request out of the table again queues nothing
        exact hfailed.trans (sends_of_links rfl rfl)

/-- What follows a check is sent only if the check passes. -/
private theorem sends_andThen {β : Type} {checked : Except Failure β}
    {next : β → Controller × Except Failure α}
    (h : ∀ b, checked = .ok b → Sends allowed c (next b).1) :
    Sends allowed c (c.andThen checked next).1 := by
  cases checked with
  | error e => exact .refl c
  | ok b => exact h b rfl

end

/-! ## Calls -/

/-- What has passed the policy on the way of a call is permitted on the connections of its
datapath. -/
theorem permits_of_policy {call : Call} {dp : Datapath} {m : Message} {path : SendPath}
    (hdp : c.registered? call.datapath = some dp)
    (hlink : l = dp.main ∨ ∃ auxiliary, dp.auxiliaries.find? auxiliary = some l)
    (hpath : path = .barrier → call.isCoupled = true)
    (h : Policy.refusal? (c.roleOf call.datapath) call.datapath m path = none) :
    c.Permits call l m := by
  obtain ⟨hhello, hdirection, hcoupled, hmaster⟩ := Policy.refusal?_eq_none_iff.1 h
  exact ⟨⟨dp, hdp, hlink⟩, hhello, hdirection, fun hm => hpath (hcoupled hm), hmaster⟩

/-- A barrier may be sent to any registered datapath. -/
theorem permits_barrier {call : Call} {dp : Datapath}
    (hdp : c.registered? call.datapath = some dp) : c.Permits call dp.main .barrierRequest where
  link := ⟨dp, hdp, .inl rfl⟩
  notHello := by decide
  notFromSwitch := by decide
  coupled := nofun
  master := nofun

/-- A message that is sent has passed the policy. -/
private theorem sends_send (c : Controller) (d : DatapathId) (auxiliary : UInt8) (m : Message) :
    Sends (c.Permits (.send d auxiliary m)) c (c.send d auxiliary m).1 := by
  refine sends_andThen fun dp hdp => ?_
  obtain ⟨hregistered, hpolicy⟩ := permit_single hdp
  have hlink : dp.select c.isClosed auxiliary = dp.main ∨
      ∃ auxiliary', dp.auxiliaries.find? auxiliary' = some (dp.select c.isClosed auxiliary) :=
    (select_eq dp c.isClosed auxiliary).imp_right fun h => ⟨auxiliary, h.1⟩
  have hpermits : c.Permits (.send d auxiliary m) (dp.select c.isClosed auxiliary) m :=
    permits_of_policy hregistered hlink (by nofun) hpolicy
  exact (sends_drawXid c).trans (sends_writeAll (List.forall_mem_singleton.2 hpermits))

/-- So has a request. -/
private theorem sends_sendRequest (c : Controller) (d : DatapathId) (o : Outbound) :
    Sends (c.Permits (.sendRequest d o)) c (c.sendRequest d o).1 := by
  refine sends_andThen fun dp hdp => sends_andThen fun _ _ => ?_
  obtain ⟨hregistered, hpolicy⟩ := permit_single hdp
  have hpermits : c.Permits (.sendRequest d o) dp.main o.message :=
    permits_of_policy hregistered (.inl rfl) (by nofun) hpolicy
  exact (sends_xidFor c o.xid).trans (sends_issue (List.forall_mem_singleton.2 hpermits))

/-- So has a message with a barrier, and its barrier. -/
private theorem sends_sendWithBarrier {call : Call} (hcoupled : call.isCoupled = true)
    (o : Outbound) (barrier : Option Xid) :
    Sends (c.Permits call) c (c.sendWithBarrier call.datapath o barrier).1 := by
  refine sends_andThen fun dp hdp => sends_andThen fun _ _ => sends_andThen fun _ _ => ?_
  obtain ⟨hregistered, hpolicy⟩ := permit_single hdp
  have hpermits : c.Permits call dp.main o.message :=
    permits_of_policy hregistered (.inl rfl) (fun _ => hcoupled) hpolicy
  refine (sends_xidFor c o.xid).trans ((sends_xidFor _ barrier).trans (sends_issue ?_))
  exact List.forall_mem_cons.2
    ⟨hpermits, List.forall_mem_singleton.2 (permits_barrier hregistered)⟩

/-- So have a message and its companion. -/
private theorem sends_sendWithCompanion (c : Controller) (d : DatapathId) (o companion : Outbound) :
    Sends (c.Permits (.sendWithCompanion d o companion)) c
      (c.sendWithCompanion d o companion).1 := by
  unfold sendWithCompanion
  split
  · exact .refl c
  · split
    · exact .refl c
    · have hcoupled : (Call.sendWithCompanion d o companion).isCoupled = true := rfl
      exact sends_sendWithBarrier hcoupled o companion.xid

/-- The messages of a batch are sent as they are. -/
private theorem snd_drawXids (c : Controller) (ms : List Message) :
    (c.drawXids ms).2.map (·.2) = ms := by
  induction ms generalizing c with
  | nil => rfl
  | cons m ms ih => exact congrArg (m :: ·) (ih _)

/-- Every message of a batch has passed the policy. -/
private theorem sends_sendBatch (h : c.Linked) (d : DatapathId) (ms : List Message) :
    Sends (c.Permits (.sendBatch d ms)) c (c.sendBatch d ms).1 := by
  refine sends_andThen fun dp hdp => ?_
  have hregistered := lookup_eq_ok_iff.1 hdp
  unfold sendBatchOn
  split
  · exact .refl c
  · next first more =>
    refine sends_andThen fun _ hchecks => ?_
    have hpermits {m : Message} (hm : m ∈ first :: more) :
        c.Permits (.sendBatch d (first :: more)) dp.main m := by
      have hpolicy := Policy.check_eq_ok_iff.1 (forM_eq_ok hchecks m hm)
      -- the policy is asked about the id of the datapath, which it is registered under
      rw [(h d dp hregistered).1] at hpolicy
      exact permits_of_policy hregistered (.inl rfl) (fun _ => rfl) hpolicy
    have hframes {w : Xid × Message} (hw : w ∈ (c.drawXids (first :: more)).2) :
        c.Permits (.sendBatch d (first :: more)) dp.main w.2 :=
      hpermits (snd_drawXids c (first :: more) ▸ List.mem_map_of_mem hw)
    dsimp only
    split
    · exact (sends_drawXids c _).trans (sends_drawXid _)
    · next x m others hwrites =>
      refine (sends_drawXids c _).trans ((sends_drawXid _).trans (sends_issue fun w hw => ?_))
      rcases List.mem_append.1 hw with hw | hw
      · exact hframes (hwrites ▸ hw)
      · obtain rfl := List.mem_singleton.1 hw
        exact permits_barrier hregistered

/-- So has the change of a port. -/
private theorem sends_enablePort (c : Controller) (d : DatapathId) (n : PortNumber)
    (enable : Bool) :
    Sends (c.Permits (.enablePort d n enable)) c (c.enablePort d n enable).1 := by
  refine sends_andThen fun dp _ => ?_
  split
  · exact .refl c
  · next p _ =>
    have hcoupled : (Call.enablePort d n enable).isCoupled = true := rfl
    exact sends_sendWithBarrier hcoupled { message := .portMod (PortMod.setEnabled p enable) } none

/-- What a call puts into queues has passed the policy. -/
theorem sends_perform (h : c.Linked) (call : Call) :
    Sends (c.Permits call) c (c.perform call).1 := by
  cases call with
  | send d auxiliary m => exact sends_send c d auxiliary m
  | sendRequest d o => exact sends_sendRequest c d o
  | sendWithCompanion d o companion => exact sends_sendWithCompanion c d o companion
  | sendBatch d ms => exact sends_sendBatch h d ms
  | enablePort d n enable => exact sends_enablePort c d n enable

/-- A call leaves the outline alone. -/
private theorem outline_perform (c : Controller) (call : Call) :
    (c.perform call).1.outline = c.outline := by
  cases call with
  | send d auxiliary m => exact outline_send_plain c d auxiliary m
  | sendRequest d o => exact outline_sendRequest c d o
  | sendWithCompanion d o companion => exact outline_sendWithCompanion c d o companion
  | sendBatch d ms => exact outline_sendBatch c d ms
  | enablePort d n enable => exact outline_enablePort c d n enable

/-! ## Sequences of calls -/

/-- What several calls have put into a queue is put together from the messages of each of them, in
the order of the calls, and no call has put anything there before it was made. -/
theorem utters_performAll (h : c.Linked) (calls : List Call) (l : LinkId) :
    ∃ parts : List (List Saying),
      List.Forall₂ (fun call ss => ∀ s ∈ ss, c.Permits call l s.message) calls parts ∧
      ∀ n, Utters l c (c.performAll (calls.take n)) (parts.take n).flatten := by
  induction calls generalizing c with
  | nil =>
    refine ⟨[], .nil, fun n => ?_⟩
    rw [List.take_nil, List.take_nil]
    exact (Quiet.refl c).utters
  | cons call calls ih =>
    have ho := outline_perform c call
    have hsends := sends_perform h call
    obtain ⟨ss, hss, hpermits⟩ := hsends.queues l
    obtain ⟨parts, hparts, hutters⟩ := ih (h.of_outline ho)
    -- the datapaths and their master are still the same
    have hparts' : List.Forall₂ (fun call ss => ∀ s ∈ ss, c.Permits call l s.message) calls parts :=
      hparts.imp fun _ _ hall s hs => (hall s hs).of_outline ho hsends.mastership
    refine ⟨ss :: parts, .cons hpermits hparts', fun n => ?_⟩
    cases n with
    | zero => exact (Quiet.refl c).utters
    | succ n => exact hss.trans (hutters n)

/-- In every run, datapaths are registered under their ids and have their main connections. -/
theorem linked_run (settings : Settings) (mastership : Mastership) (ops : List Operation) :
    (run { settings, mastership } ops).Linked := by
  intro d dp hdp
  obtain ⟨m, hm, hdp'⟩ := registered?_eq_some hdp
  obtain ⟨dp₀, hserves⟩ := (kept_run (kept_new settings mastership) ops).serves hm
  obtain rfl := Option.some.inj (hdp'.symm.trans hserves.datapath)
  obtain ⟨k, hk, -⟩ := hserves.main
  exact ⟨hserves.id_eq, k, hserves.main_eq ▸ hk⟩

/-- Callers cannot get around the policy. A call that is refused leaves everything as it was, in
whatever state it is made. And whatever calls are made one after the other, each of them puts only
messages into queues that are permitted to it. All this needs is that datapaths are registered
under their ids and have their main connections, which is so in every run. -/
theorem policy_calls :
    (∀ settings mastership ops, (run { settings, mastership } ops).Linked) ∧
    ∀ c : Controller, c.Linked →
      (∀ call e, (c.perform call).2 = .error e → e.isRefusal = true → (c.perform call).1 = c) ∧
      ∀ calls l, ∃ parts : List (List Saying),
        List.Forall₂ (fun call ss => ∀ s ∈ ss, c.Permits call l s.message) calls parts ∧
        ∀ n, Utters l c (c.performAll (calls.take n)) (parts.take n).flatten :=
  ⟨linked_run, fun _ h => ⟨fun call e => sparing_perform h call e, utters_performAll h⟩⟩

/-- A datapath that has another master: it may be asked for its configuration, but is not sent a
packet. -/
theorem policy_calls_slave :
    let connection := { Connection.new "" 10 0 with version := Version.v13 }
    let c : Controller := {
      settings := {}, mastership := .none, links := [{ connection }]
      datapaths := [(0, .new { datapathId := 5 } 0 1000)], registry := [(⟨5⟩, 0)] }
    c.Linked ∧
    (c.perform (.send ⟨5⟩ 0 (.packetOut {}))).2 =
      .error (.invalidArgument (.notMaster ⟨5⟩ .packetOut)) ∧
    (c.perform (.send ⟨5⟩ 0 (.packetOut {}))).1 = c ∧
    ∃ ss, Utters 0 c (c.perform (.sendRequest ⟨5⟩ { message := .getConfigRequest })).1 ss ∧
      (∀ s ∈ ss, c.Permits (.sendRequest ⟨5⟩ { message := .getConfigRequest }) 0 s.message) ∧
      (c.perform (.sendRequest ⟨5⟩ { message := .getConfigRequest })).1.queue 0 =
        [[4, 7, 0, 8, 0, 0, 0, 1]] := by
  intro connection c
  -- the registry has one entry, and it leads to the datapath with this id
  have hlinked : c.Linked := by
    intro d dp hdp
    obtain ⟨m, hm, hdp⟩ := registered?_eq_some hdp
    obtain ⟨e, he, rfl⟩ := Option.map_eq_some_iff.1 hm
    obtain rfl := List.mem_singleton.1 (List.mem_of_find?_eq_some he)
    obtain rfl := Option.some.inj hdp
    have hd : (⟨5⟩ : DatapathId) = d := by simpa using List.find?_some he
    exact ⟨hd, _, rfl⟩
  obtain ⟨hrefused, hqueued⟩ := policy_calls.2 c hlinked
  obtain ⟨parts, hparts, hutters⟩ := hqueued [.sendRequest ⟨5⟩ { message := .getConfigRequest }] 0
  -- a packet out is refused to a slave, a request for the configuration is not
  have hpacket : (c.perform (.send ⟨5⟩ 0 (.packetOut {}))).2 =
      .error (.invalidArgument (.notMaster ⟨5⟩ .packetOut)) := rfl
  cases hparts with
  | @cons _ ss _ _ hss hnone =>
    cases hnone
    have hss' := hutters 1
    rw [show (List.take 1 [ss]).flatten = ss from List.append_nil ss] at hss'
    exact ⟨hlinked, hpacket, hrefused _ _ hpacket rfl, ss, hss', hss, by decide +kernel⟩

end Controller

end Southbound
