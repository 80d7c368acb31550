import Mathlib.Data.List.Induction
import Mathlib.Data.List.Nodup
import Southbound.Proofs.Controller.Hearing
import Southbound.Proofs.Keyed

/-!
# Exchanges that go on at once

A switch is asked for several descriptions under different transaction ids, and what it sends in
response comes in any order: in fragments, with bodies nobody asked for, with errors after partial
replies, late, or under ids of no request. What is known in the end is said here in terms of what
came in response to each request on its own (`responses`), and only as far as the end of that
exchange (`exchange`):

* `Descriptions.outstanding_takeAll`  the exchanges that are still open
* `Descriptions.project_takeAll`      what one exchange teaches is a fold over its responses
* `Descriptions.collects_responses`   all of it together
-/

namespace Southbound

/-- What a switch sends in response to a request: a reply or a fragment of one, or an error. -/
inductive Response where
  | reply (r : MultipartReply)
  | refusal
deriving DecidableEq

namespace Response

/-- Nothing more is to come in response to the request. -/
def isLast : Response → Bool
  | reply r => !r.hasMore
  | refusal => true

def isRefusal : Response → Bool
  | reply _ => false
  | refusal => true

def descriptor? : Response → Option DeviceDescriptor
  | reply { body := .desc descriptor, .. } => some descriptor
  | _ => none

def ports? : Response → Option (List Port)
  | reply { body := .ports ports, .. } => some ports
  | _ => none

/-- The responses up to and including the one that ends the exchange. -/
def upToLast : List Response → List Response
  | [] => []
  | r :: rs => r :: if r.isLast then [] else upToLast rs

/-- A response behind the last one does not count. -/
private theorem upToLast_concat (rs : List Response) (r : Response) :
    upToLast (rs ++ [r]) = if rs.any isLast then upToLast rs else upToLast rs ++ [r] := by
  induction rs with
  | nil => cases hr : r.isLast <;> simp [upToLast]
  | cons s rs ih =>
    rw [List.cons_append, upToLast, upToLast, List.any_cons]
    cases hs : s.isLast with
    | true => simp
    | false =>
      rw [ih]
      cases rs.any isLast <;> simp

/-- A refusal is not followed by anything. -/
theorem any_isRefusal_upToLast (rs : List Response) :
    (upToLast rs).any isRefusal = true ↔ (upToLast rs).getLast? = some refusal := by
  induction rs with
  | nil => simp [upToLast]
  | cons r rs ih =>
    rw [upToLast, List.any_cons]
    cases r with
    | refusal => simp [isRefusal, isLast]
    | reply r =>
      -- a reply with more to come is not the last; a refusal always is
      cases hmore : r.hasMore with
      | false => simp [isRefusal, isLast, hmore]
      | true =>
        simp only [isRefusal, isLast, hmore, Bool.not_true, Bool.false_or, Bool.false_eq_true,
          ↓reduceIte, ih, List.getLast?_cons]
        cases (upToLast rs).getLast? <;> simp

end Response

/-- What came in response to request `x`. -/
def responses (x : Xid) (rs : List (Xid × Response)) : List Response :=
  (rs.filter fun r => r.1 = x).map (·.2)

/-- What came in response to request `x` before the exchange was over. -/
def exchange (x : Xid) (rs : List (Xid × Response)) : List Response :=
  Response.upToLast (responses x rs)

/-- The exchange under `x` is over. -/
def isOver (x : Xid) (rs : List (Xid × Response)) : Bool := (responses x rs).any Response.isLast

/-- The first response is one to its request and to no other. -/
private theorem responses_cons (x : Xid) (r : Xid × Response) (rs : List (Xid × Response)) :
    responses x (r :: rs) = if r.1 = x then r.2 :: responses x rs else responses x rs := by
  by_cases h : r.1 = x <;> simp [responses, h]

/-- So is the last. -/
private theorem responses_concat (x : Xid) (rs : List (Xid × Response)) (r : Xid × Response) :
    responses x (rs ++ [r]) = if r.1 = x then responses x rs ++ [r.2] else responses x rs := by
  by_cases h : r.1 = x <;> simp [responses, h]

/-- An exchange is over with its first last response. -/
private theorem isOver_cons (x : Xid) (r : Xid × Response) (rs : List (Xid × Response)) :
    isOver x (r :: rs) = (decide (r.1 = x) && r.2.isLast || isOver x rs) := by
  unfold isOver
  rw [responses_cons]
  by_cases h : r.1 = x <;> simp [h]

/-- A response is part of the exchange until that is over. -/
private theorem exchange_concat (x : Xid) (rs : List (Xid × Response)) (r : Xid × Response) :
    exchange x (rs ++ [r]) =
      if r.1 = x ∧ isOver x rs = false then exchange x rs ++ [r.2] else exchange x rs := by
  unfold exchange isOver
  rw [responses_concat]
  by_cases h : r.1 = x
  · rw [if_pos h, Response.upToLast_concat]
    cases (responses x rs).any Response.isLast <;> simp [h]
  · simp [h]

/-- What is under `x` in a map from which entries were left out by their keys. -/
theorem Keyed.find?_filter_fst {κ α : Type} [DecidableEq κ] (p : κ → Bool) (x : κ) (m : Keyed κ α) :
    Keyed.find? x (m.filter fun e => p e.1) = if p x then m.find? x else none := by
  induction m with
  | nil => simp
  | cons e m ih =>
    -- whether the first entry stays depends on its key alone
    by_cases hp : p e.1 = true
    · rw [List.filter_cons_of_pos (p := fun e : κ × α => p e.1) hp, Keyed.find?_cons,
        Keyed.find?_cons, ih]
      by_cases hx : e.1 = x
      · subst hx
        simp [hp]
      · simp [hx]
    · rw [List.filter_cons_of_neg (p := fun e : κ × α => p e.1) hp, Keyed.find?_cons, ih]
      by_cases hx : e.1 = x
      · subst hx
        simp [hp]
      · simp [hx]

namespace Descriptions

/-- Takes what came in response to request `x`. -/
def take (d : Descriptions) (x : Xid) : Response → Descriptions
  | .reply r => (d.onReply x r).1
  | .refusal => (d.onError x).1

def takeAll (d : Descriptions) (rs : List (Xid × Response)) : Descriptions :=
  rs.foldl (fun d r => d.take r.1 r.2) d

/-- The exchanges that begin with a number of requests. -/
def opened (requests : List (Xid × DescriptionKind)) : Descriptions :=
  requests.foldl (fun d q => d.expect q.1 q.2) {}

/-- Responses are taken one after the other. -/
private theorem takeAll_concat (d : Descriptions) (rs : List (Xid × Response))
    (r : Xid × Response) :
    d.takeAll (rs ++ [r]) = (d.takeAll rs).take r.1 r.2 := by
  simp [takeAll]

/-! ## One response -/

variable {d : Descriptions} {x : Xid} {k : DescriptionKind}

/-- What belongs to no open exchange changes nothing. -/
theorem take_unknown (h : d.outstanding.find? x = none) (r : Response) : d.take x r = d := by
  cases r with
  | reply r => simp [take, onReply, h]
  | refusal => simp [take, onError, h]

/-- A reply teaches what it says, and closes its exchange unless there is more to come. -/
theorem take_reply (h : d.outstanding.find? x = some k) (r : MultipartReply) :
    d.take x (.reply r) = if r.hasMore then d.learn k r.body else (d.learn k r.body).close x := by
  simp [take, onReply, h]

/-- A refusal closes its exchange, and is remembered of the table features. -/
private theorem take_refusal (h : d.outstanding.find? x = some k) :
    d.take x .refusal =
      if k = .tableFeatures then { d.close x with noTableFeatures := true } else d.close x := by
  simp [take, onError, h]

/-- A request that is not outstanding need not be erased. -/
private theorem erase_unknown {m : Keyed Xid DescriptionKind} (h : m.find? x = none) :
    m.erase x = m := by
  refine List.filter_eq_self.2 fun e he => ?_
  have hall := List.find?_eq_none.1 (Option.map_eq_none_iff.1 h)
  simpa using hall e he

/-! ## What each of the responses teaches -/

/-- A descriptor takes the place of those before it. -/
def learnDescriptor (known : Option DeviceDescriptor) (r : Response) : Option DeviceDescriptor :=
  r.descriptor?.or known

/-- Ports come behind those before them. -/
def learnPorts (known : Option (List Port)) (r : Response) : Option (List Port) :=
  match r.ports? with
  | some part => addPart known part
  | none => known

def learnRefusal (known : Bool) (r : Response) : Bool := known || r.isRefusal

/-- A body teaches something only if it is what was asked for. -/
private theorem learn_eq (d : Descriptions) (k : DescriptionKind) (r : MultipartReply) :
    d.learn k r.body = { d with
      descriptor := if k = .device then learnDescriptor d.descriptor (.reply r) else d.descriptor
      ports := if k = .ports then learnPorts d.ports (.reply r) else d.ports } := by
  obtain ⟨kind, flags, body⟩ := r
  cases k <;> cases body <;> rfl

/-- A response teaches what its exchange asked for, and nothing else. -/
theorem take_eq (d : Descriptions) (x : Xid) (r : Response) : d.take x r =
    { outstanding := if r.isLast then d.outstanding.erase x else d.outstanding
      descriptor := if d.outstanding.find? x = some .device then learnDescriptor d.descriptor r
        else d.descriptor
      ports := if d.outstanding.find? x = some .ports then learnPorts d.ports r else d.ports
      noTableFeatures := if d.outstanding.find? x = some .tableFeatures
        then learnRefusal d.noTableFeatures r else d.noTableFeatures } := by
  -- a response is taken as what its request asked for
  cases hfind : d.outstanding.find? x with
  | none => simp [take_unknown hfind, erase_unknown hfind]
  | some k =>
    cases r with
    | reply r =>
      rw [take_reply hfind, learn_eq]
      cases hmore : r.hasMore <;>
        simp [close, Response.isLast, hmore, learnRefusal, Response.isRefusal]
    | refusal =>
      rw [take_refusal hfind]
      cases k with
      | device | ports => rfl
      | tableFeatures => simp [close, Response.isLast, learnRefusal, Response.isRefusal]

/-- The descriptor is learnt from responses to the request for it alone. -/
private theorem descriptor_take (d : Descriptions) (x : Xid) (r : Response) :
    (d.take x r).descriptor =
      if d.outstanding.find? x = some .device then learnDescriptor d.descriptor r
      else d.descriptor := congrArg descriptor (d.take_eq x r)

/-- So are the ports. -/
private theorem ports_take (d : Descriptions) (x : Xid) (r : Response) :
    (d.take x r).ports =
      if d.outstanding.find? x = some .ports then learnPorts d.ports r else d.ports :=
  congrArg ports (d.take_eq x r)

/-- So is that there are no table features. -/
private theorem noTableFeatures_take (d : Descriptions) (x : Xid) (r : Response) :
    (d.take x r).noTableFeatures =
      if d.outstanding.find? x = some .tableFeatures then learnRefusal d.noTableFeatures r
      else d.noTableFeatures := congrArg noTableFeatures (d.take_eq x r)

/-! ## All responses -/

/-- The exchanges that are left are those that are not over. -/
theorem outstanding_takeAll (d : Descriptions) (rs : List (Xid × Response)) :
    (d.takeAll rs).outstanding = d.outstanding.filter fun e => !isOver e.1 rs := by
  induction rs generalizing d with
  | nil => exact (List.filter_eq_self.2 fun _ _ => rfl).symm
  | cons r rs ih =>
    have htake := congrArg outstanding (d.take_eq r.1 r.2)
    rw [show d.takeAll (r :: rs) = (d.take r.1 r.2).takeAll rs from rfl, ih, htake]
    split
    · next hlast =>
      -- the last response removes its own id, which is then over whatever follows
      rw [Keyed.erase, List.filter_filter]
      refine List.filter_congr fun e _ => ?_
      rw [isOver_cons, hlast, Bool.and_true, Bool.not_or, Bool.and_comm]
      simp [eq_comm]
    · next hmore =>
      refine List.filter_congr fun e _ => ?_
      rw [isOver_cons]
      simp [hmore]

/-- By induction on the responses, a request is outstanding until its exchange is over. -/
private theorem find?_takeAll (d : Descriptions) (rs : List (Xid × Response)) (x : Xid) :
    (d.takeAll rs).outstanding.find? x = if isOver x rs then none else d.outstanding.find? x := by
  rw [outstanding_takeAll, Keyed.find?_filter_fst fun y => !isOver y rs]
  cases isOver x rs <;> rfl

section Project

variable {β : Type} {π : Descriptions → β} {g : β → Response → β}
  (hstep : ∀ (d : Descriptions) (x : Xid) (r : Response),
    π (d.take x r) = if d.outstanding.find? x = some k then g (π d) r else π d)

include hstep

/-- What is learnt from the exchanges of one kind is a fold over the responses of the only one
there is, as far as they belong to it. -/
theorem project_takeAll (hx : ∀ y, d.outstanding.find? y = some k ↔ y = x)
    (rs : List (Xid × Response)) : π (d.takeAll rs) = (exchange x rs).foldl g (π d) := by
  -- by induction on the responses from the last one back, as each goes to what the others left
  induction rs using List.reverseRecOn with
  | nil => rfl
  | append_singleton rs r ih =>
    have hopen : (d.takeAll rs).outstanding.find? r.1 = some k ↔
        r.1 = x ∧ isOver x rs = false := by
      rw [find?_takeAll]
      cases hover : isOver r.1 rs with
      | true =>
        simp only [↓reduceIte, reduceCtorEq, false_iff, not_and, Bool.not_eq_false]
        rintro rfl
        exact hover
      | false =>
        simp only [Bool.false_eq_true, ↓reduceIte, hx]
        refine ⟨?_, And.left⟩
        rintro rfl
        exact ⟨rfl, hover⟩
    rw [takeAll_concat, hstep, exchange_concat, ih]
    by_cases h : r.1 = x ∧ isOver x rs = false
    · rw [if_pos (hopen.2 h), if_pos h, List.foldl_concat]
    · rw [if_neg (fun hfind => h (hopen.1 hfind)), if_neg h]

/-- Nothing is learnt of a kind that nobody asked for. -/
private theorem project_takeAll_of_none (hx : ∀ y, d.outstanding.find? y ≠ some k)
    (rs : List (Xid × Response)) : π (d.takeAll rs) = π d := by
  induction rs using List.reverseRecOn with
  | nil => rfl
  | append_singleton rs r ih =>
    have hclosed : (d.takeAll rs).outstanding.find? r.1 ≠ some k := by
      rw [find?_takeAll]
      split
      · exact (Option.some_ne_none k).symm
      · exact hx r.1
    rw [takeAll_concat, hstep, if_neg hclosed, ih]

end Project

/-! ## What comes of it -/

/-- The last descriptor counts. -/
private theorem foldl_learnDescriptor (known : Option DeviceDescriptor) (rs : List Response) :
    rs.foldl learnDescriptor known = (rs.filterMap Response.descriptor?).getLast?.or known := by
  induction rs generalizing known with
  | nil => rfl
  | cons r rs ih =>
    rw [List.foldl_cons, ih, learnDescriptor, List.filterMap_cons]
    cases r.descriptor? with
    | none => rfl
    | some descriptor => cases h : (rs.filterMap Response.descriptor?).getLast? <;>
        simp [List.getLast?_cons, h]

/-- All the ports count, in order. -/
private theorem foldl_learnPorts (known : Option (List Port)) (rs : List Response) :
    rs.foldl learnPorts known = (rs.filterMap Response.ports?).foldl addPart known := by
  induction rs generalizing known with
  | nil => rfl
  | cons r rs ih =>
    rw [List.foldl_cons, ih, learnPorts, List.filterMap_cons]
    cases r.ports? <;> rfl

/-- One refusal is enough. -/
private theorem foldl_learnRefusal (known : Bool) (rs : List Response) :
    rs.foldl learnRefusal known = (known || rs.any Response.isRefusal) := by
  induction rs generalizing known with
  | nil => simp
  | cons r rs ih => rw [List.foldl_cons, ih, learnRefusal, List.any_cons, Bool.or_assoc]

/-- The ports of all parts, one behind the other; `none` if there is no part. -/
def joinParts : List (List Port) → Option (List Port)
  | [] => none
  | part :: parts => some (part :: parts).flatten

/-- The parts of an answer are joined. -/
private theorem foldl_addPart_none (parts : List (List Port)) :
    parts.foldl addPart none = joinParts parts := by
  cases parts with
  | nil => rfl
  | cons part parts => exact foldl_addPart_some part parts

/-! ## The requests -/

/-- The requests are put in one after the other. -/
private theorem outstanding_opened (requests : List (Xid × DescriptionKind)) :
    (opened requests).outstanding =
      requests.foldl (fun (m : Keyed Xid DescriptionKind) q => m.put q.1 q.2) [] := by
  suffices h : ∀ d : Descriptions, (requests.foldl (fun d q => d.expect q.1 q.2) d).outstanding =
      requests.foldl (fun m q => m.put q.1 q.2) d.outstanding from h {}
  induction requests with
  | nil => exact fun _ => rfl
  | cons q requests ih => exact fun d => ih (d.expect q.1 q.2)

/-- Nothing is known of what is asked for. -/
theorem opened_eq (requests : List (Xid × DescriptionKind)) :
    opened requests = { outstanding := (opened requests).outstanding } := by
  suffices h : ∀ m : Keyed Xid DescriptionKind,
      ∃ m', requests.foldl (fun d q => d.expect q.1 q.2) { outstanding := m } =
        ({ outstanding := m' } : Descriptions) by
    obtain ⟨m', hm'⟩ := h []
    rw [show opened requests = { outstanding := m' } from hm']
  induction requests with
  | nil => exact fun m => ⟨m, rfl⟩
  | cons q requests ih => exact fun m => ih (m.put q.1 q.2)

/-- As ids do not repeat, none of them takes the place of another. -/
private theorem find?_putEach {requests : List (Xid × DescriptionKind)}
    (hids : (requests.map (·.1)).Nodup) (m : Keyed Xid DescriptionKind) (x : Xid)
    (k : DescriptionKind) :
    (requests.foldl (fun m q => m.put q.1 q.2) m).find? x = some k ↔
      (x, k) ∈ requests ∨ x ∉ requests.map (·.1) ∧ m.find? x = some k := by
  induction requests generalizing m with
  | nil => simp
  | cons q requests ih =>
    obtain ⟨y, j⟩ := q
    obtain ⟨hy, hids⟩ := List.nodup_cons.1 hids
    rw [List.foldl_cons, ih hids, Keyed.find?_put]
    -- ids differ, so the first request with an id is the only one
    by_cases hx : x = y
    · subst hx
      have hnone : (x, k) ∉ requests := fun hmem => hy (List.mem_map_of_mem (f := (·.1)) hmem)
      simp [hy, hnone, eq_comm]
    · simp [hx]

/-- So each request is outstanding. -/
private theorem find?_opened {requests : List (Xid × DescriptionKind)}
    (hids : (requests.map (·.1)).Nodup) :
    (opened requests).outstanding.find? x = some k ↔ (x, k) ∈ requests := by
  rw [outstanding_opened, find?_putEach hids]
  simp

/-- There is at most one request of a kind. -/
theorem find?_opened_iff {requests : List (Xid × DescriptionKind)}
    (hids : (requests.map (·.1)).Nodup) (hkinds : (requests.map (·.2)).Nodup)
    (hx : (x, k) ∈ requests) (y : Xid) :
    (opened requests).outstanding.find? y = some k ↔ y = x := by
  rw [find?_opened hids]
  refine ⟨fun hy => ?_, fun hy => hy ▸ hx⟩
  exact congrArg Prod.fst (List.inj_on_of_nodup_map hkinds hy hx rfl)

/-- A kind that is not asked for is not outstanding. -/
private theorem find?_opened_ne {requests : List (Xid × DescriptionKind)}
    (hids : (requests.map (·.1)).Nodup) (hk : k ∉ requests.map (·.2)) (y : Xid) :
    (opened requests).outstanding.find? y ≠ some k := by
  rw [Ne, find?_opened hids]
  exact fun hy => hk (List.mem_map_of_mem hy)

/-- What is known after a number of requests and of responses. -/
structure Collected (requests : List (Xid × DescriptionKind)) (rs : List (Xid × Response))
    (d : Descriptions) : Prop where
  /-- Every exchange has had a reply that announces no more, or an error. -/
  isComplete : d.isComplete = true ↔
    ∀ q ∈ requests, ∃ r ∈ responses q.1 rs, r.isLast = true
  descriptor : ∀ x, (x, .device) ∈ requests →
    d.descriptor = ((exchange x rs).filterMap Response.descriptor?).getLast?
  noDescriptor : .device ∉ requests.map (·.2) → d.descriptor = none
  ports : ∀ x, (x, .ports) ∈ requests →
    d.ports = joinParts ((exchange x rs).filterMap Response.ports?)
  noPorts : .ports ∉ requests.map (·.2) → d.ports = none
  noTableFeatures : d.noTableFeatures = true ↔
    ∃ x, (x, .tableFeatures) ∈ requests ∧ (exchange x rs).getLast? = some .refusal
  /-- Nothing is taken any more under the id of an exchange that is over, or of none. -/
  ignores : ∀ x, x ∉ requests.map (·.1) ∨ (∃ r ∈ responses x rs, r.isLast = true) →
    (∀ r, d.onReply x r = (d, false)) ∧ d.onError x = (d, none)
  /-- How the exchanges are interleaved makes no difference. -/
  order : ∀ others : List (Xid × Response),
    (∀ q ∈ requests, responses q.1 others = responses q.1 rs) →
      (opened requests).takeAll others = d

/-- An exchange is over if some response was the last. -/
private theorem isOver_iff {x : Xid} {rs : List (Xid × Response)} :
    isOver x rs = true ↔ ∃ r ∈ responses x rs, r.isLast = true :=
  List.any_eq_true

/-- Nothing but the requests is outstanding. -/
private theorem mem_opened {requests : List (Xid × DescriptionKind)} {e : Xid × DescriptionKind}
    (he : e ∈ (opened requests).outstanding) : e ∈ requests := by
  rw [outstanding_opened] at he
  -- what was there before has to be general in the induction
  suffices h : ∀ m : Keyed Xid DescriptionKind, e ∈ requests.foldl (fun m q => m.put q.1 q.2) m →
      e ∈ requests ∨ e ∈ m from (h [] he).resolve_right List.not_mem_nil
  clear he
  induction requests with
  | nil => exact fun _ => .inr
  | cons q requests ih =>
    intro m hm
    rcases ih (m.put q.1 q.2) hm with h | h
    · exact .inl (List.mem_cons_of_mem _ h)
    · rcases Keyed.mem_put h with rfl | h
      · exact .inl List.mem_cons_self
      · exact .inr h

/-- What is known does not depend on the order in which the responses to different requests
come. -/
theorem takeAll_congr {requests : List (Xid × DescriptionKind)}
    (hids : (requests.map (·.1)).Nodup) (hkinds : (requests.map (·.2)).Nodup)
    {rs others : List (Xid × Response)}
    (h : ∀ q ∈ requests, responses q.1 others = responses q.1 rs) :
    (opened requests).takeAll others = (opened requests).takeAll rs := by
  have hexchange {x : Xid} {k : DescriptionKind} (hx : (x, k) ∈ requests) :
      exchange x others = exchange x rs := congrArg Response.upToLast (h _ hx)
  -- of each kind there is one request, or none
  have hproject {β : Type} {π : Descriptions → β} {g : β → Response → β} {k : DescriptionKind}
      (hstep : ∀ (d : Descriptions) (x : Xid) (r : Response),
        π (d.take x r) = if d.outstanding.find? x = some k then g (π d) r else π d) :
      π ((opened requests).takeAll others) = π ((opened requests).takeAll rs) := by
    by_cases hk : k ∈ requests.map (·.2)
    · obtain ⟨⟨x, _⟩, hx, rfl⟩ := List.mem_map.1 hk
      have honly := find?_opened_iff hids hkinds hx
      rw [project_takeAll hstep honly, project_takeAll hstep honly, hexchange hx]
    · have hnone := find?_opened_ne hids hk
      rw [project_takeAll_of_none hstep hnone, project_takeAll_of_none hstep hnone]
  have houtstanding : ((opened requests).takeAll others).outstanding =
      ((opened requests).takeAll rs).outstanding := by
    rw [outstanding_takeAll, outstanding_takeAll]
    refine List.filter_congr fun e he => ?_
    rw [isOver, isOver, h e (mem_opened he)]
  have hdescriptor := hproject descriptor_take
  have hports := hproject ports_take
  have hrefusal := hproject noTableFeatures_take
  generalize (opened requests).takeAll others = d at *
  generalize (opened requests).takeAll rs = d' at *
  cases d
  cases d'
  simp_all

/-- The descriptions are complete when every exchange is over. -/
private theorem isComplete_takeAll {requests : List (Xid × DescriptionKind)}
    (hids : (requests.map (·.1)).Nodup) (rs : List (Xid × Response)) :
    ((opened requests).takeAll rs).isComplete = true ↔
      ∀ q ∈ requests, ∃ r ∈ responses q.1 rs, r.isLast = true := by
  rw [isComplete, outstanding_takeAll, List.isEmpty_iff, List.filter_eq_nil_iff]
  simp only [← isOver_iff, Bool.not_eq_true', Bool.not_eq_false]
  refine ⟨fun h q hq => h q ?_, fun h q hq => h q (mem_opened hq)⟩
  exact Keyed.mem_of_find? ((find?_opened hids).2 hq)

/-- What is known after any number of requests for different things, under different ids, and any
sequence of responses. -/
theorem collects_responses (requests : List (Xid × DescriptionKind))
    (hids : (requests.map (·.1)).Nodup) (hkinds : (requests.map (·.2)).Nodup)
    (rs : List (Xid × Response)) : Collected requests rs ((opened requests).takeAll rs) where
  isComplete := isComplete_takeAll hids rs
  descriptor x hx := by
    rw [project_takeAll descriptor_take (find?_opened_iff hids hkinds hx), foldl_learnDescriptor,
      opened_eq, Option.or_none]
  noDescriptor hk := by
    rw [project_takeAll_of_none descriptor_take (find?_opened_ne hids hk), opened_eq]
  ports x hx := by
    rw [project_takeAll ports_take (find?_opened_iff hids hkinds hx), foldl_learnPorts, opened_eq,
      foldl_addPart_none]
  noPorts hk := by
    rw [project_takeAll_of_none ports_take (find?_opened_ne hids hk), opened_eq]
  noTableFeatures := by
    -- the kinds differ, so at most one request asks for table features
    by_cases hk : .tableFeatures ∈ requests.map (·.2)
    · obtain ⟨⟨x, _⟩, hx, rfl⟩ := List.mem_map.1 hk
      have honly := find?_opened_iff hids hkinds hx
      rw [project_takeAll noTableFeatures_take honly, foldl_learnRefusal, opened_eq, Bool.false_or,
        exchange, Response.any_isRefusal_upToLast]
      refine ⟨fun hlast => ⟨x, hx, hlast⟩, ?_⟩
      rintro ⟨y, hy, hlast⟩
      rwa [(honly y).1 ((find?_opened hids).2 hy)] at hlast
    · rw [project_takeAll_of_none noTableFeatures_take (find?_opened_ne hids hk), opened_eq]
      refine ⟨fun h => absurd h Bool.false_ne_true, ?_⟩
      rintro ⟨y, hy, -⟩
      exact absurd (List.mem_map_of_mem hy) hk
  ignores x hx := by
    -- what never was opened or is over by now is not outstanding
    have hnone : ((opened requests).takeAll rs).outstanding.find? x = none := by
      rw [find?_takeAll]
      split
      · rfl
      · next hopen =>
        have hx := hx.resolve_right fun hover => hopen (isOver_iff.2 hover)
        refine Option.eq_none_iff_forall_ne_some.2 fun k hk => hx ?_
        exact List.mem_map_of_mem (f := (·.1)) ((find?_opened hids).1 hk)
    exact ⟨fun r => by rw [onReply, hnone], by rw [onError, hnone]⟩
  order others h := takeAll_congr hids hkinds h

/-- Two answers that come in between each other, the ports in two parts with a body of another kind
among them, a refusal, and a part that comes when all is over. -/
theorem collects_responses_interleaved :
    let requests := [(7, DescriptionKind.device), (8, .ports), (9, .tableFeatures)]
    let part (n : PortNumber) (flags : UInt16) : Response :=
      .reply { kind := .portDesc, flags, body := .ports [{ number := n }] }
    let device (name : String) (flags : UInt16) : Response :=
      .reply { kind := .desc, flags, body := .desc { manufacturer := name } }
    let rs := [(8, part 1 1), (7, device "A" 1), (9, .refusal), (8, .reply ⟨.flow, 1, .raw [0]⟩),
      (7, device "B" 0), (8, part 2 0), (8, part 3 0), (6, .refusal)]
    let d := (opened requests).takeAll rs
    (requests.map (·.1)).Nodup ∧ (requests.map (·.2)).Nodup ∧ Collected requests rs d ∧
      d = { descriptor := some { manufacturer := "B" },
            ports := some [{ number := 1 }, { number := 2 }], noTableFeatures := true } :=
  ⟨by decide, by decide, collects_responses _ (by decide) (by decide) _, by decide⟩

end Descriptions

end Southbound
