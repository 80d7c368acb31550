import Southbound.Proofs.Controller.Registry
import Southbound.Proofs.Dispatch.Registrations

/-!
# Contributors

Who contributes initial flows is said by the operations alone: a contributor `Contributes` if it was
added and was not removed since. What is offered to a datapath is the flows of those contributors
in the order of their registration, where one that has a flow that cannot be sent to the datapath is
passed over as a whole.

* `enlisted_run`  the contributors are those that contribute, in the order of their registration
* `offers_iff`    what is collected for a datapath is what contributors offer
-/

namespace Southbound.Controller

variable {c c' : Controller} {m : LinkId} {op : Operation} {ops : List Operation}
  {k : Contributor} {ks : List Contributor}

/-! ## What contributors offer -/

/-- What some contributors offer a datapath, one after the other. All the flows of a contributor are
taken if each of them passes the check for the version of the datapath, and none of them otherwise.
-/
inductive Offers (info : DatapathInfo) (hybrid : Bool) : List Contributor → List FlowMod → Prop
  | nobody : Offers info hybrid [] []
  | taken {k : Contributor} {ks : List Contributor} {flows : List FlowMod}
      (h : ∀ f ∈ k.flows info hybrid, f.validate info.version = .ok ())
      (others : Offers info hybrid ks flows) :
      Offers info hybrid (k :: ks) (k.flows info hybrid ++ flows)
  | dropped {k : Contributor} {ks : List Contributor} {flows : List FlowMod} {f : FlowMod}
      (hf : f ∈ k.flows info hybrid) (h : f.validate info.version ≠ .ok ())
      (others : Offers info hybrid ks flows) : Offers info hybrid (k :: ks) flows

/-- A flow passes the check or it does not. -/
private theorem isOk_validate_iff {f : FlowMod} {v : Version} :
    (f.validate v).isOk = true ↔ f.validate v = .ok () := by
  cases h : f.validate v with
  | ok => exact iff_of_true rfl rfl
  | error e => exact iff_of_false nofun nofun

/-- Only what contributors offer is collected. -/
private theorem offers_initialFlows (info : DatapathInfo) (hybrid : Bool)
    (ks : List Contributor) : Offers info hybrid ks (initialFlows ks info hybrid) := by
  induction ks with
  | nil => exact .nobody
  | cons k ks ih =>
    rw [initialFlows, List.flatMap_cons]
    dsimp only
    split
    · next hall =>
      exact .taken (fun f hf => isOk_validate_iff.1 (List.all_eq_true.1 hall f hf)) ih
    · next hsome =>
      -- one flow that does not pass is enough, and none of the list is offered
      rw [List.all_eq_true] at hsome
      push Not at hsome
      obtain ⟨f, hf, hno⟩ := hsome
      exact .dropped hf (mt isOk_validate_iff.2 hno) ih

/-- There is only one way to take all of what a contributor offers, or nothing. -/
private theorem Offers.unique {info : DatapathInfo} {hybrid : Bool} {flows flows' : List FlowMod}
    (h : Offers info hybrid ks flows) (h' : Offers info hybrid ks flows') : flows = flows' := by
  induction h generalizing flows' with
  | nobody =>
    cases h'
    rfl
  -- a list cannot both pass and fail, so the two rules never meet
  | taken hall _ ih =>
    cases h' with
    | taken _ others => rw [ih others]
    | dropped hf hno _ => exact absurd (hall _ hf) hno
  | dropped hf hno _ ih =>
    cases h' with
    | taken hall _ => exact absurd (hall _ hf) hno
    | dropped _ _ others => exact ih others

/-- What is collected for a datapath is what contributors offer. -/
theorem offers_iff {info : DatapathInfo} {hybrid : Bool} {flows : List FlowMod} :
    Offers info hybrid ks flows ↔ flows = initialFlows ks info hybrid :=
  ⟨fun h => h.unique (offers_initialFlows info hybrid ks),
    fun h => h ▸ offers_initialFlows info hybrid ks⟩

/-! ## Who contributes -/

/-- Does the operation add a contributor? -/
def Operation.isAddition : Operation → Bool
  | .addContributor _ => true
  | _ => false

/-- How many contributors have been added. -/
def additions (ops : List Operation) : ContributorId := ops.countP Operation.isAddition

/-- The contributor was added, under the next number, and has not been removed since. -/
def Contributes (ops : List Operation) (k : Contributor) : Prop :=
  ∃ before after, ops = before ++ .addContributor k.flows :: after ∧
    k.id = additions before + 1 ∧ .removeContributor k.id ∉ after

/-- These are the contributors of a history, in the order of their registration. -/
structure Enlisted (ops : List Operation) (ks : List Contributor) : Prop where
  inOrder : ks.Pairwise fun a b => a.id < b.id
  mem_iff : ∀ k, k ∈ ks ↔ Contributes ops k

/-- Only an addition counts. -/
private theorem additions_append (ops : List Operation) (op : Operation) :
    additions (ops ++ [op]) = additions ops + if op.isAddition then 1 else 0 := by
  rw [additions, List.countP_append, List.countP_singleton]
  rfl

/-- Who contributes after one more operation did before and is not removed, or is added by it. -/
private theorem contributes_append : Contributes (ops ++ [op]) k ↔
    (Contributes ops k ∧ op ≠ .removeContributor k.id) ∨
      (op = .addContributor k.flows ∧ k.id = additions ops + 1) := by
  constructor
  · rintro ⟨before, after, heq, hid, hkept⟩
    -- the addition is the last operation, or it lies before it
    rcases Listeners.concat_eq_append_cons.1 heq with ⟨rfl, rfl, rfl⟩ | ⟨after', rfl, rfl⟩
    · exact .inr ⟨rfl, hid⟩
    · rw [List.mem_append, List.mem_singleton, not_or] at hkept
      exact .inl ⟨⟨before, after', rfl, hid, hkept.1⟩, Ne.symm hkept.2⟩
  · rintro (⟨⟨before, after, rfl, hid, hkept⟩, hne⟩ | ⟨rfl, hid⟩)
    · refine ⟨before, after ++ [op], by simp, hid, ?_⟩
      rw [List.mem_append, List.mem_singleton, not_or]
      exact ⟨hkept, Ne.symm hne⟩
    · exact ⟨ops, [], rfl, hid, List.not_mem_nil⟩

/-- Numbers are handed out in turn. -/
private theorem Contributes.id_le (h : Contributes ops k) : k.id ≤ additions ops := by
  obtain ⟨before, after, rfl, hid, -⟩ := h
  rw [hid, additions, additions, List.countP_append, List.countP_cons_of_pos rfl]
  exact Nat.add_le_add_left (Nat.le_add_left 1 _) _

/-- Nothing but adding and removing them changes the contributors. -/
private theorem Kept.staff_apply (h : c.Kept) (hop : op.isStaffing = false) :
    (c.apply op).staff = c.staff := by
  by_cases hstep : ∃ patient, op = .provision patient
  · obtain ⟨patient, rfl⟩ := hstep
    rw [apply]
    cases hp : c.provision? patient with
    | none => rfl
    | some step => exact (h.provision? hp).1.staff
  · exact (proceeds_apply h.healthy (fun patient heq => hstep ⟨patient, heq⟩) hop).staff

/-- An addition takes the next number. -/
private theorem lastContributor_apply (h : c.Kept) (op : Operation) :
    (c.apply op).lastContributor = c.lastContributor + if op.isAddition then 1 else 0 := by
  cases hop : op.isStaffing with
  | false =>
    have hnone : op.isAddition = false := by cases op <;> first | rfl | cases hop
    rw [hnone]
    exact congrArg Prod.snd (h.staff_apply hop)
  | true =>
    cases op with
    | addContributor | removeContributor => rfl
    | _ => cases hop

/-- So in a run the last number is how many were added. -/
private theorem lastContributor_run (h : c.Kept) (hnone : c.lastContributor = 0)
    (ops : List Operation) : (c.run ops).lastContributor = additions ops := by
  induction ops using List.reverseRecOn with
  | nil => exact hnone
  | append_singleton ops op ih =>
    rw [run_concat, lastContributor_apply (kept_run h ops), ih, additions_append]

/-- One more operation keeps the list of contributors what it has to be. -/
private theorem Enlisted.apply (h : Enlisted ops c.contributors) (hkept : c.Kept)
    (hlast : c.lastContributor = additions ops) (op : Operation) :
    Enlisted (ops ++ [op]) (c.apply op).contributors := by
  cases hop : op.isStaffing with
  | false =>
    have hsame : (c.apply op).contributors = c.contributors :=
      congrArg Prod.fst (hkept.staff_apply hop)
    refine hsame ▸ ⟨h.inOrder, fun k => ?_⟩
    rw [h.mem_iff, contributes_append]
    refine ⟨fun hk => .inl ⟨hk, ?_⟩, fun hk => hk.elim And.left fun hadded => ?_⟩
    · rintro rfl
      cases hop
    · obtain ⟨rfl, -⟩ := hadded
      cases hop
  | true =>
    cases op with
    | addContributor flows =>
      -- the new one has a number greater than those of all others, and comes last
      refine ⟨List.pairwise_append.2 ⟨h.inOrder, List.pairwise_singleton _ _, ?_⟩, fun k => ?_⟩
      · intro a ha b hb
        rw [List.mem_singleton.1 hb]
        exact Nat.lt_succ_of_le (hlast ▸ ((h.mem_iff a).1 ha).id_le)
      · rw [contributes_append, ← h.mem_iff]
        refine List.mem_append.trans (or_congr ⟨fun hk => ⟨hk, nofun⟩, And.left⟩ ?_)
        rw [List.mem_singleton]
        constructor
        · rintro rfl
          exact ⟨rfl, congrArg (· + 1) hlast⟩
        · rintro ⟨hflows, hid⟩
          obtain ⟨id, flows'⟩ := k
          obtain rfl : flows = flows' := Operation.addContributor.inj hflows
          obtain rfl : id = c.lastContributor + 1 := hlast ▸ hid
          rfl
    | removeContributor id =>
      refine ⟨h.inOrder.filter _, fun k => ?_⟩
      rw [contributes_append, ← h.mem_iff]
      refine List.mem_filter.trans ⟨fun ⟨hk, hne⟩ => .inl ⟨hk, ?_⟩, fun hk => ?_⟩
      · rintro heq
        exact of_decide_eq_true hne (Operation.removeContributor.inj heq).symm
      · obtain ⟨hk, hne⟩ := hk.resolve_right nofun
        exact ⟨hk, decide_eq_true fun heq => hne (heq ▸ rfl)⟩
    | _ => cases hop

/-- A controller has the contributors of its history, in the order of their registration. -/
theorem enlisted_run (settings : Settings) (mastership : Mastership) (ops : List Operation) :
    Enlisted ops (run { settings, mastership } ops).contributors := by
  have hkept (ops : List Operation) : (run { settings, mastership } ops).Kept :=
    kept_run (kept_new settings mastership) ops
  -- from the end, because the ids count the additions so far
  induction ops using List.reverseRecOn with
  | nil =>
    refine ⟨.nil, fun k => ⟨nofun, ?_⟩⟩
    rintro ⟨before, after, heq, -⟩
    simp at heq
  | append_singleton ops op ih =>
    rw [run_concat]
    exact ih.apply (hkept ops) (lastContributor_run (hkept []) rfl ops) op

end Southbound.Controller
