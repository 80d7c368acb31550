import Mathlib.Data.List.Find
import Southbound.Proofs.Controller.Hearing
import Southbound.Proofs.Controller.Sessions

/-!
# What listeners know of ports

Whoever takes the ports of a datapath from the event that it connected, and from then on does what
the news of its ports say, knows at any time which port there is under which number.
`PortView.after` is what is known in this way. It has nothing to do with port tables; that a table
and a view agree, and still agree when both have followed a message, is said here of single tables
and messages:

* `PortTable.IsTidy.ofPorts_toList` a view that begins with the list of a table
* `PortView.foldl_follow_news`      a view that follows the news of a message
-/

namespace Southbound

/-! ## Views -/

/-- What is known of the ports of a datapath: which port there is under each number. -/
abbrev PortView := PortNumber → Option Port

namespace PortView

def ofPorts (ports : List Port) : PortView := fun n => ports.find? (·.number = n)

def store (v : PortView) (p : Port) : PortView := fun n => if n = p.number then some p else v n

def forget (v : PortView) (m : PortNumber) : PortView := fun n => if n = m then none else v n

/-- What is known of the ports of `d` after one more event. -/
def follow (d : DatapathId) (v : Option PortView) : Event → Option PortView
  | .message _ => v
  | .datapath e =>
    if e.datapath = d then
      match e.kind with
      | .connected => e.info.map fun i => ofPorts i.ports
      | .ready => v
      | .portAdded | .portChanged => v.bind fun v => e.port.map v.store
      | .portRemoved => v.bind fun v => e.port.map fun p => v.forget p.number
      | .disconnected | .revoked => none
    else v

/-- What is known of the ports of `d` from a number of events. -/
def after (d : DatapathId) (es : List Event) : Option PortView := es.foldl (follow d) none

end PortView

/-- The event is about a port of a datapath. -/
def DatapathEventKind.isPort : DatapathEventKind → Bool
  | portAdded | portChanged | portRemoved => true
  | connected | ready | disconnected | revoked => false

/-- The event if it is about a port. -/
def Event.portNews? : Event → Option DatapathEvent
  | .message _ => none
  | .datapath e => if e.kind.isPort then some e else none

/-- What events tell of ports. -/
def portNews (es : List Event) : List DatapathEvent := es.filterMap Event.portNews?

/-! ## Tidy tables -/

namespace PortTable

/-- Every port stands under its own number, and none twice. -/
structure IsTidy (t : PortTable) : Prop where
  ordered : t.ports.Ordered
  number_eq : ∀ {n p}, (n, p) ∈ t.ports → p.number = n

variable {t : PortTable}

/-- A port is inserted under its own number. -/
private theorem IsTidy.insert (h : t.IsTidy) (p : Port) : (t.insert p).IsTidy where
  ordered := Keyed.ordered_put p.number p h.ordered
  number_eq {n q} hmem := by
    rcases Keyed.mem_put hmem with heq | hold
    · obtain ⟨rfl, rfl⟩ := Prod.mk.inj heq
      rfl
    · exact h.number_eq hold

/-- Erasing a port leaves the others where they are. -/
private theorem IsTidy.erase (h : t.IsTidy) (n : PortNumber) : (t.erase n).IsTidy :=
  ⟨Keyed.ordered_erase h.ordered, fun hmem => h.number_eq (List.mem_filter.1 hmem).1⟩

/-- A table that is made from a list of ports is tidy. -/
theorem isTidy_ofList (ports : List Port) : (ofList ports).IsTidy := by
  have hfold (t : PortTable) (ht : t.IsTidy) : (ports.foldl PortTable.insert t).IsTidy := by
    induction ports generalizing t with
    | nil => exact ht
    | cons p ports ih => exact ih _ (ht.insert p)
  exact hfold {} ⟨List.Pairwise.nil, nofun⟩

/-- A message keeps a table tidy. -/
theorem IsTidy.hear (h : t.IsTidy) (m : Message) : (t.hear m).IsTidy := by
  cases m with
  | portStatus s =>
    show (t.apply s).IsTidy
    unfold apply
    cases s.reason with
    | delete => exact h.erase s.port.number
    | add | modify => exact h.insert s.port
  | _ => exact h

/-- So does a description. -/
theorem IsTidy.settle (h : t.IsTidy) (d : Descriptions) : (d.settle t).IsTidy := by
  unfold Descriptions.settle
  split
  · exact isTidy_ofList _
  · exact h

/-- The list of a table holds what `get?` answers. -/
theorem IsTidy.get?_eq_some_iff (h : t.IsTidy) {n : PortNumber} {p : Port} :
    t.get? n = some p ↔ p ∈ t.toList ∧ p.number = n := by
  unfold toList get?
  rw [Keyed.mem_values h.ordered]
  constructor
  · intro hn
    exact ⟨⟨n, hn⟩, h.number_eq (Keyed.mem_of_find? hn)⟩
  · rintro ⟨⟨k, hk⟩, rfl⟩
    rw [h.number_eq (Keyed.mem_of_find? hk)]
    exact hk

/-- The ports of a tidy table are listed in the order of their numbers. -/
theorem IsTidy.pairwise_toList (h : t.IsTidy) :
    t.toList.Pairwise fun p q => p.number < q.number := by
  refine List.pairwise_map.2 (h.ordered.imp_of_mem fun {e f} he hf hlt => ?_)
  rw [h.number_eq he, h.number_eq hf]
  exact hlt

/-- Whoever looks for numbers in the list of a table finds what is in the table. -/
theorem IsTidy.ofPorts_toList (h : t.IsTidy) : PortView.ofPorts t.toList = t.get? := by
  funext n
  unfold PortView.ofPorts toList Keyed.values get? Keyed.find?
  rw [List.find?_map]
  congr 1
  refine List.find?_congr fun e he => ?_
  simp [h.number_eq he]

end PortTable

/-! ## Following events -/

namespace PortView

variable {d i : DatapathId} {e : Event} {es fs : List Event}

/-- Events can be followed in two parts. -/
theorem after_append (d : DatapathId) (es fs : List Event) :
    after d (es ++ fs) = fs.foldl (follow d) (after d es) := List.foldl_append

/-- What is told of another datapath makes no difference. -/
theorem follow_of_tells {kind : DatapathEventKind} (he : e.Tells kind i) (hd : d ≠ i)
    (v : Option PortView) : follow d v e = v := by
  obtain ⟨t, rfl, -, rfl⟩ := he
  exact if_neg (Ne.symm hd)

/-- That a datapath got ready says nothing of its ports. -/
theorem follow_of_ready (he : e.Tells .ready i) (v : Option PortView) : follow d v e = v := by
  obtain ⟨t, rfl, hk, -⟩ := he
  simp only [follow, hk, ite_self]

/-- Events that say nothing one by one say nothing together. -/
theorem foldl_follow_same (hes : ∀ e ∈ es, ∀ v, follow d v e = v) (v : Option PortView) :
    es.foldl (follow d) v = v := by
  induction es with
  | nil => rfl
  | cons e es ih =>
    obtain ⟨he, hrest⟩ := List.forall_mem_cons.1 hes
    rw [List.foldl_cons, he]
    exact ih hrest

/-- Events after which a datapath is known as it was before. -/
theorem after_append_same (hes : ∀ e ∈ es, ∀ v, follow d v e = v) (before : List Event) :
    after d (before ++ es) = after d before := by
  rw [after_append, foldl_follow_same hes]

/-- A view that agrees with a table agrees with it after a notification, of which the news tell. -/
theorem follow_apply (t : PortTable) (s : PortStatus) (d : DatapathId) :
    follow d (some t.get?) (.datapath {
        kind := Controller.portEventKind s.reason (t.get? s.port.number)
        datapath := d
        port := some s.port }) = some (t.apply s).get? := by
  have hview (v : PortView) (hv : ∀ n, v n = if n = s.port.number then s.outcome else t.get? n) :
      v = (t.apply s).get? := funext fun n => (hv n).trans (t.get?_apply s n).symm
  simp only [follow, Controller.portEventKind, ↓reduceIte]
  cases hr : s.reason with
  | delete =>
    refine congrArg some (hview _ fun n => ?_)
    simp [forget, PortStatus.outcome, hr]
  | add | modify =>
    -- whether the port was known or not, it is stored
    cases t.get? s.port.number <;> refine congrArg some (hview _ fun n => ?_) <;>
      simp [store, PortStatus.outcome, hr]

/-- The news of a message make of a view what the message makes of the table. -/
theorem foldl_follow_news {dp : DatapathOutline} (hannounced : dp.isAnnounced = true)
    (m : Message) :
    (dp.news m).foldl (follow dp.id) (some dp.ports.get?) = some (dp.ports.hear m).get? := by
  cases m with
  | portStatus s =>
    simp only [DatapathOutline.news, hannounced, ↓reduceIte]
    exact follow_apply dp.ports s dp.id
  | _ => rfl

/-- News of another datapath say nothing of this one. -/
theorem follow_news_of_ne {dp : DatapathOutline} (hd : d ≠ dp.id) {m : Message} :
    ∀ e ∈ dp.news m, ∀ v, follow d v e = v := by
  intro e he v
  cases dp.passes_news m e he with
  | message => rfl
  | port ht => exact if_neg fun heq => hd (heq.symm.trans ht)

end PortView

/-! ## News of ports -/

/-- What listeners are told of a notification: that a port came or changed is a matter of whether it
was known, not of what the switch says. -/
theorem portEventKind_iff (r : PortReason) (previous : Option Port) :
    (Controller.portEventKind r previous = .portRemoved ↔ r = .delete) ∧
    (Controller.portEventKind r previous = .portAdded ↔ r ≠ .delete ∧ previous = none) ∧
    (Controller.portEventKind r previous = .portChanged ↔ r ≠ .delete ∧ previous ≠ none) := by
  cases r <;> cases previous <;> simp [Controller.portEventKind]

/-- What a notification tells is about a port. -/
private theorem isPort_portEventKind (r : PortReason) (previous : Option Port) :
    (Controller.portEventKind r previous).isPort = true := by
  unfold Controller.portEventKind
  split <;> rfl

/-- The news of two lists of events are put one behind the other. -/
theorem portNews_append (es fs : List Event) : portNews (es ++ fs) = portNews es ++ portNews fs :=
  List.filterMap_append

/-- What tells that a datapath came or went is no news of a port. -/
theorem Event.Tells.portNews? {e : Event} {kind : DatapathEventKind} {d : DatapathId}
    (he : e.Tells kind d) (hk : kind.isPort = false) : e.portNews? = none := by
  obtain ⟨t, rfl, rfl, -⟩ := he
  simp [Event.portNews?, hk]

/-- What passes and is no news of a port is a message. -/
theorem Event.Passes.exists_message {e : Event} {d : DatapathId} (he : e.Passes d)
    (hnews : e.portNews? = none) : ∃ m, e = .message m := by
  cases he with
  | message m => exact ⟨m, rfl⟩
  | port ht hk =>
    rcases hk with hk | hk | hk <;> simp [Event.portNews?, hk, DatapathEventKind.isPort] at hnews

/-- A notification makes one piece of news of a datapath that listeners know. -/
theorem portNews_news {dp : DatapathOutline} (hannounced : dp.isAnnounced = true) (s : PortStatus) :
    portNews (dp.news (.portStatus s)) = [{
      kind := Controller.portEventKind s.reason (dp.ports.get? s.port.number)
      datapath := dp.id
      port := some s.port }] := by
  simp [portNews, DatapathOutline.news, hannounced, Event.portNews?, isPort_portEventKind]

end Southbound
