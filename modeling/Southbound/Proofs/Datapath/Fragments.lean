import Southbound.Network.Peer
import Southbound.Proofs.Datapath.Exchanges

/-!
# Descriptions in fragments

A simulated switch cuts the list of its ports into as many pieces of one length as it may send
fragments, or fewer, and says with each fragment but the last that there is more. So whoever waits
for the description has it after the last fragment, unless the switch has no ports: then there is no
piece, nothing is sent, and the exchange does not end.

* `length_chunks_le`                how many pieces there are
* `Switch.forall₂_answers`          what is said, as the frames that are sent
* `Switch.portFragments_eq`         the fragments, counted from the first one
* `Descriptions.hearAll_fragments`  what is learnt from them
* `Switch.describes_iff`            when the answer is a description of the ports
-/

namespace Southbound

section

variable {α : Type}

/-- There is no piece only of nothing. -/
private theorem chunks_eq_nil_iff {n : Nat} {xs : List α} : chunks n xs = [] ↔ xs = [] := by
  cases xs with
  | nil => simp
  | cons x xs => simp [chunks]

/-- What fits into `k` pieces is not cut into more. -/
theorem length_chunks_le {n k : Nat} {xs : List α} (h : xs.length ≤ n * k) :
    (chunks n xs).length ≤ k := by
  fun_induction chunks n xs generalizing k with
  | case1 => exact Nat.zero_le k
  | case2 x xs ih =>
    -- the first piece takes one of the `k`
    cases k with
    | zero => simp at h
    | succ k =>
      rw [List.length_cons, Nat.mul_succ] at h
      have hrest : (xs.drop (n - 1)).length ≤ n * k := by
        rw [List.length_drop]
        omega
      have hle := ih hrest
      simp only [List.length_cons]
      omega

end

namespace Switch

variable {s : Switch} {x : Xid} {parts : List (List Port)}

/-- What a switch says in response to a message, all of it under the same transaction id. -/
def respond (s : Switch) (x : Xid) (m : Message) : List (Xid × Message) :=
  (s.answer m).map (x, ·)

/-- Fragment `i` of `n`, counted from 0. There is more to come with every one but the last. -/
def fragment (n : Nat) (part : List Port) (i : Nat) : Message := .multipartReply {
  kind := .portDesc
  flags := if i + 1 < n then MultipartReply.moreFlag else 0
  body := .ports part }

/-- A description of `ports` in response to request `x`, in at most `limit` fragments. -/
structure Describes (ports : List Port) (x : Xid) (limit : Nat) (parts : List (List Port))
    (said : List (Xid × Message)) : Prop where
  said_eq : said = parts.zipIdx.map fun p => (x, fragment parts.length p.1 p.2)
  pos : 0 < parts.length
  length_le : parts.length ≤ limit
  flatten_eq : parts.flatten = ports

/-! ## What is written -/

/-- The frames of messages, up to the first that cannot be written. -/
theorem forall₂_encodeAll (v : Version) (x : Xid) (ms : List Message) :
    ∃ sent, sent <+: ms ∧
      List.Forall₂ (fun m frame => Codec.encode v x m = .ok frame) sent
        (Peer.encodeAll v x ms) := by
  induction ms with
  | nil => exact ⟨[], List.prefix_rfl, .nil⟩
  | cons m ms ih =>
    unfold Peer.encodeAll
    split
    · next frame hframe =>
      obtain ⟨sent, hprefix, hframes⟩ := ih
      exact ⟨m :: sent, List.prefix_cons_inj m |>.2 hprefix, .cons hframe hframes⟩
    · exact ⟨[], List.nil_prefix, .nil⟩

/-- A peer writes what its switch says, as far as it has a form in the version of the switch. -/
theorem forall₂_answers {f : Frame} {m : Message} (hf : Peer.decode? f = some (x, m)) :
    ∃ sent, sent <+: s.respond x m ∧
      List.Forall₂ (fun p frame => Codec.encode s.profile.version p.1 p.2 = .ok frame) sent
        (Peer.answers s f) := by
  obtain ⟨sent, hprefix, hframes⟩ := forall₂_encodeAll s.profile.version x (s.answer m)
  refine ⟨sent.map (x, ·), hprefix.map _, ?_⟩
  rw [Peer.answers, hf, List.forall₂_map_left_iff]
  exact hframes

/-! ## The fragments -/

/-- All ports fit into the fragments there may be. -/
theorem length_ports_le (s : Switch) :
    s.profile.ports.length ≤ s.portsPerFragment * max s.habits.portFragments 1 := by
  unfold portsPerFragment
  dsimp only
  generalize hfragments : max s.habits.portFragments 1 = fragments
  have hpos : 0 < fragments := by omega
  -- a quotient that is rounded up makes up for the remainder
  have hdiv := Nat.div_add_mod (s.profile.ports.length + fragments - 1) fragments
  have hmod := Nat.mod_lt (s.profile.ports.length + fragments - 1) hpos
  generalize (s.profile.ports.length + fragments - 1) / fragments = q at *
  have hle : q * fragments ≤ max q 1 * fragments := Nat.mul_le_mul_right _ (Nat.le_max_left q 1)
  rw [Nat.mul_comm] at hdiv
  omega

/-- The fragments are the pieces in order, and only the last says that there is no more. -/
theorem portFragments_eq (parts : List (List Port)) :
    portFragments parts = parts.zipIdx.map fun p => fragment parts.length p.1 p.2 := by
  -- by induction with the number of fragments that were sent before
  suffices h : ∀ k, portFragments parts =
      (parts.zipIdx k).map fun p => fragment (k + parts.length) p.1 p.2 by
    simpa only [Nat.zero_add] using h 0
  fun_induction portFragments parts with
  | case1 => intro k; rfl
  | case2 ports => intro k; simp [portFragment, fragment]
  | case3 ports more hmore ih =>
    intro k
    have hlength : k + (ports :: more).length = k + 1 + more.length := by
      rw [List.length_cons]
      omega
    have hpos : 0 < more.length := List.length_pos_iff.2 hmore
    have hmore : fragment (k + 1 + more.length) ports k = portFragment ports false := by
      rw [fragment, if_pos (by omega)]
      rfl
    rw [ih (k + 1), hlength, List.zipIdx_cons, List.map_cons, hmore]

/-- What a switch with ports says in response to a request for them. -/
theorem describes_respond (s : Switch) (x : Xid) (hports : s.profile.ports ≠ []) :
    Describes s.profile.ports x (max s.habits.portFragments 1)
      (chunks s.portsPerFragment s.profile.ports) (s.describePorts.map (x, ·)) where
  said_eq := by
    rw [describePorts, portFragments_eq, List.map_map]
    rfl
  pos := List.length_pos_iff.2 (mt chunks_eq_nil_iff.1 hports)
  length_le := length_chunks_le s.length_ports_le
  flatten_eq := flatten_chunks _ _

/-- Silence is no description, not even of no ports. -/
theorem Describes.said_ne_nil {ports : List Port} {limit : Nat} {said : List (Xid × Message)}
    (h : Describes ports x limit parts said) : said ≠ [] := by
  intro hsaid
  have hlength := congrArg List.length (hsaid.symm.trans h.said_eq)
  have hpos := h.pos
  simp only [List.length_nil, List.length_map, List.length_zipIdx] at hlength
  omega

/-- A switch without ports says nothing. -/
theorem describePorts_eq_nil (hports : s.profile.ports = []) : s.describePorts = [] := by
  rw [describePorts, hports, chunks_nil]
  rfl

end Switch

namespace Descriptions

variable {d : Descriptions} {x : Xid}

/-- The last fragment ends the exchange, and the ports of all of them come behind those known. -/
theorem hearAll_fragments {parts : List (List Port)} (h : d.outstanding.find? x = some .ports)
    (hparts : parts ≠ []) : d.hearAll ((Switch.portFragments parts).map (x, ·)) =
      { d.close x with ports := some (d.ports.getD [] ++ parts.flatten) } := by
  fun_induction Switch.portFragments parts generalizing d with
  | case1 => exact absurd rfl hparts
  | case2 ports =>
    have hlast : d.take x (.reply { kind := .portDesc, flags := 0, body := .ports ports }) =
        (d.learn .ports (.ports ports)).close x := by
      rw [take_reply h, if_neg (by simp [MultipartReply.hasMore])]
    rw [List.flatten_singleton]
    exact hlast
  | case3 ports more hmore ih =>
    have hfirst : d.take x (.reply {
          kind := .portDesc, flags := MultipartReply.moreFlag, body := .ports ports }) =
        d.learn .ports (.ports ports) := by
      rw [take_reply h, if_pos (by simp [MultipartReply.hasMore, MultipartReply.moreFlag])]
    -- the exchange goes on, with the ports of the first fragment
    have hrest := ih (d := d.learn .ports (.ports ports)) h hmore
    rw [← hfirst] at hrest
    rw [List.flatten_cons, ← List.append_assoc]
    exact hrest.trans (hfirst ▸ rfl)

end Descriptions

namespace Switch

/-- The answer of a simulated switch to a request for its ports is a description of them, in no more
fragments than it may send, exactly if it has ports. Then an exchange that waits for the description
ends with it and has learnt these ports. A switch without ports says nothing, and the exchange does
not end. -/
theorem describes_iff (s : Switch) (x : Xid) (flags : UInt16) (body : Bytes) :
    let said := s.respond x (.multipartRequest { kind := .portDesc, flags, body })
    ((∃ parts, Describes s.profile.ports x (max s.habits.portFragments 1) parts said) ↔
      s.profile.ports ≠ []) ∧
    ∀ d : Descriptions, d.outstanding.find? x = some .ports →
      d.hearAll said = if s.profile.ports = [] then d else
        { d.close x with ports := some (d.ports.getD [] ++ s.profile.ports) } := by
  intro said
  have hsaid : said = s.describePorts.map (x, ·) := rfl
  by_cases hports : s.profile.ports = []
  -- without ports there is nothing to cut, hence not a single reply
  · have hnone : said = [] := by rw [hsaid, describePorts_eq_nil hports, List.map_nil]
    constructor
    · constructor
      · rintro ⟨parts, hdescribes⟩
        exact absurd hnone hdescribes.said_ne_nil
      · exact fun h => absurd hports h
    · intro d hd
      rw [hnone, if_pos hports]
      rfl
  · constructor
    · exact ⟨fun _ => hports, fun _ => ⟨_, s.describes_respond x hports⟩⟩
    · intro d hd
      have hpieces : chunks s.portsPerFragment s.profile.ports ≠ [] :=
        mt chunks_eq_nil_iff.1 hports
      rw [if_neg hports, hsaid, describePorts, Descriptions.hearAll_fragments hd hpieces,
        flatten_chunks]

/-- Five ports in at most three fragments. -/
def fivePorts : Switch where
  profile := { id := ⟨20⟩, ports := [1, 2, 3, 4, 5].map fun n => { number := n } }
  habits := { portFragments := 3 }

/-- Their description ends its own exchange and leaves the other one open. -/
theorem describes_iff_fivePorts :
    let said := fivePorts.respond 4 (.multipartRequest { kind := .portDesc })
    let d := (Descriptions.opened [(3, .device), (4, .ports)]).hearAll said
    (∃ parts, Describes fivePorts.profile.ports 4 3 parts said) ∧
      d.isExpecting 3 = true ∧ d.isExpecting 4 = false ∧
      d.ports = some fivePorts.profile.ports := by
  intro said d
  obtain ⟨hiff, hlearnt⟩ := describes_iff fivePorts 4 0 []
  have hd : d = _ := hlearnt (Descriptions.opened [(3, .device), (4, .ports)]) rfl
  refine ⟨hiff.2 (by decide), ?_⟩
  rw [hd]
  decide

/-- Nothing is said of no ports, so who asks for them goes on waiting. -/
theorem unanswered_without_ports :
    let s : Switch := { profile := { id := ⟨1⟩ } }
    let said := s.respond 5 (.multipartRequest { kind := .portDesc })
    let d := (Descriptions.opened [(5, .ports)]).hearAll said
    said = [] ∧ (¬ ∃ parts, Describes s.profile.ports 5 1 parts said) ∧
      d.isExpecting 5 = true ∧ d.ports = none := by
  intro s said d
  have hsaid : said = [] := congrArg (List.map (5, ·)) (s.describePorts_eq_nil rfl)
  have hd : d = Descriptions.opened [(5, .ports)] := congrArg _ hsaid
  refine ⟨hsaid, fun ⟨parts, hdescribes⟩ => hdescribes.said_ne_nil hsaid, ?_⟩
  rw [hd]
  decide

end Switch

end Southbound
