import Southbound.Proofs.Controller.Drift

/-!
# What a step of one connection can reach

All datapaths live in the same maps. A datapath is left alone if the state of its id in all of them
is what it was (`Controller.LeavesAlone`). Let some datapaths be spared, and let nothing that hangs
on another one belong to them (`Controller.Apart`). Then whatever is done for a connection that
belongs to none of them is `Controller.Confined`: it leaves them alone, and they stay apart from
the others.

A step for a connection changes no more than that connection (`Solo`), the datapath that it serves,
what a registered datapath with its id has, and who is registered under that id.
-/

namespace Southbound

/-! ## Addressees -/

/-- The datapath that a request was made to. -/
def Ledger.addressee? (l : Ledger) (u : Ticket) : Option DatapathId := (l.get? u).map (·.datapath)

private theorem Request.datapath_settle (o : Outcome) (r : Request) :
    (r.settle o).datapath = r.datapath := by
  unfold settle
  split <;> rfl

/-- Settling a request does not change whom any was made to. -/
theorem Ledger.addressee?_settle (l : Ledger) (t u : Ticket) (o : Outcome) :
    (l.settle t o).addressee? u = l.addressee? u := by
  rw [addressee?, get?_settle, Option.map_map]
  refine congrArg (Option.map · _) (funext fun r => ?_)
  show (if t = u then r.settle o else r).datapath = r.datapath
  split
  · exact r.datapath_settle o
  · rfl

namespace Tracker

variable {k k' : Tracker} {op : Operation} {u : Ticket}

/-- Neither does settling several. -/
private theorem addressee?_settleAll (l : Ledger) (es : List OpenRequest)
    (o : OpenRequest → Outcome) (u : Ticket) :
    (settleAll l es o).addressee? u = l.addressee? u := by
  induction es generalizing l with
  | nil => rfl
  | cons e es ih => exact (ih _).trans (l.addressee?_settle _ u _)

/-- What becomes of a request has nothing to do with whom it was made to. -/
theorem Step.addressee? (hstep : k.Step op k') (u : Ticket) :
    k'.ledger.addressee? u = k.ledger.addressee? u := by
  cases hstep with
  | enrolled | continued | ignored | removed => rfl
  | rejected | settled => exact k.ledger.addressee?_settle _ u _
  | pruned | cleared => exact addressee?_settleAll k.ledger _ _ u

/-- A ticket is absent from a table if no open request has it. -/
private theorem absent_iff : k.Absent u ↔ ¬ k.table.Lists u :=
  ⟨fun h ⟨_, _, he, hu⟩ => h he hu, fun h _ _ he hu => h ⟨_, _, he, hu⟩⟩

/-- An operation that is no claim reaches only who is listed. -/
theorem Sound.apply_of_not_lists (h : k.Sound) (hop : op.claim? = none) (hu : ¬ k.table.Lists u) :
    ¬ (k.apply op).table.Lists u ∧ (k.apply op).ledger.get? u = k.ledger.get? u := by
  have habsent : k.Absent u := absent_iff.2 hu
  obtain ⟨hstill, hget⟩ := habsent.step h (h.step op) fun _ hc => by
    rw [hop] at hc
    cases hc
  exact ⟨absent_iff.1 hstill, hget⟩

end Tracker

namespace Connection

/-- A connection belongs to its datapath at every stage. -/
private theorem datapath_enter (k : Connection) (s : Stage) :
    (k.enter s).datapath = k.datapath := by
  unfold enter
  split <;> rfl

theorem datapath_close (k : Connection) : k.close.datapath = k.datapath := k.datapath_enter _

theorem datapath_revoke (k : Connection) : k.revoke.datapath = k.datapath := k.datapath_enter _

end Connection

namespace Controller

variable {P : DatapathId → Prop} {c c' c'' : Controller} {l j m : LinkId}

/-! ## Who belongs where -/

/-- The id of the datapath that a connection belongs to. -/
def binding? (c : Controller) (j : LinkId) : Option DatapathId :=
  (c.connection? j).bind (·.datapath)

/-- A connection belongs where it says. -/
theorem binding?_of_connection? {k : Connection} (hk : c.connection? j = some k) :
    c.binding? j = k.datapath := by
  rw [binding?, hk]
  rfl

/-- A link belongs where its connection says. -/
theorem binding?_of_link? {k : Link} (hk : c.link? j = some k) :
    c.binding? j = k.connection.datapath :=
  binding?_of_connection? (congrArg (Option.map _) hk)

/-- Where a connection belongs depends on nothing but its link. -/
theorem binding?_congr (h : c'.link? j = c.link? j) : c'.binding? j = c.binding? j := by
  rw [binding?, connection?, h]
  rfl

/-- Connection `j` belongs to none of the datapaths in `P`. -/
def Foreign (P : DatapathId → Prop) (c : Controller) (j : LinkId) : Prop :=
  ∀ d, c.binding? j = some d → ¬ P d

/-- Whoever belongs to none of the datapaths does not while everybody belongs where they did. -/
theorem Foreign.congr (h : c.Foreign P j) (hbinding : ∀ j, c'.binding? j = c.binding? j) :
    c'.Foreign P j := fun d hd => h d ((hbinding j).symm.trans hd)

/-- What is filed of a datapath under connection `m` is in order, and if the datapath is not in `P`
neither its auxiliary connections nor its open requests have to do with one in `P`. -/
structure Clear (P : DatapathId → Prop) (c : Controller) (m : LinkId) (dp : Datapath) : Prop where
  main_eq : dp.main = m
  indexed : dp.requests.Indexed
  scheduled : dp.requests.Scheduled
  auxiliary : ¬ P dp.id → ∀ j ∈ dp.auxiliaries.values, c.Foreign P j
  requests : ¬ P dp.id → ∀ u d, dp.requests.Lists u → c.ledger.addressee? u = some d → ¬ P d

/-- Nothing that hangs on a datapath outside of `P` belongs to one in `P`. -/
structure Apart (P : DatapathId → Prop) (c : Controller) : Prop where
  datapath : ∀ {m dp}, c.datapath? m = some dp → c.Clear P m dp
  registered : ∀ {d m}, c.registry.find? d = some m → ¬ P d →
    c.Foreign P m ∧ ∀ dp, c.datapath? m = some dp → ¬ P dp.id

/-- The datapaths in `P` are as they were: what is known of them, with their open requests, who is
registered under their ids, what became of the requests that were made to them, and the connections
that belong to them, with their queues and sessions. -/
structure LeavesAlone (P : DatapathId → Prop) (c c' : Controller) : Prop where
  datapath? : ∀ {m dp}, P dp.id → (c'.datapath? m = some dp ↔ c.datapath? m = some dp)
  registry : ∀ {d}, P d → c'.registry.find? d = c.registry.find? d
  request : ∀ {u r}, P r.datapath → (c'.ledger.get? u = some r ↔ c.ledger.get? u = some r)
  link? : ∀ {j k d}, k.connection.datapath = some d → P d →
    (c'.link? j = some k ↔ c.link? j = some k)

/-- The datapaths in `P` are left alone, and everything belongs where it did. -/
structure Contained (P : DatapathId → Prop) (c c' : Controller) : Prop
    extends LeavesAlone P c c' where
  binding : ∀ j, c'.binding? j = c.binding? j
  addressee : ∀ u, c'.ledger.addressee? u = c.ledger.addressee? u

/-- Done for a connection that does not belong to the datapaths in `P`, a step leaves them alone if
they are apart from the others, which they remain. -/
def Confined (P : DatapathId → Prop) (l : LinkId) (c c' : Controller) : Prop :=
  c.Apart P → c.Foreign P l → c.Contained P c' ∧ c'.Apart P

theorem LeavesAlone.refl (P : DatapathId → Prop) (c : Controller) : c.LeavesAlone P c :=
  ⟨fun _ => Iff.rfl, fun _ => rfl, fun _ => Iff.rfl, fun _ _ => Iff.rfl⟩

/-- Datapaths left alone twice are left alone. -/
theorem LeavesAlone.trans (h : c.LeavesAlone P c') (h' : c'.LeavesAlone P c'') :
    c.LeavesAlone P c'' where
  datapath? hd := (h'.datapath? hd).trans (h.datapath? hd)
  registry hd := (h'.registry hd).trans (h.registry hd)
  request hd := (h'.request hd).trans (h.request hd)
  link? hk hd := (h'.link? hk hd).trans (h.link? hk hd)

/-- Two steps that leave everything where it belongs do so together. -/
theorem Contained.trans (h : c.Contained P c') (h' : c'.Contained P c'') : c.Contained P c'' :=
  ⟨h.toLeavesAlone.trans h'.toLeavesAlone, fun j => (h'.binding j).trans (h.binding j),
    fun u => (h'.addressee u).trans (h.addressee u)⟩

/-- Steps for the same connection can be confined one by one, as each keeps what the next one
needs. -/
theorem Confined.trans (h : Confined P l c c') (h' : Confined P l c' c'') :
    Confined P l c c'' := fun ha hl => by
  obtain ⟨hcontained, ha'⟩ := h ha hl
  obtain ⟨hcontained', ha''⟩ := h' ha' (hl.congr hcontained.binding)
  exact ⟨hcontained.trans hcontained', ha''⟩

/-- What is assumed may be used to see that a step is confined. -/
theorem confined_of (h : c.Apart P → c.Foreign P l → Confined P l c c') : Confined P l c c' :=
  fun ha hl => h ha hl ha hl

/-- What is filed stays clear as long as no connection comes to belong to a spared datapath. -/
theorem Clear.mono {dp : Datapath} (h : c.Clear P m dp)
    (hforeign : ∀ j, c.Foreign P j → c'.Foreign P j)
    (haddressee : ∀ u, c'.ledger.addressee? u = c.ledger.addressee? u) : c'.Clear P m dp :=
  ⟨h.main_eq, h.indexed, h.scheduled, fun hd j hj => hforeign j (h.auxiliary hd j hj),
    fun hd u d hu hud => h.requests hd u d hu ((haddressee u).symm.trans hud)⟩

/-- What is filed stays clear while everything belongs where it did. -/
theorem Clear.contained {dp : Datapath} (h : c.Clear P m dp) (hcontained : c.Contained P c') :
    c'.Clear P m dp :=
  h.mono (fun _ hj => hj.congr hcontained.binding) hcontained.addressee

/-- Other connections and the same requests. -/
theorem Clear.withAuxiliaries {dp dp' : Datapath} (h : c.Clear P m dp) (hmain : dp'.main = dp.main)
    (hid : dp'.id = dp.id) (hrequests : dp'.requests = dp.requests)
    (haux : ¬ P dp.id → ∀ j ∈ dp'.auxiliaries.values, j ∈ dp.auxiliaries.values ∨ c.Foreign P j) :
    c.Clear P m dp' := by
  refine ⟨hmain.trans h.main_eq, hrequests ▸ h.indexed, hrequests ▸ h.scheduled, ?_, ?_⟩
  · rw [hid]
    exact fun hd j hj => (haux hd j hj).elim (h.auxiliary hd j) id
  · rw [hid, hrequests]
    exact h.requests

/-- What is new is outside of `P`, and has nothing to do with it. -/
theorem Apart.step (h : c.Apart P) (hcontained : c.Contained P c')
    (hdatapath : ∀ {m dp}, c'.datapath? m = some dp →
      c.datapath? m = some dp ∨ ¬ P dp.id ∧ c.Clear P m dp)
    (hregistry : ∀ {d m}, c'.registry.find? d = some m → c.registry.find? d = some m ∨
      c.Foreign P m ∧ ∀ dp, c.datapath? m = some dp → ¬ P dp.id) : c'.Apart P where
  datapath hdp := ((hdatapath hdp).elim h.datapath And.right).contained hcontained
  registered {d m} hm hd := by
    obtain ⟨hforeign, hid⟩ := (hregistry hm).elim (fun hm => h.registered hm hd) id
    exact ⟨hforeign.congr hcontained.binding, fun dp hdp => (hdatapath hdp).elim (hid dp) And.left⟩

/-! ## One connection -/

/-- At most connection `l` changes, and belongs where it did. -/
structure Solo (l : LinkId) (c c' : Controller) : Prop where
  others : ∀ j, j ≠ l → c'.link? j = c.link? j
  own : c'.binding? l = c.binding? l
  datapaths : c'.datapaths = c.datapaths
  registry : c'.registry = c.registry
  ledger : c'.ledger = c.ledger

/-- Nothing changes but what is counted, told or planned. -/
theorem solo_of_eq (hlinks : c'.links = c.links) (hdatapaths : c'.datapaths = c.datapaths)
    (hregistry : c'.registry = c.registry) (hledger : c'.ledger = c.ledger) : Solo l c c' := by
  have hlink (j : LinkId) : c'.link? j = c.link? j := congrArg (·[j]?) hlinks
  exact ⟨fun j _ => hlink j, binding?_congr (hlink l), hdatapaths, hregistry, hledger⟩

theorem Solo.refl (c : Controller) : Solo l c c := solo_of_eq rfl rfl rfl rfl

/-- Two steps that change the same connection change no more together. -/
theorem Solo.trans (h : Solo l c c') (h' : Solo l c' c'') : Solo l c c'' :=
  ⟨fun j hj => (h'.others j hj).trans (h.others j hj), h'.own.trans h.own,
    h'.datapaths.trans h.datapaths, h'.registry.trans h.registry, h'.ledger.trans h.ledger⟩

/-- A connection that changes belongs where it did. -/
theorem Solo.binding (h : Solo l c c') (j : LinkId) : c'.binding? j = c.binding? j := by
  by_cases hj : j = l
  · exact hj ▸ h.own
  · exact binding?_congr (h.others j hj)

/-- No datapath changes with a connection. -/
theorem Solo.datapath? (h : Solo l c c') (m : LinkId) : c'.datapath? m = c.datapath? m :=
  congrArg (Keyed.find? m) h.datapaths

/-- A connection that does not belong to the datapaths in `P` does what it likes. -/
theorem Solo.confined_of_foreign (h : Solo j c c') (hj : c.Foreign P j) : Confined P l c c' := by
  intro ha _
  have hcontained : c.Contained P c' := by
    refine ⟨⟨fun _ => by rw [h.datapath?], fun _ => by rw [h.registry], fun _ => by rw [h.ledger],
      fun {i k d} hk hd => ?_⟩, h.binding, fun _ => by rw [h.ledger]⟩
    -- the connection that changed is bound to no id in `P`, before and after
    by_cases hi : i = j
    · subst hi
      refine ⟨fun hlink => absurd hd (hj d ?_), fun hlink => absurd hd (hj d ?_)⟩
      · exact (h.binding i).symm.trans ((binding?_of_link? hlink).trans hk)
      · exact (binding?_of_link? hlink).trans hk
    · rw [h.others i hi]
  exact ⟨hcontained, ha.step hcontained (fun hdp => .inl (h.datapath? _ ▸ hdp))
    fun hm => .inl (h.registry ▸ hm)⟩

/-- A step that changes one connection at most is confined to what it belongs to. -/
theorem Solo.confined (h : Solo l c c') : Confined P l c c' :=
  confined_of fun _ hl => h.confined_of_foreign hl

/-- Doing nothing is confined. -/
theorem confined_refl (c : Controller) : Confined P l c c := (Solo.refl c).confined

/-- So is whatever leaves the maps and the ledger alone. -/
theorem confined_of_eq (hlinks : c'.links = c.links) (hdatapaths : c'.datapaths = c.datapaths)
    (hregistry : c'.registry = c.registry) (hledger : c'.ledger = c.ledger) : Confined P l c c' :=
  (solo_of_eq hlinks hdatapaths hregistry hledger).confined

/-- A link may be changed as long as it belongs where it did. -/
private theorem solo_modifyLink {f : Link → Link}
    (hf : ∀ k, c.link? l = some k → (f k).connection.datapath = k.connection.datapath) :
    Solo l c (c.modifyLink l f) := by
  refine ⟨fun j hj => ?_, ?_, rfl, rfl, rfl⟩
  · rw [link?_modifyLink, if_neg hj]
  -- a change of no connection is none
  · cases hk : c.link? l with
    | none =>
      refine binding?_congr ?_
      rw [link?_modifyLink, if_pos rfl, hk]
      rfl
    | some k =>
      have hlink : (c.modifyLink l f).link? l = some (f k) := by
        rw [link?_modifyLink, if_pos rfl, hk]
        rfl
      rw [binding?_of_link? hlink, binding?_of_link? hk, hf k hk]

/-- A session may be changed at will. -/
theorem solo_modifySession (c : Controller) (l : LinkId) (f : Session → Session) :
    Solo l c (c.modifySession l f) := solo_modifyLink fun _ _ => rfl

/-- A connection may be changed as long as it belongs where it did. -/
theorem solo_modifyConnection (c : Controller) (l : LinkId) {f : Connection → Connection}
    (hf : ∀ k, (f k).datapath = k.datapath) : Solo l c (c.modifyConnection l f) :=
  solo_modifyLink fun k _ => hf k.connection

/-- A connection may enter any stage. -/
theorem solo_enter (c : Controller) (l : LinkId) (s : Stage) :
    Solo l c (c.modifyConnection l fun k => k.enter s) :=
  solo_modifyConnection c l fun k => k.datapath_enter s

private theorem solo_close (c : Controller) (l : LinkId) :
    Solo l c (c.modifyConnection l Connection.close) :=
  solo_modifyConnection c l Connection.datapath_close

/-- A connection in whose place there is one of the same datapath. -/
theorem solo_setConnection {k k' : Connection} (hk : c.connection? l = some k)
    (hd : k'.datapath = k.datapath) : Solo l c (c.modifyConnection l fun _ => k') := by
  refine solo_modifyLink fun i hi => ?_
  obtain rfl : i.connection = k := Option.some.inj ((congrArg _ hi).symm.trans hk)
  exact hd

/-! ## What is said on a connection -/

private theorem solo_drawXid (c : Controller) : Solo l c c.drawXid.1 := solo_of_eq rfl rfl rfl rfl

/-- What is written is counted for nobody in particular. -/
private theorem solo_countWrite (c : Controller) (message : Message) :
    Solo l c (c.countWrite message) := by
  cases message <;> exact solo_of_eq rfl rfl rfl rfl

/-- A frame is queued on one connection. -/
private theorem solo_writeFrame {frame : Bytes} (h : c.writeFrame l frame = .ok c') :
    Solo l c c' := by
  obtain ⟨k, hk, -, rfl⟩ := writeFrame_eq_ok h
  exact solo_setConnection hk rfl

/-- So is a message. -/
private theorem solo_write {x : Xid} {message : Message} (h : c.write l x message = .ok c') :
    Solo l c c' := by
  obtain ⟨k, frame, hk, -, -, rfl⟩ := write_eq_ok h
  refine Solo.trans (solo_setConnection hk ?_) (solo_countWrite _ message)
  rfl

/-- By induction on the messages, so are several. -/
theorem solo_writeAll (c : Controller) (l : LinkId) (ms : List (Xid × Message)) :
    Solo l c (c.writeAll l ms).1 := by
  induction ms generalizing c with
  | nil => exact .refl c
  | cons m ms ih =>
    unfold writeAll
    split
    · exact .refl c
    · next h => exact (solo_write h).trans (ih _)

/-- What follows a write changes one connection at most if the rest does. -/
private theorem solo_orEnd {written : Except Failure Controller}
    {next : Controller → Controller × SessionFate}
    (hnext : ∀ c', written = .ok c' → Solo l c (next c').1) :
    Solo l c (c.orEnd written next).1 := by
  cases written with
  | error e => exact .refl c
  | ok c' => exact hnext c' rfl

/-- An echo is answered on the connection that it came in on. -/
theorem solo_answerEcho (c : Controller) (l : LinkId) (x : Xid) (data : Bytes) :
    Solo l c (c.answerEcho l x data).1 :=
  solo_orEnd fun _ h => solo_write h

/-- A hello is refused on the connection that it came in on. -/
private theorem solo_refuse (c : Controller) (l : LinkId) (reason : String) :
    Solo l c (c.refuse l reason).1 := by
  unfold refuse
  split
  · exact .refl c
  · split
    · exact .refl c
    · next h => exact solo_writeFrame h

/-- A switch is greeted on its connection. -/
private theorem solo_greet (c : Controller) (l : LinkId) (v : Version) :
    Solo l c (c.greet l v) := by
  have hentered : Solo l c (c.modifyConnection l fun k =>
      { k with version := v }.enter .basicHandshake) :=
    solo_modifyConnection c l fun k => Connection.datapath_enter { k with version := v } _
  refine hentered.trans (Solo.trans (solo_drawXid _) ?_)
  exact solo_modifySession _ l fun s => { s with featuresXid := some (xidAt c.drawn) }

/-- A version is accepted for one connection. -/
private theorem solo_acceptVersion (c : Controller) (l : LinkId) (h : Header) (v : Version) :
    Solo l c (c.acceptVersion l h v).1 := by
  rw [acceptVersion_eq]
  split
  · exact .refl c
  · exact solo_orEnd fun c₁ h₁ => (solo_writeFrame h₁).trans
      ((solo_greet c₁ l v).trans (solo_orEnd fun _ h₂ => solo_write h₂))

/-- A hello concerns the connection that it came in on, and no other. -/
theorem solo_onHello (c : Controller) (l : LinkId) (h : Header) (message : Message) :
    Solo l c (c.onHello l h message).1 := by
  unfold onHello
  split
  · split
    · exact solo_acceptVersion c l h _
    · exact solo_refuse c l _
  · exact solo_refuse c l _

/-- Descriptions are asked for on one connection. -/
theorem solo_requestDescriptions (c : Controller) (l : LinkId) (kinds : List DescriptionKind) :
    Solo l c (c.requestDescriptions l kinds).1 := by
  induction kinds generalizing c with
  | nil => exact .refl c
  | cons kind kinds ih =>
    have hasked := (solo_drawXid (l := l) c).trans (solo_modifySession c.drawXid.1 l fun s =>
      { s with descriptions := s.descriptions.expect c.drawXid.2 kind })
    unfold requestDescriptions
    dsimp only
    split
    · exact hasked
    · next h => exact hasked.trans ((solo_write h).trans (ih _))

/-- A switch is configured on its connection. -/
theorem solo_configureSwitch (c : Controller) (l : LinkId) : Solo l c (c.configureSwitch l).1 := by
  unfold configureSwitch
  split
  · exact .refl c
  · exact (solo_drawXid c).trans (solo_writeAll _ l _)

/-- What comes in is counted for its connection. -/
theorem solo_received (c : Controller) (l : LinkId) : Solo l c (c.received l) := by
  have htouched : Solo l c (c.modifyConnection l fun k => k.touch c.clock) :=
    solo_modifyConnection c l fun _ => rfl
  exact htouched.trans (solo_of_eq rfl rfl rfl rfl)

/-- A frame that cannot be read concerns the connection that it came in on, and no other. -/
theorem solo_onUnreadable (c : Controller) (l : LinkId) (k : Link) (e : WireError) :
    Solo l c (c.onUnreadable l k e).1 := by
  unfold onUnreadable
  split
  · exact solo_refuse c l _
  · exact solo_of_eq rfl rfl rfl rfl

/-- The end of a connection is its own. -/
theorem solo_finish (c : Controller) (l : LinkId) : Solo l c (c.finish l) :=
  (solo_close c l).trans (solo_modifySession _ l _)

/-! ## One place at a time -/

/-- Connections are closed that do not belong to the datapaths in `P`. -/
theorem confined_closeLinks {ls : List LinkId} (h : ∀ j ∈ ls, c.Foreign P j) :
    Confined P l c (c.closeLinks ls) := by
  induction ls generalizing c with
  | nil => exact confined_refl c
  | cons j ls ih =>
    obtain ⟨hj, hls⟩ := List.forall_mem_cons.1 h
    have hclosed := solo_close c j
    exact (hclosed.confined_of_foreign hj).trans
      (ih fun i hi => (hls i hi).congr hclosed.binding)

/-- What is filed under connection `m` changes, where there was no datapath in `P` and is none. -/
theorem confined_place (m : LinkId) (hlink : ∀ j, c'.link? j = c.link? j)
    (hregistry : c'.registry = c.registry)
    (hothers : ∀ i, i ≠ m → c'.datapath? i = c.datapath? i)
    (hold : ∀ dp, c.datapath? m = some dp → ¬ P dp.id)
    (hnew : ∀ dp, c'.datapath? m = some dp → ¬ P dp.id ∧ c.Clear P m dp)
    (haddressee : ∀ u, c'.ledger.addressee? u = c.ledger.addressee? u)
    (hrequest : ∀ u r, P r.datapath → (c'.ledger.get? u = some r ↔ c.ledger.get? u = some r)) :
    Confined P l c c' := by
  intro ha _
  have hcontained : c.Contained P c' := by
    refine ⟨⟨fun {i dp} hd => ?_, fun _ => by rw [hregistry], hrequest _ _,
      fun _ _ => by rw [hlink]⟩, fun j => binding?_congr (hlink j), haddressee⟩
    -- what stands at `m` has an id outside `P`, before and after, so `P` sees no change there
    by_cases hi : i = m
    · subst hi
      exact ⟨fun hdp => absurd hd (hnew dp hdp).1, fun hdp => absurd hd (hold dp hdp)⟩
    · rw [hothers i hi]
  refine ⟨hcontained, ha.step hcontained (fun {i dp} hdp => ?_) fun hm => .inl (hregistry ▸ hm)⟩
  by_cases hi : i = m
  · subst hi
    exact .inr (hnew dp hdp)
  · exact .inl ((hothers i hi).symm.trans hdp)

/-- A datapath changes that was not in `P` and is not. -/
theorem confined_modifyDatapath {f : Datapath → Datapath}
    (h : ∀ dp, c.datapath? m = some dp → c.Clear P m dp →
      ¬ P dp.id ∧ ¬ P (f dp).id ∧ c.Clear P m (f dp)) :
    Confined P l c (c.modifyDatapath m f) := by
  refine confined_of fun ha _ => confined_place m (fun _ => rfl) rfl (fun i hi => ?_)
    (fun dp hdp => (h dp hdp (ha.datapath hdp)).1) (fun dp hdp => ?_) (fun _ => rfl)
    fun _ _ _ => Iff.rfl
  · rw [datapath?_modifyDatapath, if_neg hi]
  · rw [datapath?_modifyDatapath, if_pos rfl] at hdp
    obtain ⟨old, hold, rfl⟩ := Option.map_eq_some_iff.1 hdp
    exact (h old hold (ha.datapath hold)).2

/-- A datapath that is not in `P` changes in nothing that could have to do with one in `P`. -/
theorem confined_updateDatapath {f : Datapath → Datapath}
    (hid : ∀ dp, c.datapath? m = some dp → ¬ P dp.id)
    (hf : ∀ dp, (f dp).main = dp.main ∧ (f dp).id = dp.id ∧ (f dp).requests = dp.requests ∧
      ∀ j ∈ (f dp).auxiliaries.values, j ∈ dp.auxiliaries.values) :
    Confined P l c (c.modifyDatapath m f) :=
  confined_modifyDatapath fun dp hdp hclear => by
    obtain ⟨hmain, heq, hrequests, haux⟩ := hf dp
    exact ⟨hid dp hdp, heq ▸ hid dp hdp,
      hclear.withAuxiliaries hmain heq hrequests fun _ j hj => .inl (haux j hj)⟩

/-- A datapath outside of `P` is introduced on a connection that had none. -/
theorem confined_introduce (hnone : c.datapath? l = none) {f : SwitchFeatures}
    (hd : ¬ P ⟨f.datapathId⟩) (ageOut : Nat) :
    Confined P l c { c with datapaths := c.datapaths.put l (.new f l ageOut) } := by
  have hfind (i : LinkId) : Controller.datapath?
      { c with datapaths := c.datapaths.put l (.new f l ageOut) } i =
      if i = l then some (.new f l ageOut) else c.datapath? i := Keyed.find?_put _ _ _ _
  refine confined_place l (fun _ => rfl) rfl (fun i hi => (hfind i).trans (if_neg hi))
    (fun dp hdp => ?_) (fun dp hdp => ?_) (fun _ => rfl) fun _ _ _ => Iff.rfl
  · rw [hnone] at hdp
    cases hdp
  · rw [hfind, if_pos rfl] at hdp
    obtain rfl := Option.some.inj hdp
    refine ⟨hd, rfl, RequestTable.indexed_new _ _, RequestTable.scheduled_new _ _,
      fun _ => List.forall_mem_nil _, fun _ u d hlists => ?_⟩
    obtain ⟨x, e, he, -⟩ := hlists
    cases he

/-- An id outside of `P` goes to somebody else who has nothing to do with `P`. -/
theorem confined_registry {r : Keyed DatapathId LinkId} {d : DatapathId} (hd : ¬ P d)
    (hothers : ∀ i, i ≠ d → r.find? i = c.registry.find? i)
    (hnew : ∀ m, r.find? d = some m →
      c.Foreign P m ∧ ∀ dp, c.datapath? m = some dp → ¬ P dp.id) :
    Confined P l c { c with registry := r } := by
  intro ha _
  have hcontained : c.Contained P { c with registry := r } := by
    refine ⟨⟨fun _ => Iff.rfl, fun {i} hi => hothers i ?_, fun _ => Iff.rfl, fun _ _ => Iff.rfl⟩,
      fun _ => rfl, fun _ => rfl⟩
    -- an id in `P` is another one than `d`
    rintro rfl
    exact hd hi
  refine ⟨hcontained, ha.step hcontained .inl fun {i m} hm => ?_⟩
  have hm : r.find? i = some m := hm
  by_cases hi : i = d
  · exact .inr (hnew m (hi ▸ hm))
  · exact .inl ((hothers i hi).symm.trans hm)

/-- Requests to a datapath outside of `P` end. -/
theorem confined_track {α : Type} {f : Tracker → Tracker × α} {dp : Datapath}
    (op : Tracker.Operation) (hf : ∀ k, (f k).1 = k.apply op) (hop : op.claim? = none)
    (hdp : c.datapath? m = some dp) (hd : ¬ P dp.id) : Confined P l c (c.track dp f).1 := by
  refine confined_of fun ha _ => ?_
  have hclear := ha.datapath hdp
  obtain rfl := hclear.main_eq
  have hsound : Tracker.Sound ⟨c.ledger, dp.requests⟩ := ⟨hclear.indexed, hclear.scheduled⟩
  have hafter := hsound.apply op
  have haddressee := (hsound.step op).addressee?
  have hother {u : Ticket} := hsound.apply_of_not_lists (u := u) hop
  rw [← hf] at hafter haddressee hother
  -- the table of `dp` is the only place that changes; what it owes is kept because `op` claims
  -- nothing
  refine confined_place dp.main (fun _ => rfl) rfl (fun i hi => ?_) (fun dp' hdp' => ?_)
    (fun dp' hdp' => ?_) haddressee fun u r hr => ?_
  · rw [datapath?_track, if_neg hi]
  · exact Option.some.inj (hdp.symm.trans hdp') ▸ hd
  · rw [datapath?_track, if_pos rfl, hdp] at hdp'
    obtain rfl := Option.some.inj hdp'
    refine ⟨hd, rfl, hafter.indexed, hafter.scheduled, hclear.auxiliary,
      fun hd u d hlists hud => ?_⟩
    by_cases hu : dp.requests.Lists u
    · exact hclear.requests hd u d hu hud
    · exact absurd hlists (hother hu).1
  · -- only what is open in the table can end, and that was made to none in `P`
    by_cases hu : dp.requests.Lists u
    · refine ⟨fun hget => ?_, fun hget => ?_⟩ <;>
        refine absurd hr (hclear.requests hd u r.datapath hu ?_)
      · exact (haddressee u).symm.trans (congrArg (Option.map _) hget)
      · exact congrArg (Option.map _) hget
    · exact (hother hu).2 ▸ Iff.rfl

end Controller

end Southbound
