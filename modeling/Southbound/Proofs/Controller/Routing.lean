import Southbound.Proofs.Controller.Attachments
import Southbound.Proofs.Controller.Policy

/-!
# Which way messages go

A message for an auxiliary id goes on the connection that was attached last under that id, as long
as that one is open, and otherwise on the main connection (`Traced.select_eq`). It is queued there
and nowhere else, or the caller is told that it was not (`goesOn_send`). The end of a connection
takes no other one out of its place (`keeps_endSession`).
-/

namespace Southbound.Controller

variable {c c' : Controller} {bs : List Attachment} {l m j : LinkId} {d : DatapathId} {x : UInt8}
  {dp : Datapath}

/-! ## The choice of a connection -/

/-- The connection for an auxiliary id of the datapath of `m`: the one that was attached last under
it if that is open, and otherwise the main one. -/
def route (c : Controller) (bs : List Attachment) (m : LinkId) (x : UInt8) : LinkId :=
  match latest bs m x with
  | some l => if x ≠ 0 ∧ c.isClosed l = false then l else m
  | none => m

/-- The outline has the auxiliary connections of the datapath. -/
private theorem attached?_outline (hdp : c.datapath? m = some dp) (x : UInt8) :
    c.outline.attached? m x = dp.auxiliaries.find? x :=
  congrArg (Option.bind · _) (datapath?_outline hdp)

/-- The connection that is selected is the one that the attachments so far lead to. -/
theorem Traced.select_eq (h : c.Traced bs) (hsound : c.outline.Sound)
    (hdp : c.datapath? dp.main = some dp) (x : UInt8) :
    dp.select c.isClosed x = c.route bs dp.main x := by
  have hlatest {l : LinkId} (hl : dp.auxiliaries.find? x = some l) :
      latest bs dp.main x = some l :=
    h.attached _ _ _ ((attached?_outline hdp x).trans hl)
  have hfound {l : LinkId} (hl : latest bs dp.main x = some l) (hopen : c.isClosed l = false) :
      dp.auxiliaries.find? x = some l :=
    (attached?_outline hdp x).symm.trans
      (h.attached?_of_open hsound (exists_of_latest hl) hopen)
  unfold Datapath.select route
  by_cases hx : x = 0
  · rw [if_pos hx]
    split <;> simp [hx]
  · rw [if_neg hx]
    cases hl : latest bs dp.main x with
    | none =>
      cases hfind : dp.auxiliaries.find? x with
      | none => rfl
      | some l' => cases (hlatest hfind).symm.trans hl
    | some l =>
      cases hclosed : c.isClosed l with
      | false => simp [hfound hl hclosed, hclosed, hx]
      | true =>
        -- a closed connection may still be in its place, or not any more
        cases hfind : dp.auxiliaries.find? x with
        | none => simp [hclosed]
        | some l' =>
          obtain rfl := Option.some.inj ((hlatest hfind).symm.trans hl)
          simp [hclosed]

/-! ## Sending -/

/-- A message that is written is the last in the queue of its connection, and in no other. -/
theorem queue_of_write {y : Xid} {message : Message} (h : c.write l y message = .ok c') :
    ∃ k frame, c.connection? l = some k ∧ k.fault? = none ∧
      Codec.encode k.version y message = .ok frame ∧
      ∀ j, c'.queue j = c.queue j ++ if j = l then [frame] else [] := by
  obtain ⟨k, frame, hk, hfault, hframe, rfl⟩ := write_eq_ok h
  refine ⟨k, frame, hk, hfault, hframe, fun j => ?_⟩
  rw [quiet_countWrite]
  obtain ⟨k', hk', rfl⟩ := connection?_eq_some hk
  by_cases hj : j = l
  · subst hj
    simp only [queue, connection?, modifyConnection, link?_modifyLink, ↓reduceIte, hk']
    rfl
  · simp only [queue, connection?, modifyConnection, link?_modifyLink, if_neg hj, List.append_nil]

/-- A message is written if its connection has no fault and its version has a form for it. -/
private theorem write_eq_ok_iff {y : Xid} {message : Message} :
    (∃ c', c.write l y message = .ok c') ↔
    ∃ k frame, c.connection? l = some k ∧ k.fault? = none ∧
      Codec.encode k.version y message = .ok frame := by
  refine ⟨fun ⟨c', h⟩ => ?_, fun ⟨k, frame, hk, hfault, hframe⟩ => ?_⟩
  · obtain ⟨k, frame, hk, hfault, hframe, -⟩ := queue_of_write h
    exact ⟨k, frame, hk, hfault, hframe⟩
  · rw [write, hk]
    simp only [Connection.send, hframe, Connection.sendFrame, hfault]
    exact ⟨_, rfl⟩

/-- A message that is permitted is written on the selected connection, or fails with that write. -/
private theorem send_of_permit {message : Message} (h : c.permit d [message] .plain = .ok dp)
    (x : UInt8) :
    c.send d x message =
      match c.drawXid.1.write (dp.select c.isClosed x) (xidAt c.drawn) message with
      | .error e => (c.drawXid.1, .error e)
      | .ok c' => (c', .ok ()) := by
  rw [send, h]
  rfl

/-- What it comes to that a message is sent to `d` under an auxiliary id, if it is to go on
connection `l`. -/
structure GoesOn (c : Controller) (d : DatapathId) (x : UInt8) (message : Message) (l : LinkId) :
    Prop where
  /-- It is sent if it may be and can be written on that connection; no other is tried. -/
  ok_iff : (c.send d x message).2 = .ok () ↔
    (∃ dp, c.permit d [message] .plain = .ok dp) ∧ ∃ k frame, c.connection? l = some k ∧
      k.fault? = none ∧ Codec.encode k.version (xidAt c.drawn) message = .ok frame
  queued : (c.send d x message).2 = .ok () → ∃ k frame, c.connection? l = some k ∧
    Codec.encode k.version (xidAt c.drawn) message = .ok frame ∧
    ∀ j, (c.send d x message).1.queue j = c.queue j ++ if j = l then [frame] else []
  failed : ∀ e, (c.send d x message).2 = .error e → c.Quiet (c.send d x message).1

/-- A message goes on the selected connection. -/
theorem goesOn_send (hdp : c.registered? d = some dp) (x : UInt8) (message : Message) :
    c.GoesOn d x message (dp.select c.isClosed x) := by
  -- sending is permitted and then written; each can fail, and then nothing was queued
  cases hpermit : c.permit d [message] .plain with
  | error e =>
    have hsend : c.send d x message = (c, .error e) := by
      rw [send, hpermit]
      rfl
    refine ⟨⟨fun hok => ?_, fun h => ?_⟩, fun hok => ?_, fun _ _ => ?_⟩
    · rw [hsend] at hok
      cases hok
    · obtain ⟨⟨dp', hdp'⟩, -⟩ := h
      cases hdp'.symm.trans hpermit
    · rw [hsend] at hok
      cases hok
    · rw [hsend]
      exact .refl c
  | ok dp' =>
    obtain rfl := Option.some.inj ((permit_single hpermit).1.symm.trans hdp)
    have hsend := send_of_permit hpermit x
    cases hwritten : c.drawXid.1.write (dp'.select c.isClosed x) (xidAt c.drawn) message with
    | error e =>
      rw [hwritten] at hsend
      refine ⟨⟨fun hok => ?_, fun h => ?_⟩, fun hok => ?_, fun _ _ => ?_⟩
      · rw [hsend] at hok
        cases hok
      · have hwrite : ∃ c₁, c.drawXid.1.write (dp'.select c.isClosed x) (xidAt c.drawn) message =
            .ok c₁ := write_eq_ok_iff.2 h.2
        obtain ⟨c₁, hc₁⟩ := hwrite
        cases hc₁.symm.trans hwritten
      · rw [hsend] at hok
        cases hok
      · rw [hsend]
        exact quiet_of_links rfl
    | ok c₁ =>
      rw [hwritten] at hsend
      obtain ⟨k, frame, hk, hfault, hframe, hqueue⟩ := queue_of_write hwritten
      refine ⟨⟨fun _ => ⟨⟨dp', hpermit⟩, k, frame, hk, hfault, hframe⟩, fun _ => ?_⟩,
        fun _ => ⟨k, frame, hk, hframe, ?_⟩, fun e he => ?_⟩
      · rw [hsend]
      · rw [hsend]
        exact hqueue
      · rw [hsend] at he
        cases he

/-! ## The end of a connection -/

/-- The end of another connection changes neither the main one nor who is attached. -/
private theorem keeps_connectionClosed (h : c.outline.Sound) {k : Link} (hk : c.link? j = some k)
    (hm : c.outline.main? d = some m) (hj : j ≠ m) (hx : c.outline.attached? m x ≠ some j) :
    (c.connectionClosed j).outline.main? d = some m ∧
      (c.connectionClosed j).outline.attached? m x = c.outline.attached? m x := by
  rcases connectionClosed_cases h hk with hout | ⟨d', m', dp', -, hdp', hfind, hout⟩ |
    ⟨d', dp', e, hm', -, -, hout⟩
  · rw [hout]
    exact ⟨hm, rfl⟩
  · rw [hout]
    refine ⟨hm, ?_⟩
    rw [Outline.attached?, Outline.datapath?_updateDatapath]
    split
    · next hmm =>
      -- what is detached is attached under another id
      subst hmm
      have hother : x ≠ k.connection.auxiliary := by
        rintro rfl
        exact hx (Option.bind_eq_some_iff.2 ⟨dp', hdp', hfind⟩)
      rw [Outline.attached?, hdp']
      exact (Keyed.find?_erase _ x dp'.auxiliaries).trans (if_neg hother)
    · rfl
  · rw [hout]
    constructor
    · rw [Outline.main?_tell, Outline.main?_unregister, if_neg, hm]
      rintro rfl
      exact hj (Option.some.inj (hm'.symm.trans hm))
    · rw [Outline.attached?, Outline.datapath?_tell, Outline.datapath?_unregister,
        if_neg (Ne.symm hj)]
      rfl

/-- The end of connection `j` takes no datapath out of the registry but its own, and no connection
out of its place but `j`. -/
theorem keeps_endSession (h : c.outline.Sound) (hm : c.outline.main? d = some m) (hj : j ≠ m)
    (hx : c.outline.attached? m x ≠ some j) : (c.endSession j).outline.main? d = some m ∧
      (c.endSession j).outline.attached? m x = c.outline.attached? m x := by
  cases hk : c.link? j with
  | none =>
    have hsame : c.endSession j = c := by simp only [endSession, hk]
    rw [hsame]
    exact ⟨hm, rfl⟩
  | some k =>
    -- a session ends once, and what it closes is neither the main connection nor the one attached
    cases hover : k.session.isOver with
    | true =>
      have hsame : c.endSession j = c := by simp only [endSession, hk, hover, ↓reduceIte]
      rw [hsame]
      exact ⟨hm, rfl⟩
    | false =>
      obtain ⟨heq, k₁, hk₁, -⟩ := endSession_eq hk hover
      rw [heq]
      exact keeps_connectionClosed (outline_finish c j ▸ h.finish j) hk₁ hm hj hx

/-! ## Runs -/

/-- How messages for an auxiliary id of a registered datapath are routed, after certain
attachments. -/
structure Routes (c : Controller) (bs : List Attachment) (d : DatapathId) (dp : Datapath)
    (x : UInt8) : Prop where
  sends : ∀ message, c.GoesOn d x message (c.route bs dp.main x)
  /-- It is no connection with another auxiliary id. -/
  connection : ∃ k, c.connection? (c.route bs dp.main x) = some k ∧ k.datapath = some d ∧
    (k.auxiliary = x ∨ c.route bs dp.main x = dp.main ∧ k.auxiliary = 0)
  /-- The last that was attached is in its place, unless it is closed. -/
  detached : ∀ l, latest bs dp.main x = some l → dp.auxiliaries.find? x ≠ some l →
    c.isClosed l = true
  /-- Those before it are closed. -/
  replaced : ∀ b ∈ bs, b.main = dp.main → b.auxiliary = x → latest bs dp.main x ≠ some b.link →
    c.isClosed b.link = true ∧ b.link ≠ dp.main
  /-- No other end than its own, or that of the main connection, detaches it. -/
  lasts : ∀ j, j ≠ dp.main → latest bs dp.main x ≠ some j →
    ∃ dp', (c.endSession j).registered? d = some dp' ∧ dp'.main = dp.main ∧
      dp'.auxiliaries.find? x = dp.auxiliaries.find? x

/-- In every run, a message for an auxiliary id of a registered datapath is queued on the connection
that was attached last under that id if it is open, and otherwise on the main connection, and
nowhere else; only closed connections are ever detached. A connection that was replaced is closed,
and its end does not detach the one that took its place. -/
theorem routing_run (settings : Settings) (mastership : Mastership) (ops : List Operation)
    {d : DatapathId} {dp : Datapath}
    (hdp : (run { settings, mastership } ops).registered? d = some dp) (x : UInt8) :
    Routes (run { settings, mastership } ops) (attachments { settings, mastership } ops)
      d dp x := by
  have hkept : (run { settings, mastership } ops).Kept :=
    kept_run (kept_new settings mastership) ops
  have h : (run { settings, mastership } ops).Traced (attachments { settings, mastership } ops) :=
    traced_run (traced_new settings mastership) (healthy_new settings mastership) ops
  generalize run { settings, mastership } ops = c at hdp hkept h ⊢
  generalize attachments { settings, mastership } ops = bs at h ⊢
  have hsound := hkept.healthy.sound
  obtain ⟨m, hm, hdpm⟩ := registered?_eq_some hdp
  -- what serves the registered datapath: its main connection and the auxiliaries in its list
  obtain ⟨dp₀, hserves⟩ := hkept.serves hm
  obtain rfl := Option.some.inj (hdpm.symm.trans hserves.datapath)
  obtain rfl := hserves.main_eq
  have hselect := h.select_eq hsound hdpm x
  refine ⟨fun message => hselect ▸ goesOn_send hdp x message, ?_, fun l hl hne => ?_,
    fun b hb hbm hbx hne => ⟨?_, ?_⟩, fun j hj hne => ?_⟩
  · -- every connection of a registered datapath is its main one or stands under its own id
    rw [← hselect]
    rcases select_eq dp c.isClosed x with hmain | ⟨hfind, -⟩
    · obtain ⟨k, hk, hd, haux, -⟩ := hserves.main
      exact ⟨k, hmain.symm ▸ hk, hd, .inr ⟨hmain, haux⟩⟩
    · obtain ⟨-, k, hk, haux, hd⟩ := hserves.auxiliaries x _ (Keyed.mem_of_find? hfind)
      exact ⟨k, hk, hd, .inl haux⟩
  · by_contra hclosed
    have hattached := h.attached?_of_open hsound (exists_of_latest hl) (Bool.eq_false_iff.2 hclosed)
    exact hne ((attached?_outline hdpm x).symm.trans hattached)
  · subst hbx
    exact h.isClosed_of_replaced hsound hb (hbm ▸ hne)
  · -- it has an auxiliary id, and the main connection has none
    rintro heq
    obtain ⟨haux, k, hk, -, hkx, -⟩ := h.joined b hb
    obtain ⟨k₀, hk₀, -, hzero, -⟩ := hserves.main
    obtain ⟨k₁, hk₁, rfl⟩ := connection?_eq_some hk₀
    rw [heq, link?_outline hk₁] at hk
    obtain rfl := Option.some.inj hk
    exact haux (hkx.symm.trans hzero)
  · -- what is found was attached last, so it is not what ends
    have hx : c.outline.attached? dp.main x ≠ some j := fun hj => hne (h.attached _ _ _ hj)
    obtain ⟨hm', hsame⟩ := keeps_endSession hsound hm hj hx
    have hafter := healthy_apply hkept.healthy (.close j)
    obtain ⟨_, dp₀, -, hdp₀, -⟩ := hafter.sound.registered hm'
    obtain ⟨dp', hdp', rfl⟩ := Option.map_eq_some_iff.1 hdp₀
    refine ⟨dp', Option.bind_eq_some_iff.2 ⟨dp.main, hm', hdp'⟩, hafter.sound.main_eq hdp₀, ?_⟩
    rw [← attached?_outline hdp' x, ← attached?_outline hdpm x]
    exact hsame

namespace SecondPort

/-- The features of datapath 5, on its auxiliary connection 1. -/
def auxiliary (y : Xid) : Frame :=
  frameOf y (.featuresReply { datapathId := 5, auxiliaryId := 1 })

/-- Connection 2 takes the place of connection 1, which ends. -/
def attaching : List Operation :=
  greeting ++ .frame 0 features :: (sayings ++ [refusal,
    .accept "", .frame 1 (frameOf 1 (.hello [])), .frame 1 (auxiliary 6),
    .accept "", .frame 2 (frameOf 1 (.hello [])), .frame 2 (auxiliary 7), .close 1])

/-- After that, messages for auxiliary connection 1 go on connection 2. -/
theorem routing_run_attaching :
    let c := run { settings := {} } attaching
    ∃ dp, c.registered? ⟨5⟩ = some dp ∧ dp.main = 0 ∧ c.isClosed 1 = true ∧
      attachments { settings := {} } attaching = [⟨0, 1, 1⟩, ⟨0, 1, 2⟩] ∧
      c.route [⟨0, 1, 1⟩, ⟨0, 1, 2⟩] 0 1 = 2 ∧ c.Routes [⟨0, 1, 1⟩, ⟨0, 1, 2⟩] ⟨5⟩ dp 1 := by
  intro c
  have hregistered : (c.registered? ⟨5⟩).map (·.main) = some 0 := by decide +kernel
  have hattachments : attachments { settings := {} } attaching = [⟨0, 1, 1⟩, ⟨0, 1, 2⟩] := by
    decide +kernel
  obtain ⟨dp, hdp, hmain⟩ := Option.map_eq_some_iff.1 hregistered
  exact ⟨dp, hdp, hmain, by decide +kernel, hattachments, by decide +kernel,
    hattachments ▸ routing_run {} .all attaching hdp 1⟩

end SecondPort

end Southbound.Controller
