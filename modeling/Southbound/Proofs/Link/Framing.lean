import Southbound.Link.Frame

/-!
# Framing, however a stream is cut

`Frame.split` says what the frames of a stream are and what comes behind them, in terms of its
bytes alone. A reader gives that result by result, whatever pieces the stream arrives in and however
often reading it fails in between:

* `Frame.scan_eq`            what a reader makes of the bytes at hand
* `FrameReader.next_spec`    one call gives the first result of what is there and still to come
* `FrameReader.results_eq`   any number of calls
-/

namespace Southbound

/-- What one call of a reader gives: a frame, nothing at the end of the stream, or a fault. -/
abbrev ReadResult := Except FrameError (Option Frame)

namespace Frame

/-! ## The frames of a stream -/

/-- The length that the message at the front of `bs` announces in its third and fourth byte. -/
def announced (bs : Bytes) : Nat := BigEndian.toNat ((bs.drop 2).take 2)

/-- The header at the front of `bs`. -/
def front (bs : Bytes) : Header where
  version := bs.getD 0 0
  type := bs.getD 1 0
  length := UInt16.ofNat (announced bs)
  xid := UInt32.ofNat (BigEndian.toNat ((bs.drop 4).take 4))

/-- A whole message stands at the front of `bs`. -/
def IsWhole (bs : Bytes) : Prop :=
  Header.size ≤ bs.length ∧ Header.size ≤ announced bs ∧ announced bs ≤ bs.length

instance (bs : Bytes) : Decidable (IsWhole bs) := inferInstanceAs (Decidable (_ ∧ _ ∧ _))

/-- What comes of bytes with no whole message at the front, when no more arrive. -/
def ending (bs : Bytes) : ReadResult :=
  if bs = [] then .ok none
  else if bs.length < Header.size then .error (.truncated bs.length Header.size)
  else if announced bs < Header.size then .error (.badLength (announced bs))
  else .error (.truncated bs.length (announced bs))

/-- The bytes behind the message at the front of `bs`, if there is a whole one. -/
def behind (bs : Bytes) : Bytes := if IsWhole bs then bs.drop (announced bs) else bs

/-- The frames of a whole stream, and the result behind them. -/
def split (bs : Bytes) : List Frame × ReadResult :=
  if _h : IsWhole bs then
    let rest := split (bs.drop (announced bs))
    (⟨front bs, (bs.take (announced bs)).drop Header.size⟩ :: rest.1, rest.2)
  else ([], ending bs)
termination_by bs.length
decreasing_by
  obtain ⟨-, hlong, hle⟩ := _h
  rw [List.length_drop]
  have : Header.size = 8 := rfl
  omega

/-- Result number `n` of reading a stream: its frames, and from then on what comes behind them. -/
def resultAt (bs : Bytes) (n : Nat) : ReadResult :=
  match (split bs).1[n]? with
  | some f => .ok (some f)
  | none => (split bs).2

/-- The first frame is that of the message in front. -/
private theorem split_of_isWhole {bs : Bytes} (h : IsWhole bs) :
    split bs = (⟨front bs, (bs.take (announced bs)).drop Header.size⟩ :: (split (behind bs)).1,
      (split (behind bs)).2) := by
  rw [split, dif_pos h, behind, if_pos h]

/-- Where no message is whole there are no frames. -/
private theorem split_of_not {bs : Bytes} (h : ¬ IsWhole bs) : split bs = ([], ending bs) := by
  rw [split, dif_neg h]

/-- So the first result is that frame. -/
private theorem resultAt_zero_of_isWhole {bs : Bytes} (h : IsWhole bs) :
    resultAt bs 0 = .ok (some ⟨front bs, (bs.take (announced bs)).drop Header.size⟩) := by
  rw [resultAt, split_of_isWhole h]
  rfl

/-- And every result is how the stream ends. -/
private theorem resultAt_of_not {bs : Bytes} (h : ¬ IsWhole bs) (n : Nat) :
    resultAt bs n = ending bs := by
  rw [resultAt, split_of_not h]
  rfl

/-- The results behind the first are those of what is left. -/
theorem resultAt_behind (bs : Bytes) (n : Nat) : resultAt (behind bs) n = resultAt bs (n + 1) := by
  by_cases h : IsWhole bs
  · rw [resultAt, resultAt, split_of_isWhole h, List.getElem?_cons_succ]
  · rw [behind, if_neg h, resultAt_of_not h, resultAt_of_not h]

/-! ## What a reader makes of the bytes at hand -/

/-- Eight bytes are a header. -/
theorem decode_eq {bs : Bytes} (h : Header.size ≤ bs.length) :
    Header.decode bs = .ok (front bs) := by
  match bs, h with
  | _ :: _ :: _ :: _ :: _ :: _ :: _ :: _ :: _, _ => rfl

/-- Too few bytes are no header. -/
private theorem decode_eq_error {bs : Bytes} (h : bs.length < Header.size) :
    Header.decode bs = .error (.truncated Header.size bs.length) := by
  unfold Header.decode
  split
  · simp only [List.length_cons, Header.size] at h
    omega
  · rfl

/-- A length is announced in two bytes. -/
private theorem announced_lt (bs : Bytes) : announced bs < BigEndian.count 2 := by
  have hlt := BigEndian.toNat_lt ((bs.drop 2).take 2)
  have hle : ((bs.drop 2).take 2).length ≤ 2 := List.length_take_le _ _
  refine Nat.lt_of_lt_of_le hlt ?_
  generalize ((bs.drop 2).take 2).length = w at hle
  obtain rfl | rfl | rfl : w = 0 ∨ w = 1 ∨ w = 2 := by omega
  all_goals decide

/-- The header in front says what was announced. -/
private theorem toNat_length_front (bs : Bytes) : (front bs).length.toNat = announced bs := by
  show (UInt16.ofNat (announced bs)).toNat = _
  rw [UInt16.toNat_ofNat']
  exact Nat.mod_eq_of_lt (announced_lt bs)

/-- The bytes at hand are too few for a header, announce too little, are too few for what they
announce, or hold a whole message. -/
theorem scan_eq (bs : Bytes) : scan bs =
    if bs.length < Header.size then .partly Header.size
    else if announced bs < Header.size then .bad (announced bs)
    else if bs.length < announced bs then .partly (announced bs)
    else .whole ⟨front bs, (bs.take (announced bs)).drop Header.size⟩ (bs.drop (announced bs)) := by
  by_cases h : bs.length < Header.size
  · rw [scan, decode_eq_error h, if_pos h]
  · rw [scan, decode_eq (Nat.not_lt.1 h), if_neg h]
    dsimp only
    -- fewer bytes than announced can be taken if and only if there are fewer
    have htake : (bs.take (announced bs)).length < announced bs ↔ bs.length < announced bs := by
      rw [List.length_take]
      omega
    simp only [toNat_length_front, htake]

/-- A whole message is taken from the front. -/
private theorem scan_of_isWhole {bs : Bytes} (h : IsWhole bs) :
    scan bs = .whole ⟨front bs, (bs.take (announced bs)).drop Header.size⟩ (behind bs) := by
  obtain ⟨hsize, hlong, hle⟩ := h
  rw [scan_eq, if_neg (Nat.not_lt.2 hsize), if_neg (Nat.not_lt.2 hlong), if_neg (Nat.not_lt.2 hle),
    behind, if_pos ⟨hsize, hlong, hle⟩]

/-- Nothing else is. -/
private theorem isWhole_of_scan {bs rest : Bytes} {f : Frame} (h : scan bs = .whole f rest) :
    IsWhole bs := by
  rw [scan_eq] at h
  split at h
  · cases h
  · split at h
    · cases h
    · split at h
      · cases h
      · exact ⟨by omega, by omega, by omega⟩

/-- A length that cannot be right is final. -/
theorem of_scan_bad {bs : Bytes} {length : Nat} (h : scan bs = .bad length) :
    Header.size ≤ bs.length ∧ announced bs < Header.size ∧ length = announced bs := by
  rw [scan_eq] at h
  split at h
  · cases h
  · split at h
    · next hsize hshort => exact ⟨Nat.not_lt.1 hsize, hshort, (Scan.bad.inj h).symm⟩
    · split at h <;> cases h

/-- At the end of the stream, a message that is not whole is cut off. -/
theorem ending_of_scan_partly {bs : Bytes} {expected : Nat} (h : scan bs = .partly expected) :
    ¬ IsWhole bs ∧
      ending bs = if bs.isEmpty then .ok none else .error (.truncated bs.length expected) := by
  rw [scan_eq] at h
  rw [IsWhole, ending]
  split at h
  · next hsize =>
    -- not even a header
    refine ⟨fun hwhole => by omega, ?_⟩
    rw [← Scan.partly.inj h]
    simp only [List.isEmpty_iff, hsize, ↓reduceIte]
  · next hsize =>
    split at h
    · cases h
    · next hshort =>
      split at h
      · next hcut =>
        -- a header that tells more than there is
        refine ⟨fun hwhole => by omega, ?_⟩
        rw [← Scan.partly.inj h]
        simp only [List.isEmpty_iff, hsize, hshort, ↓reduceIte]
      · cases h

/-! ## More bytes -/

/-- More bytes change nothing that was announced. -/
private theorem announced_append {bs : Bytes} (h : Header.size ≤ bs.length) (more : Bytes) :
    announced (bs ++ more) = announced bs := by
  match bs, h with
  | _ :: _ :: _ :: _ :: _ :: _ :: _ :: _ :: _, _ => rfl

/-- Nor do they change the header. -/
private theorem front_append {bs : Bytes} (h : Header.size ≤ bs.length) (more : Bytes) :
    front (bs ++ more) = front bs := by
  match bs, h with
  | _ :: _ :: _ :: _ :: _ :: _ :: _ :: _ :: _, _ => rfl

/-- A message that is whole is so with whatever arrives behind it. -/
theorem isWhole_append {bs : Bytes} (h : IsWhole bs) (more : Bytes) :
    IsWhole (bs ++ more) ∧ resultAt (bs ++ more) 0 = resultAt bs 0 ∧
      behind (bs ++ more) = behind bs ++ more := by
  obtain ⟨hsize, hlong, hle⟩ := h
  have hannounced := announced_append hsize more
  have happend : IsWhole (bs ++ more) := by
    refine ⟨?_, hannounced.symm ▸ hlong, hannounced.symm ▸ ?_⟩ <;> rw [List.length_append] <;> omega
  refine ⟨happend, ?_, ?_⟩
  · rw [resultAt_zero_of_isWhole happend, resultAt_zero_of_isWhole ⟨hsize, hlong, hle⟩,
      front_append hsize, hannounced, List.take_append_of_le_length hle]
  · rw [behind, if_pos happend, behind, if_pos ⟨hsize, hlong, hle⟩, hannounced,
      List.drop_append_of_le_length hle]

/-- Nothing that arrives behind a length that cannot be right changes the result. -/
theorem ending_append_of_bad {bs : Bytes} (hsize : Header.size ≤ bs.length)
    (hshort : announced bs < Header.size) (more : Bytes) :
    ¬ IsWhole (bs ++ more) ∧ ending (bs ++ more) = .error (.badLength (announced bs)) := by
  have hannounced := announced_append hsize more
  have hlength : Header.size ≤ (bs ++ more).length := by
    rw [List.length_append]
    omega
  have hne : bs ++ more ≠ [] := List.ne_nil_of_length_pos (Nat.lt_of_lt_of_le (by decide) hlength)
  refine ⟨fun hwhole => ?_, ?_⟩
  · have := hwhole.2.1
    omega
  · rw [ending, if_neg hne, if_neg (Nat.not_lt.2 hlength), hannounced, if_pos hshort]

end Frame

namespace FrameReader

/-- The bytes that arrive. -/
def incoming : List Arrival → Bytes
  | [] => []
  | .data bytes :: more => bytes ++ incoming more
  | .failure :: more => incoming more

/-- How often reading fails. -/
def failures : List Arrival → Nat
  | [] => 0
  | .data _ :: more => failures more
  | .failure :: more => failures more + 1

/-- Reading the stream failed. -/
def isFailure : ReadResult → Bool
  | .error .io => true
  | _ => false

/-- The bytes that are there and still to come. -/
def ahead (r : FrameReader) (arrivals : List Arrival) : Bytes := r.buffer ++ incoming arrivals

/-- A call gives the first result of what is ahead, and leaves what is behind it; or reading fails,
which takes nothing away. -/
theorem next_spec (r : FrameReader) (arrivals : List Arrival) :
    ∃ (x : ReadResult) (r' : FrameReader) (rest : List Arrival), r.next arrivals = (x, r', rest) ∧
      (isFailure x = true ∧ r'.ahead rest = r.ahead arrivals ∧
          failures arrivals = failures rest + 1 ∨
        x = Frame.resultAt (r.ahead arrivals) 0 ∧ isFailure x = false ∧
          r'.ahead rest = Frame.behind (r.ahead arrivals) ∧ failures rest = failures arrivals) := by
  -- one case per way the loop can go: a frame, a bad length, more bytes, a failure, the end
  fun_induction next r arrivals with
  | case1 r arrivals f rest hscan =>
    have hwhole := Frame.isWhole_of_scan hscan
    rw [Frame.scan_of_isWhole hwhole, Frame.Scan.whole.injEq] at hscan
    obtain ⟨-, hfirst, hbehind⟩ := Frame.isWhole_append hwhole (incoming arrivals)
    refine ⟨_, _, _, rfl, .inr ⟨?_, rfl, ?_, rfl⟩⟩
    · rw [ahead, hfirst, Frame.resultAt_zero_of_isWhole hwhole, hscan.1]
    · rw [ahead, ahead, hbehind, hscan.2]
  | case2 r arrivals length hscan =>
    obtain ⟨hsize, hshort, rfl⟩ := Frame.of_scan_bad hscan
    obtain ⟨hnot, hending⟩ := Frame.ending_append_of_bad hsize hshort (incoming arrivals)
    refine ⟨_, _, _, rfl, .inr ⟨?_, rfl, ?_, rfl⟩⟩
    · rw [ahead, Frame.resultAt_of_not hnot, hending]
    · rw [ahead, Frame.behind, if_neg hnot]
  | case3 r expected hscan bytes more ih =>
    obtain ⟨x, r', rest, hnext, hspec⟩ := ih
    have hsame : (⟨r.buffer ++ bytes⟩ : FrameReader).ahead more = r.ahead (.data bytes :: more) :=
      List.append_assoc ..
    rw [hsame] at hspec
    exact ⟨x, r', rest, hnext, hspec⟩
  | case4 r expected hscan more => exact ⟨_, _, _, rfl, .inl ⟨rfl, rfl, rfl⟩⟩
  | case5 r expected hscan hempty =>
    obtain ⟨hnot, hending⟩ := Frame.ending_of_scan_partly hscan
    rw [if_pos hempty] at hending
    refine ⟨_, _, _, rfl, .inr ⟨?_, rfl, ?_, rfl⟩⟩
    · rw [ahead, incoming, List.append_nil, Frame.resultAt_of_not hnot, hending]
    · rw [ahead, incoming, List.append_nil, Frame.behind, if_neg hnot]
  | case6 r expected hscan hempty =>
    obtain ⟨hnot, hending⟩ := Frame.ending_of_scan_partly hscan
    rw [if_neg hempty] at hending
    refine ⟨_, _, _, rfl, .inr ⟨?_, rfl, ?_, rfl⟩⟩
    · rw [ahead, incoming, List.append_nil, Frame.resultAt_of_not hnot, hending]
    · rw [ahead, incoming, List.append_nil, Frame.behind, if_neg hnot]

/-! ## Any number of calls -/

/-- The results of a number of calls one after the other, and the reader and the arrivals
afterwards. -/
def calls : Nat → FrameReader → List Arrival → List ReadResult × FrameReader × List Arrival
  | 0, r, arrivals => ([], r, arrivals)
  | n + 1, r, arrivals =>
    let (x, r', rest) := r.next arrivals
    let (xs, last) := calls n r' rest
    (x :: xs, last)

/-- The results of the calls that did not fail to read. -/
def genuine (results : List ReadResult) : List ReadResult := results.filter (!isFailure ·)

/-- There are as many results as calls. -/
private theorem length_calls (n : Nat) (r : FrameReader) (arrivals : List Arrival) :
    (calls n r arrivals).1.length = n := by
  induction n generalizing r arrivals with
  | zero => rfl
  | succ n ih => exact congrArg (· + 1) (ih _ _)

/-- Each result is genuine or a failure. -/
theorem length_genuine_add (results : List ReadResult) :
    (genuine results).length + results.countP isFailure = results.length := by
  induction results with
  | nil => rfl
  | cons x results ih =>
    cases hx : isFailure x
    · rw [genuine, List.filter_cons_of_pos (by simp [hx]), List.countP_cons_of_neg (by simp [hx]),
        List.length_cons, List.length_cons, ← ih, genuine]
      omega
    · rw [genuine, List.filter_cons_of_neg (by simp [hx]), List.countP_cons_of_pos hx,
        List.length_cons, ← ih, genuine]
      omega

/-- Calls give the results of what is ahead in order, apart from those in which reading fails. -/
theorem calls_spec (n : Nat) (r : FrameReader) (arrivals : List Arrival) :
    genuine (calls n r arrivals).1 =
        (List.range (genuine (calls n r arrivals).1).length).map
          (Frame.resultAt (r.ahead arrivals)) ∧
      (calls n r arrivals).1.countP isFailure + failures (calls n r arrivals).2.2 =
        failures arrivals := by
  -- each call starts where the one before stopped, so reader and arrivals are general
  induction n generalizing r arrivals with
  | zero => exact ⟨rfl, Nat.zero_add _⟩
  | succ n ih =>
    obtain ⟨x, r', rest, hnext, hspec⟩ := next_spec r arrivals
    have hcalls : calls (n + 1) r arrivals = (x :: (calls n r' rest).1, (calls n r' rest).2) := by
      rw [calls, hnext]
    obtain ⟨hgenuine, hfailures⟩ := ih r' rest
    rw [hcalls]
    dsimp only
    rcases hspec with ⟨hx, hahead, hfailed⟩ | ⟨hfirst, hx, hahead, hfailed⟩
    · -- nothing was taken, so the calls behind this one start where it did
      have hskip : genuine (x :: (calls n r' rest).1) = genuine (calls n r' rest).1 :=
        List.filter_cons_of_neg (by simp [hx])
      rw [hahead] at hgenuine
      refine ⟨hskip ▸ hgenuine, ?_⟩
      rw [List.countP_cons_of_pos hx]
      omega
    · have hkeep : genuine (x :: (calls n r' rest).1) = x :: genuine (calls n r' rest).1 :=
        List.filter_cons_of_pos (by simp [hx])
      rw [hahead] at hgenuine
      refine ⟨?_, ?_⟩
      · rw [hkeep, List.length_cons, List.range_succ_eq_map, List.map_cons, List.map_map, ← hfirst,
          hgenuine, List.length_map, List.length_range]
        exact congrArg (x :: ·) (List.map_congr_left fun i _ => Frame.resultAt_behind _ i)
      · rw [List.countP_cons_of_neg (by simp [hx])]
        omega

/-- What is read is what arrives. -/
private theorem incoming_reads (reads : List Bytes) :
    incoming (reads.map .data) = reads.flatten := by
  induction reads with
  | nil => rfl
  | cons bytes reads ih => exact congrArg (bytes ++ ·) ih

/-- Reads do not fail. -/
private theorem failures_reads (reads : List Bytes) : failures (reads.map .data) = 0 := by
  induction reads with
  | nil => rfl
  | cons bytes reads ih => exact ih

/-- Whatever pieces a stream arrives in, reading it gives its frames one after the other, and from
then on what comes behind them. If reading fails in between, those results are the same, and each
failure is one more. -/
theorem results_eq :
    (∀ (reads : List Bytes) (n : Nat),
      (calls n {} (reads.map .data)).1 = (List.range n).map (Frame.resultAt reads.flatten)) ∧
    ∀ (arrivals : List Arrival) (n : Nat),
      let results := (calls n {} arrivals).1
      let failed := results.countP isFailure
      genuine results = (List.range (n - failed)).map (Frame.resultAt (incoming arrivals)) ∧
        failed + failures (calls n {} arrivals).2.2 = failures arrivals := by
  have hall (arrivals : List Arrival) (n : Nat) :
      genuine (calls n {} arrivals).1 =
        (List.range (n - (calls n {} arrivals).1.countP isFailure)).map
          (Frame.resultAt (incoming arrivals)) ∧
      (calls n {} arrivals).1.countP isFailure + failures (calls n {} arrivals).2.2 =
        failures arrivals := by
    have hlength := length_genuine_add (calls n {} arrivals).1
    rw [length_calls] at hlength
    obtain ⟨hgenuine, hfailures⟩ := calls_spec n {} arrivals
    rw [Nat.eq_sub_of_add_eq hlength] at hgenuine
    exact ⟨hgenuine, hfailures⟩
  refine ⟨fun reads n => ?_, hall⟩
  obtain ⟨hgenuine, hfailures⟩ := hall (reads.map .data) n
  rw [failures_reads] at hfailures
  have hnone : (calls n {} (reads.map .data)).1.countP isFailure = 0 :=
    Nat.eq_zero_of_add_eq_zero_right hfailures
  -- without a failure, all results are genuine
  have hself : genuine (calls n {} (reads.map .data)).1 = (calls n {} (reads.map .data)).1 :=
    List.filter_eq_self.2 fun x hx => by simpa using List.countP_eq_zero.1 hnone x hx
  rw [hself, hnone, Nat.sub_zero, incoming_reads] at hgenuine
  exact hgenuine

end FrameReader

end Southbound
