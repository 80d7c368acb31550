import Mathlib.Data.List.Sort
import Southbound.Proofs.Wire.Negotiation

/-!
# The versions in a hello

A hello is read if its body is a sequence of elements (`Hello.Form`), and then it lists what the
bits of its bitmaps say: version `v` by bit `v % 32` of word `v / 32` of a bitmap, in the order in
which the bits appear. The lengths that lead from one element to the next are those that the peer
gave, yet every turn of the loop over them uses up at least four bytes.

* `getElem?_chunks`             the pieces of a list by their position
* `Hello.versions_eq_listed`    the versions of an element, bit by bit
* `Hello.loop_eq`               the loop is over after a quarter of the body's bytes
* `Hello.read_elements`         which bodies are read, and what they list
-/

namespace Southbound

/-- Piece number `i`. -/
theorem getElem?_chunks {α : Type} {n : Nat} (hn : 0 < n) (xs : List α) (i : Nat) :
    (chunks n xs)[i]? = if n * i < xs.length then some ((xs.drop (n * i)).take n) else none := by
  -- the piece at `i + 1` is the piece at `i` of what is left, so the index is general
  fun_induction chunks n xs generalizing i with
  | case1 => simp
  | case2 x xs ih =>
    cases i with
    | zero =>
      have htake : x :: xs.take (n - 1) = (x :: xs).take n := by
        rw [← List.take_succ_cons]
        congr 1
        omega
      simp [htake]
    | succ i =>
      have hdrop : (xs.drop (n - 1)).drop (n * i) = (x :: xs).drop (n * (i + 1)) := by
        rw [List.drop_drop, ← List.drop_succ_cons (a := x), Nat.mul_succ]
        congr 1
        omega
      have hlt : n * i < (xs.drop (n - 1)).length ↔ n * (i + 1) < (x :: xs).length := by
        rw [List.length_drop, List.length_cons, Nat.mul_succ]
        omega
      rw [List.getElem?_cons_succ, ih, hdrop]
      simp only [hlt]

namespace Hello

/-! ## Bits -/

/-- Word number `w` of a payload. A word cut short is the number its bytes form, and behind the end
of the payload all words are 0. -/
def wordAt (payload : Bytes) (w : Nat) : Nat :=
  BigEndian.toNat ((payload.drop (4 * w)).take 4)

/-- All there can be, in ascending order. -/
def everyVersion : List Version := (List.range 256).map UInt8.ofNat

/-- The versions whose bits are set in an element, if it is a version bitmap. -/
def Element.listed (e : Element) : List Version :=
  if e.kind = 1 then
    everyVersion.filter fun v => (wordAt e.payload (v.toNat / 32)).testBit (v.toNat % 32)
  else []

/-- Every version is a byte. -/
private theorem mem_everyVersion (v : Version) : v ∈ everyVersion :=
  List.mem_map.2 ⟨v.toNat, List.mem_range.2 v.toNat_lt, UInt8.ofNat_toNat⟩

/-- They ascend. -/
private theorem pairwise_everyVersion : everyVersion.Pairwise (· < ·) := by
  refine List.pairwise_map.2 (List.pairwise_lt_range.imp_of_mem ?_)
  intro a b ha hb hab
  rw [List.mem_range] at ha hb
  rw [UInt8.lt_iff_toNat_lt, UInt8.toNat_ofNat', UInt8.toNat_ofNat']
  omega

/-- A bitmap lists the versions whose bits are set. -/
private theorem mem_bitmapVersions_iff_testBit {payload : Bytes} {v : Version} :
    v ∈ bitmapVersions payload ↔
      (wordAt payload (v.toNat / 32)).testBit (v.toNat % 32) = true := by
  rw [mem_bitmapVersions_iff, getElem?_chunks (by decide), wordAt]
  by_cases hlt : 4 * (v.toNat / 32) < payload.length
  · simp [hlt]
  · -- there is no such word, so none of its bits is set
    rw [List.drop_eq_nil_of_le (Nat.le_of_not_lt hlt)]
    simp [hlt]

/-- So an element lists those whose bits are set in it, in order. -/
theorem versions_eq_listed (e : Element) : e.versions = e.listed := by
  unfold Element.versions Element.listed bitmapKind
  split
  · -- both ascend
    refine (pairwise_bitmapVersions e.payload).eq_of_mem_iff
      (pairwise_everyVersion.filter _) fun v => ?_
    rw [mem_bitmapVersions_iff_testBit, List.mem_filter]
    simp only [mem_everyVersion, true_and]
  · rfl

/-- A word of two bytes. -/
example : (⟨1, [0, 0x12]⟩ : Element).listed = [1, 4] := by decide

/-! ## Turns -/

/-- One turn of the loop over a body: the next element and what is left behind it, or what is wrong
with it; nothing if fewer bytes are left than an element has in front. -/
def turn : Bytes → Option (Except WireError (Element × Bytes))
  | t1 :: t0 :: l1 :: l0 :: tail =>
    let length := BigEndian.toNat [l1, l0]
    if length < 4 then some (.error (.unexpectedValue (toString length) "element length" "Hello"))
    else if tail.length < length - 4 then some (.error (.truncated (length - 4) tail.length))
    else some (.ok (⟨BigEndian.toNat [t1, t0], tail.take (length - 4)⟩,
      tail.drop (length - 4 + padding length)))
  | _ => none

/-- At most `n` turns over what is left, with the versions found before; nothing if that is not
enough. -/
def loop (n : Nat) (rest : Bytes) (found : List Version) :
    Option (Except WireError (List Version)) :=
  match turn rest, n with
  | none, _ => some (.ok found)
  | some (.error e), _ => some (.error e)
  | some (.ok _), 0 => none
  | some (.ok (e, rest)), n + 1 => loop n rest (found ++ e.versions)

/-- However short an element says it is, a turn uses up what it has in front. -/
theorem length_turn {body rest : Bytes} {e : Element} (h : turn body = some (.ok (e, rest))) :
    rest.length + 4 ≤ body.length := by
  unfold turn at h
  split at h
  · dsimp only at h
    split at h
    · cases h
    · split at h
      · cases h
      · obtain ⟨-, rfl⟩ := Prod.mk.inj (Except.ok.inj (Option.some.inj h))
        rw [List.length_drop]
        simp only [List.length_cons]
        omega
  · cases h

/-- The elements are read turn by turn. -/
private theorem elements_eq_turn (body : Bytes) : elements body =
    match turn body with
    | none => .ok []
    | some (.error e) => .error e
    | some (.ok (e, rest)) => (e :: ·) <$> elements rest := by
  -- a bad length, a cut element, a whole one, or too little for a header
  fun_cases turn body with
  | case1 t1 t0 l1 l0 tail length hbad => rw [elements, if_pos hbad]
  | case2 t1 t0 l1 l0 tail length hgood hshort =>
    have hpart : (tail.take (length - 4)).length < length - 4 := by
      rw [List.length_take]
      omega
    rw [elements, if_neg hgood]
    exact if_pos hpart
  | case3 t1 t0 l1 l0 tail length hgood hwhole =>
    have hall : ¬ (tail.take (length - 4)).length < length - 4 := by
      rw [List.length_take]
      omega
    rw [elements, if_neg hgood]
    refine (if_neg hall).trans ?_
    dsimp only
    cases elements (tail.drop (length - 4 + padding length)) <;> rfl
  | case4 body hfew =>
    rw [elements]
    exact hfew

/-- So are the versions that they list. -/
private theorem read_eq_turn (body : Bytes) : read body =
    match turn body with
    | none => .ok []
    | some (.error e) => .error e
    | some (.ok (e, rest)) => (e.versions ++ ·) <$> read rest := by
  rw [read, elements_eq_turn]
  cases turn body with
  | none => rfl
  | some r =>
    cases r with
    | error e => rfl
    | ok p =>
      dsimp only [read]
      cases elements p.2 <;> rfl

/-- As each turn uses up four bytes, a quarter of them is enough. -/
theorem loop_eq {n : Nat} {rest : Bytes} (h : rest.length / 4 ≤ n) (found : List Version) :
    loop n rest found = some ((found ++ ·) <$> read rest) := by
  induction n generalizing rest found with
  | zero =>
    unfold loop
    rw [read_eq_turn]
    cases hturn : turn rest with
    | none => simp
    | some r =>
      cases r with
      | error e => rfl
      | ok p =>
        -- an element has four bytes in front
        have hle := length_turn hturn
        omega
  | succ n ih =>
    unfold loop
    rw [read_eq_turn]
    cases hturn : turn rest with
    | none => simp
    | some r =>
      cases r with
      | error e => rfl
      | ok p =>
        have hle := length_turn hturn
        dsimp only
        rw [ih (by omega)]
        cases read p.2 with
        | error e => rfl
        | ok more => simp

/-! ## What is read -/

/-- A body is read exactly if it is a sequence of elements, of which the last may lack padding, and
at most three bytes behind them. Then it lists the versions whose bits are set in its bitmaps, in
the order in which the bits appear. And on every body the loop over the elements comes to its end,
after a quarter of its bytes at the latest. -/
theorem read_elements (body : Bytes) :
    (∀ listed, read body = .ok listed ↔
      ∃ es, Form body es ∧ listed = es.flatMap Element.listed) ∧
    ∀ k, loop (body.length / 4 + k) body [] = some (read body) := by
  constructor
  · intro listed
    have hlisted : Element.versions = Element.listed := funext versions_eq_listed
    simp only [read, ← elements_eq_ok_iff, hlisted]
    cases elements body with
    | error e => simp
    | ok es => simp [eq_comm]
  · intro k
    rw [loop_eq (Nat.le_add_right _ _)]
    cases read body <;> rfl

end Hello

end Southbound
