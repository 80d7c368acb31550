import Southbound.Datapath.Negotiation
import Southbound.Proofs.Wire.V13

/-!
# The version that a hello leads to

`Hello.Form` is the form of a hello body, `Hello.Lists` what its version bitmaps list. The version
for the connection is the greatest of ours that is listed, if any version is listed at all; if
none is, the versions of the two hellos decide (`negotiate_honours_iff`).

A bitmap that lists nothing is thereby taken for a missing one, and such a peer can be spoken to
in a version that it did not list: `negotiate_honours_iff` says exactly when, and
`negotiate_empty_bitmap` gives a case.
-/

namespace Southbound

namespace Hello

/-! ## The form of a body -/

/-- A body is a sequence of elements. Only the last one may lack padding, and up to three bytes
behind it do not count. -/
inductive Form : Bytes → List Element → Prop
  | tail {rest : Bytes} (h : rest.length < 4) : Form rest []
  | element {kind : Nat} {payload fill rest : Bytes} {es : List Element} (hkind : kind < 65536)
      (hlength : 4 + payload.length < 65536)
      (hfill : fill.length = padding (4 + payload.length) ∨
        fill.length < padding (4 + payload.length) ∧ rest = [])
      (h : Form rest es) :
      Form (BigEndian.ofNat 2 kind ++ BigEndian.ofNat 2 (4 + payload.length) ++ payload ++
        (fill ++ rest)) (⟨kind, payload⟩ :: es)

/-- A body of this form is read as its elements. -/
private theorem elements_of_form {body : Bytes} {es : List Element} (h : Form body es) :
    elements body = .ok es := by
  induction h with
  | tail hshort => exact elements_short hshort
  | @element kind payload fill rest es hkind hlength hfill _ ih =>
    have hrest : (fill ++ rest).drop (padding (4 + payload.length)) = rest := by
      rcases hfill with hfull | ⟨hpart, rfl⟩
      · rw [← hfull, List.drop_left]
      · rw [List.append_nil, List.drop_eq_nil_of_le (by omega)]
    rw [elements_append hkind hlength, hrest, ih]
    rfl

/-- A body that is read has this form. -/
private theorem form_of_elements {body : Bytes} {es : List Element} (h : elements body = .ok es) :
    Form body es := by
  fun_induction elements body generalizing es with
  | case1 => cases h
  | case2 => cases h
  | case3 t1 t0 l1 l0 tail length hge payload hwhole =>
    rename_i ih
    cases hmore : elements (tail.drop (length - 4 + padding length)) with
    | error e =>
      rw [hmore] at h
      cases h
    | ok more =>
      rw [hmore] at h
      obtain rfl := Except.ok.inj h
      have hpayload : 4 + payload.length = length := by
        have hle : payload.length ≤ length - 4 := List.length_take_le _ _
        omega
      have hlength : length < 65536 := BigEndian.toNat_lt [l1, l0]
      have hkindBytes : BigEndian.ofNat 2 (BigEndian.toNat [t1, t0]) = [t1, t0] :=
        BigEndian.ofNat_toNat [t1, t0]
      have hlengthBytes : BigEndian.ofNat 2 length = [l1, l0] := BigEndian.ofNat_toNat [l1, l0]
      -- behind the payload there is padding, as far as it goes, and then the other elements
      have hfill := List.take_append_drop (padding length) (tail.drop (length - 4))
      rw [List.drop_drop] at hfill
      have hform := @Form.element _ payload ((tail.drop (length - 4)).take (padding length)) _ _
        (BigEndian.toNat_lt [t1, t0]) (hpayload ▸ hlength) ?_ (ih hmore)
      · rw [hpayload, hfill, List.append_assoc _ payload, List.take_append_drop, hkindBytes,
          hlengthBytes] at hform
        exact hform
      · rw [hpayload, List.length_take, List.length_drop]
        by_cases hle : padding length ≤ tail.length - (length - 4)
        · exact .inl (Nat.min_eq_left hle)
        · exact .inr ⟨by omega, List.drop_eq_nil_of_le (by omega)⟩
  | case4 body hshort =>
    obtain rfl := Except.ok.inj h
    refine Form.tail ?_
    rcases body with _ | ⟨b0, _ | ⟨b1, _ | ⟨b2, _ | ⟨b3, tail⟩⟩⟩⟩
    · decide
    · simp
    · simp
    · simp
    · exact (hshort b0 b1 b2 b3 tail rfl).elim

/-- A body is read if and only if it has the form, and gives the elements it consists of. -/
theorem elements_eq_ok_iff {body : Bytes} {es : List Element} :
    elements body = .ok es ↔ Form body es :=
  ⟨form_of_elements, elements_of_form⟩

/-- So it has one sequence of elements. -/
private theorem Form.unique {body : Bytes} {es es' : List Element} (h : Form body es)
    (h' : Form body es') : es = es' :=
  Except.ok.inj ((elements_of_form h).symm.trans (elements_of_form h'))

/-! ## What a body lists -/

/-- There is a version bitmap among the elements. -/
def HasBitmap (es : List Element) : Prop := ∃ e ∈ es, e.kind = bitmapKind

/-- A version bitmap among the elements has the bit of `v`: bit `v % 32` of word `v / 32`, where a
word cut short counts as the number its bytes form. -/
def Lists (es : List Element) (v : Version) : Prop :=
  ∃ e ∈ es, e.kind = bitmapKind ∧ ∃ word, (chunks 4 e.payload)[v.toNat / 32]? = some word ∧
    (BigEndian.toNat word).testBit (v.toNat % 32) = true

/-- A bitmap lists a version if the word that it belongs to has its bit. -/
theorem mem_bitmapVersions_iff {payload : Bytes} {v : Version} :
    v ∈ bitmapVersions payload ↔ ∃ word, (chunks 4 payload)[v.toNat / 32]? = some word ∧
      (BigEndian.toNat word).testBit (v.toNat % 32) = true := by
  simp only [bitmapVersions, List.mem_flatMap, Prod.exists, List.mem_zipIdx_iff_getElem?,
    mem_wordVersions]
  constructor
  · rintro ⟨word, w, hword, hbit, rfl⟩
    exact ⟨word, hword, hbit⟩
  · rintro ⟨word, hword, hbit⟩
    exact ⟨word, _, hword, hbit, rfl⟩

/-- A bitmap of one word. -/
theorem bitmapVersions_word (b0 b1 b2 b3 : UInt8) :
    bitmapVersions [b0, b1, b2, b3] = wordVersions [b0, b1, b2, b3] 0 := by
  have hchunks := chunks_append (show 0 < 4 by decide)
    (show [b0, b1, b2, b3].length = 4 from rfl) []
  rw [List.append_nil, chunks_nil] at hchunks
  rw [bitmapVersions, hchunks]
  exact List.append_nil _

/-- Elements list what one of them lists. -/
private theorem mem_versions_iff {es : List Element} {v : Version} :
    v ∈ es.flatMap Element.versions ↔ Lists es v := by
  simp only [List.mem_flatMap, Lists]
  refine exists_congr fun e => and_congr_right fun _ => ?_
  by_cases hkind : e.kind = bitmapKind
  · simp only [Element.versions, hkind, ↓reduceIte, mem_bitmapVersions_iff, true_and]
  · simp only [Element.versions, hkind, ↓reduceIte, List.not_mem_nil, false_and]

/-- They list nothing if there is no bit set. -/
private theorem versions_eq_nil_iff {es : List Element} :
    es.flatMap Element.versions = [] ↔ ∀ v, ¬ Lists es v := by
  simp only [← mem_versions_iff, List.eq_nil_iff_forall_not_mem]

/-- Only a bitmap lists anything. -/
theorem Lists.hasBitmap {es : List Element} {v : Version} (h : Lists es v) : HasBitmap es := by
  obtain ⟨e, he, hkind, -⟩ := h
  exact ⟨e, he, hkind⟩

end Hello

/-- A hello of any version but 1.0 is read if and only if its body has the form. -/
theorem Codec.decode_hello {h : Header} {body : Bytes} {m : Message} (htype : h.type = 0)
    (hversion : h.version ≠ Version.v10) (hlength : h.bodyLength = body.length) :
    decode h body = .ok m ↔
      ∃ es, Hello.Form body es ∧ m = .hello (es.flatMap Hello.Element.versions) := by
  -- the number 0 is a hello also under a version that has no numbering of its own
  have htypeOf : typeOf h = .ok .hello := by
    rw [typeOf, htype]
    by_cases hv13 : h.version = Version.v13
    · rw [hv13]
      rfl
    · rw [MessageType.ofWire?, MessageType.numbering, if_neg hversion, if_neg hv13]
      rfl
  have hbody : readBody h.version .hello body = V13.read .hello body := by
    rw [readBody, if_neg hversion, ite_self]
  rw [decode, htypeOf, hlength]
  -- the body is exactly as long as the header tells, so nothing is cut off
  show (if (body.take body.length).length < body.length then _
    else readBody h.version .hello (body.take body.length)) = _ ↔ _
  rw [List.take_length, if_neg (Nat.lt_irrefl _), hbody]
  show Message.hello <$> Hello.read body = _ ↔ _
  simp only [← Hello.elements_eq_ok_iff, Hello.read]
  cases Hello.elements body with
  | error e => simp
  | ok es =>
    constructor
    · intro hm
      exact ⟨es, rfl, (Except.ok.inj hm).symm⟩
    · rintro ⟨_, hes, rfl⟩
      obtain rfl := Except.ok.inj hes
      rfl

/-! ## The choice -/

/-- The greatest of our versions that meet a condition. -/
def IsGreatestOf (ours : List Version) (p : Version → Prop) (v : Version) : Prop :=
  v ∈ ours ∧ p v ∧ ∀ u ∈ ours, p u → u ≤ v

/-- The lesser of our greatest version and the peer's, if it is one of ours. -/
def IsFallback (ours : List Version) (peer v : Version) : Prop :=
  v ∈ ours ∧ ∃ greatest, IsGreatestOf ours (fun _ => True) greatest ∧ v = min greatest peer

section
variable {ours : List Version}

/-- There is one greatest version. -/
private theorem IsGreatestOf.unique {p : Version → Prop} {v w : Version}
    (hv : IsGreatestOf ours p v) (hw : IsGreatestOf ours p w) : v = w :=
  UInt8.le_antisymm (hw.2.2 v hv.1 hv.2.1) (hv.2.2 w hw.1 hw.2.1)

/-- The last of some ascending versions that meets a condition. -/
theorem find?_reverse_eq_some_iff (hours : ours.Pairwise (· < ·)) {p : Version → Bool}
    {v : Version} :
    ours.reverse.find? p = some v ↔ IsGreatestOf ours (fun u => p u = true) v := by
  -- the first hit from the end: what comes before it in the reversed list misses, what comes after
  -- is less
  have hfound {w : Version} (h : ours.reverse.find? p = some w) :
      IsGreatestOf ours (fun u => p u = true) w := by
    obtain ⟨hp, later, earlier, hsplit, hlater⟩ := List.find?_eq_some_iff_append.1 h
    have hsorted := List.pairwise_reverse.2 hours
    rw [hsplit, List.pairwise_append, List.pairwise_cons] at hsorted
    have hmem (u : Version) : u ∈ ours ↔ u ∈ later ∨ u = w ∨ u ∈ earlier := by
      rw [← List.mem_reverse, hsplit, List.mem_append, List.mem_cons]
    refine ⟨(hmem w).2 (.inr (.inl rfl)), hp, fun u hu hpu => ?_⟩
    rcases (hmem u).1 hu with hu | rfl | hu
    · have hnot := hlater u hu
      simp [hpu] at hnot
    · exact UInt8.le_refl _
    · exact UInt8.le_of_lt (hsorted.2.1.1 u hu)
  -- conversely something is found, and the greatest is unique
  refine ⟨hfound, fun hv => ?_⟩
  cases hfind : ours.reverse.find? p with
  | none => exact absurd hv.2.1 (List.find?_eq_none.1 hfind v (List.mem_reverse.2 hv.1))
  | some w => rw [(hfound hfind).unique hv]

/-- Of ascending versions it is the last. -/
private theorem getLast?_eq_some_iff (hours : ours.Pairwise (· < ·)) {v : Version} :
    ours.getLast? = some v ↔ IsGreatestOf ours (fun _ => True) v := by
  have hlast : ours.getLast? = ours.reverse.find? fun _ => true := by
    rw [← List.head?_reverse]
    cases ours.reverse <;> rfl
  rw [hlast, find?_reverse_eq_some_iff hours]
  simp only

/-- Of the versions that are listed the greatest of ours is chosen. -/
private theorem negotiate_of_listed (hours : ours.Pairwise (· < ·)) (peer : Version)
    {listed : List Version} (h : listed ≠ []) {v : Version} :
    negotiate ours peer listed = some v ↔ IsGreatestOf ours (· ∈ listed) v := by
  rw [negotiate, if_neg (by simpa using h), find?_reverse_eq_some_iff hours]
  simp only [List.contains_iff_mem]

/-- If none is listed the versions of the two hellos decide. -/
private theorem negotiate_nil (hours : ours.Pairwise (· < ·)) (peer : Version) {v : Version} :
    negotiate ours peer [] = some v ↔ IsFallback ours peer v := by
  simp only [IsFallback, ← getLast?_eq_some_iff hours]
  rw [negotiate, if_pos List.isEmpty_nil]
  cases ours.getLast? with
  | none => simp
  | some greatest =>
    simp only [List.contains_iff_mem, Option.some.injEq, exists_eq_left']
    constructor
    · intro h
      split at h
      · next hmem =>
        obtain rfl := Option.some.inj h
        exact ⟨hmem, rfl⟩
      · cases h
    · rintro ⟨hmem, rfl⟩
      exact if_pos hmem

end

/-! ## What a peer is owed -/

/-- The choice follows the peer's word: its bitmap, if it sent one, and else its version. -/
def Honours (ours : List Version) (peer : Version) (es : List Hello.Element)
    (chosen : Option Version) : Prop :=
  (Hello.HasBitmap es → ∀ v, chosen = some v ↔ IsGreatestOf ours (Hello.Lists es) v) ∧
    (¬ Hello.HasBitmap es → ∀ v, chosen = some v ↔ IsFallback ours peer v)

/-- A bitmap decides as long as it lists anything, and the versions of the two hellos decide
otherwise. So the choice follows the peer's word unless the peer sent bitmaps that list nothing,
and the versions of the hellos nevertheless lead to one of ours. -/
theorem negotiate_honours_iff {ours : List Version} (hours : ours.Pairwise (· < ·)) {h : Header}
    {body : Bytes} {m : Message} (htype : h.type = 0) (hversion : h.version ≠ Version.v10)
    (hlength : h.bodyLength = body.length) (hm : Codec.decode h body = .ok m) :
    ∃ es listed, Hello.Form body es ∧ m = .hello listed ∧
      ((∃ v, Hello.Lists es v) → ∀ v,
        negotiate ours h.version listed = some v ↔ IsGreatestOf ours (Hello.Lists es) v) ∧
      ((∀ v, ¬ Hello.Lists es v) → ∀ v,
        negotiate ours h.version listed = some v ↔ IsFallback ours h.version v) ∧
      (Honours ours h.version es (negotiate ours h.version listed) ↔
        ¬ (Hello.HasBitmap es ∧ (∀ v, ¬ Hello.Lists es v) ∧ ∃ v, IsFallback ours h.version v)) := by
  obtain ⟨es, hform, rfl⟩ := (Codec.decode_hello htype hversion hlength).1 hm
  have hlisted (hany : ∃ v, Hello.Lists es v) (v : Version) :
      negotiate ours h.version (es.flatMap Hello.Element.versions) = some v ↔
        IsGreatestOf ours (Hello.Lists es) v := by
    have hne : es.flatMap Hello.Element.versions ≠ [] := by
      rw [ne_eq, Hello.versions_eq_nil_iff]
      exact fun hnone => hnone _ hany.choose_spec
    rw [negotiate_of_listed hours _ hne]
    simp only [Hello.mem_versions_iff]
  have hunlisted (hnone : ∀ v, ¬ Hello.Lists es v) (v : Version) :
      negotiate ours h.version (es.flatMap Hello.Element.versions) = some v ↔
        IsFallback ours h.version v := by
    rw [Hello.versions_eq_nil_iff.2 hnone, negotiate_nil hours]
  refine ⟨es, _, hform, rfl, hlisted, hunlisted, ?_⟩
  constructor
  · rintro ⟨hbitmap, -⟩ ⟨hhas, hnone, v, hv⟩
    -- the version that the hellos lead to is not listed
    have hchosen := (hunlisted hnone v).2 hv
    exact hnone v ((hbitmap hhas v).1 hchosen).2.1
  · intro hfails
    by_cases hany : ∃ v, Hello.Lists es v
    · exact ⟨fun _ => hlisted hany, fun hhas => absurd hany.choose_spec.hasBitmap hhas⟩
    · have hnone : ∀ v, ¬ Hello.Lists es v := fun v hv => hany ⟨v, hv⟩
      refine ⟨fun hhas v => ?_, fun _ => hunlisted hnone⟩
      rw [hunlisted hnone]
      constructor
      · exact fun hv => absurd ⟨hhas, hnone, v, hv⟩ hfails
      · exact fun hv => absurd hv.2.1 (hnone v)

/-- A hello of version 6 with an element of another type and a bitmap of versions 1 and 2. -/
theorem negotiate_honours_bitmap :
    ∃ es listed, Hello.Form [0, 2, 0, 5, 9, 0, 0, 0, 0, 1, 0, 8, 0, 0, 0, 6] es ∧
      Codec.decode ⟨6, 0, 24, 7⟩ [0, 2, 0, 5, 9, 0, 0, 0, 0, 1, 0, 8, 0, 0, 0, 6] =
        .ok (.hello listed) ∧
      Honours [1, 4] 6 es (negotiate [1, 4] 6 listed) ∧ negotiate [1, 4] 6 listed = some 1 := by
  have hours : ([1, 4] : List Version).Pairwise (· < ·) := by decide
  have hbitmap : Hello.Form [0, 1, 0, 8, 0, 0, 0, 6] [⟨1, [0, 0, 0, 6]⟩] :=
    @Hello.Form.element 1 [0, 0, 0, 6] [] [] [] (by decide) (by decide) (.inl rfl)
      (.tail (by decide))
  have hform : Hello.Form [0, 2, 0, 5, 9, 0, 0, 0, 0, 1, 0, 8, 0, 0, 0, 6]
      [⟨2, [9]⟩, ⟨1, [0, 0, 0, 6]⟩] :=
    @Hello.Form.element 2 [9] [0, 0, 0] _ _ (by decide) (by decide) (.inl rfl) hbitmap
  have hversions : [(⟨2, [9]⟩ : Hello.Element), ⟨1, [0, 0, 0, 6]⟩].flatMap Hello.Element.versions =
      [1, 2] := by
    simp only [List.flatMap_cons, List.flatMap_nil, Hello.Element.versions,
      Hello.bitmapVersions_word]
    decide
  have hdecode := (Codec.decode_hello (h := ⟨6, 0, 24, 7⟩) rfl (by decide) rfl).2 ⟨_, hform, rfl⟩
  obtain ⟨es, listed, hes, hm, -, -, hhonours⟩ :=
    negotiate_honours_iff hours rfl (by decide) rfl hdecode
  obtain rfl := hes.unique hform
  obtain rfl := Message.hello.inj hm
  have hlists : Hello.Lists [⟨2, [9]⟩, ⟨1, [0, 0, 0, 6]⟩] 1 :=
    Hello.mem_versions_iff.1 (hversions ▸ List.mem_cons_self)
  refine ⟨_, _, hes, hdecode, hhonours.2 fun hbad => hbad.2.1 1 hlists, ?_⟩
  rw [hversions]
  decide

/-- A hello of version 4 whose only element is a bitmap without a single bit: the choice falls on
version 4, which is not listed. -/
theorem negotiate_empty_bitmap :
    ∃ h es, Header.decode [4, 0, 0, 16, 0, 0, 0, 1, 0, 1, 0, 8, 0, 0, 0, 0] = .ok h ∧
      h.type = 0 ∧ h.version = 4 ∧ h.bodyLength = 8 ∧
      Codec.decode h [0, 1, 0, 8, 0, 0, 0, 0] = .ok (.hello []) ∧
      Hello.Form [0, 1, 0, 8, 0, 0, 0, 0] es ∧ Hello.HasBitmap es ∧
      negotiate [1, 4] h.version [] = some 4 ∧ ¬ Hello.Lists es 4 ∧
      ¬ Honours [1, 4] h.version es (negotiate [1, 4] h.version []) := by
  have hform : Hello.Form [0, 1, 0, 8, 0, 0, 0, 0] [⟨1, [0, 0, 0, 0]⟩] :=
    @Hello.Form.element 1 [0, 0, 0, 0] [] [] [] (by decide) (by decide) (.inl rfl)
      (.tail (by decide))
  have hversions : [(⟨1, [0, 0, 0, 0]⟩ : Hello.Element)].flatMap Hello.Element.versions = [] := by
    simp only [List.flatMap_cons, List.flatMap_nil, Hello.Element.versions,
      Hello.bitmapVersions_word]
    decide
  have hnone := Hello.versions_eq_nil_iff.1 hversions
  have hhas : Hello.HasBitmap [⟨1, [0, 0, 0, 0]⟩] := ⟨_, List.mem_cons_self, rfl⟩
  have hdecode := (Codec.decode_hello (h := ⟨4, 0, 16, 1⟩) rfl (by decide) rfl).2 ⟨_, hform, rfl⟩
  rw [hversions] at hdecode
  refine ⟨⟨4, 0, 16, 1⟩, _, rfl, rfl, rfl, rfl, hdecode, hform, hhas, rfl, hnone 4, fun hbad => ?_⟩
  exact hnone 4 ((hbad.1 hhas 4).1 rfl).2.1

end Southbound
