import ParseLens.Proofs.Json.Passing

set_option autoImplicit false

/-!
# JSON: what stands between brackets

Members and elements as they stand in any text, whoever wrote it: with white space between all
parts, and with names that may be spelled in many ways.  The values are kept as texts.

* `Members` and `Elements` are the grammar, `IsObject` and `IsArray` are about whole texts.
* `Members.unique` says that a text has its members in one way only.
* `isObject_objectText` says that members in any order make an object.
-/

namespace ParseLens.Json

/-! ## What stands between brackets -/

/-- The first text goes on with members of the given names and texts of values, and with the closing
bracket; the last is what follows. -/
inductive Members : Bool → List Char → List (String × List Char) → List Char → Prop where
  | close {first : Bool} {s rest : List Char} (h : Gap s ('}' :: rest)) : Members first s [] rest
  | member {first : Bool} {s literal t c v u rest : List Char} {name : String}
      {ms : List (String × List Char)} (hs : Begins first s ('"' :: literal))
      (hname : Spells literal name.toList t) (hcolon : Gap t (':' :: c)) (hv : Gap c (v ++ u))
      (hvalue : Form .value (v ++ u) u) (h : Members false u ms rest) :
      Members first s ((name, v) :: ms) rest

/-- The first text goes on with elements of the given texts, and with the closing bracket; the last
is what follows. -/
inductive Elements : Bool → List Char → List (List Char) → List Char → Prop where
  | close {first : Bool} {s rest : List Char} (h : Gap s (']' :: rest)) : Elements first s [] rest
  | element {first : Bool} {s v u rest : List Char} {vs : List (List Char)}
      (hs : Begins first s (v ++ u)) (hvalue : Form .value (v ++ u) u)
      (h : Elements false u vs rest) : Elements first s (v :: vs) rest

/-- The whole text is an object with these members. -/
def IsObject (text : List Char) (ms : List (String × List Char)) : Prop :=
  ∃ s rest, Gap text ('{' :: s) ∧ Members true s ms rest ∧ Gap rest []

/-- The whole text is an array of these elements. -/
def IsArray (text : List Char) (vs : List (List Char)) : Prop :=
  ∃ s rest, Gap text ('[' :: s) ∧ Elements true s vs rest ∧ Gap rest []

variable {first : Bool} {s t u v rest : List Char} {ms : List (String × List Char)}
  {vs : List (List Char)}

theorem Members.form (h : Members first s ms rest) : Form (.members first) s rest := by
  induction h with
  | close h => exact .closeObject h
  | member hs hname hcolon hv hvalue _ ih =>
    exact .member hs hname.isLiteral hcolon hv hvalue ih

theorem Elements.form (h : Elements first s vs rest) : Form (.elements first) s rest := by
  induction h with
  | close h => exact .closeArray h
  | element hs hvalue _ ih => exact .element hs hvalue ih

theorem IsObject.isJson {text : List Char} (h : IsObject text ms) : IsJson text := by
  obtain ⟨s, rest, htext, hms, hrest⟩ := h
  exact ⟨_, rest, htext, .object hms.form, hrest⟩

theorem IsArray.isJson {text : List Char} (h : IsArray text vs) : IsJson text := by
  obtain ⟨s, rest, htext, hvs, hrest⟩ := h
  exact ⟨_, rest, htext, .array hvs.form, hrest⟩

/-! ## Members in a row -/

/-- Members without white space, up to the closing bracket. -/
def membersText (first : Bool) : List (String × List Char) → List Char
  | [] => ['}']
  | (name, v) :: ms => separator first ++ literal name ++ ':' :: (v ++ membersText false ms)

/-- The compact text of an object with these members. -/
def objectText (ms : List (String × List Char)) : List Char := '{' :: membersText true ms

theorem begins_separator (first : Bool) (s : List Char) : Begins first (separator first ++ s) s := by
  cases first with
  | true => exact Gap.refl s
  | false => exact ⟨s, .refl _, .refl s⟩

theorem members_membersText (h : ∀ m ∈ ms, Form .value m.2 []) (first : Bool) :
    Members first (membersText first ms) ms [] := by
  induction ms generalizing first with
  | nil => exact .close (.refl _)
  | cons m ms ih =>
    obtain ⟨name, v⟩ := m
    obtain ⟨hv, hms⟩ := List.forall_mem_cons.1 h
    obtain ⟨t, ht, hname⟩ := spells_literal name (':' :: (v ++ membersText false ms))
    have hbegins := begins_separator first ('"' :: t)
    rw [← ht, ← List.append_assoc] at hbegins
    have hvalue := hv.append (membersText false ms)
    exact .member (ht ▸ hbegins) hname (.refl _) (.refl _) hvalue (ih hms false)

/-- Well-formed values under any names, in any order, are the members of an object. -/
theorem isObject_objectText (h : ∀ m ∈ ms, Form .value m.2 []) : IsObject (objectText ms) ms :=
  ⟨_, [], .refl _, members_membersText h true, .refl []⟩

/-! ## There is one way to read a text -/

theorem Gap.unique_cons {c d : Char} {t' : List Char} (h : Gap s (c :: t)) (h' : Gap s (d :: t'))
    (hc : isBlank c = false) (hd : isBlank d = false) : c = d ∧ t = t' := by
  have heq := (h.skipBlank_cons hc).symm.trans (h'.skipBlank_cons hd)
  exact List.cons.inj heq

/-- White space in front of a value and the value itself are told apart, and so is what follows. -/
theorem Form.unique_value {c v' u' : List Char} (hv : Gap c (v ++ u)) (hv' : Gap c (v' ++ u'))
    (hvalue : Form .value (v ++ u) u) (hvalue' : Form .value (v' ++ u') u') (hu : Bounded u)
    (hu' : Bounded u') : v = v' ∧ u = u' := by
  have hpass := hvalue.passes hu c hv
  rw [hvalue'.passes hu' c hv'] at hpass
  obtain rfl := Except.ok.inj hpass
  obtain ⟨x, t, hx, hblank, -⟩ := hvalue.exists_eq_cons
  obtain ⟨x', t', hx', hblank', -⟩ := hvalue'.exists_eq_cons
  rw [hx] at hv
  rw [hx'] at hv'
  obtain ⟨rfl, rfl⟩ := hv.unique_cons hv' hblank hblank'
  exact ⟨List.append_cancel_right (hx.trans hx'.symm), rfl⟩

theorem Begins.unique_cons {c d : Char} {t' : List Char} (h : Begins first s (c :: t))
    (h' : Begins first s (d :: t')) (hc : isBlank c = false) (hd : isBlank d = false) :
    c = d ∧ t = t' := by
  cases first with
  | true => exact Gap.unique_cons h h' hc hd
  | false =>
    obtain ⟨w, hw, hgap⟩ := h
    obtain ⟨w', hw', hgap'⟩ := h'
    obtain ⟨-, rfl⟩ := hw.unique_cons hw' (by decide) (by decide)
    exact hgap.unique_cons hgap' hc hd

theorem Begins.not_close {c d : Char} {t' : List Char} (h : Begins first s (c :: t))
    (h' : Gap s (d :: t')) (hc : isBlank c = false) (hd : isBlank d = false) (hne : c ≠ d)
    (hcomma : d ≠ ',') : False := by
  cases first with
  | true => exact hne (Gap.unique_cons h h' hc hd).1
  | false =>
    obtain ⟨w, hw, -⟩ := h
    exact hcomma (hw.unique_cons h' (by decide) hd).1.symm

/-- A text goes on with its members in one way only. -/
theorem Members.unique (h : Members first s ms rest) {ms' : List (String × List Char)}
    {rest' : List Char} (h' : Members first s ms' rest') : ms = ms' ∧ rest = rest' := by
  induction h generalizing ms' rest' with
  | close h =>
    cases h' with
    | close h' => exact ⟨rfl, (h.unique_cons h' (by decide) (by decide)).2⟩
    | member hs' =>
      exact (hs'.not_close h (by decide) (by decide) (by decide) (by decide)).elim
  | @member first s literal t c v u rest name ms hs hname hcolon hv hvalue h ih =>
    cases h' with
    | close h' =>
      exact (hs.not_close h' (by decide) (by decide) (by decide) (by decide)).elim
    | @member _ _ literal' t' c' v' u' _ name' ms' hs' hname' hcolon' hv' hvalue' h' =>
      obtain ⟨-, rfl⟩ := hs.unique_cons hs' (by decide) (by decide)
      obtain ⟨hnames, rfl⟩ := hname.unique hname'
      obtain ⟨-, rfl⟩ := hcolon.unique_cons hcolon' (by decide) (by decide)
      obtain ⟨rfl, rfl⟩ := Form.unique_value hv hv' hvalue hvalue' (h.form.bounded (.inr rfl))
        (h'.form.bounded (.inr rfl))
      obtain ⟨rfl, rfl⟩ := ih h'
      obtain rfl : name = name' := String.toList_injective hnames
      exact ⟨rfl, rfl⟩

theorem IsObject.unique {text : List Char} {ms' : List (String × List Char)}
    (h : IsObject text ms) (h' : IsObject text ms') : ms = ms' := by
  obtain ⟨s, rest, htext, hms, -⟩ := h
  obtain ⟨s', rest', htext', hms', -⟩ := h'
  obtain ⟨-, rfl⟩ := htext.unique_cons htext' (by decide) (by decide)
  exact (hms.unique hms').1

/-- An object is no array. -/
theorem IsObject.not_isArray {text : List Char} (h : IsObject text ms) : ¬ IsArray text vs := by
  obtain ⟨s, rest, htext, -, -⟩ := h
  rintro ⟨s', rest', htext', -, -⟩
  exact absurd (htext.unique_cons htext' (by decide) (by decide)).1 (by decide)

/-- A value that starts with a bracket goes on with what stands behind that bracket. -/
theorem Form.behind_bracket {c : Char} (h : Form .value (c :: s) rest) (hc : c = '[' ∨ c = '{') :
    (c = '[' ∧ Form (.elements true) s rest) ∨ (c = '{' ∧ Form (.members true) s rest) := by
  generalize heq : c :: s = text at h
  cases h with
  | word hw =>
    obtain ⟨d, t, rfl, -, -, harray, hobject⟩ := exists_eq_cons_of_mem_words hw
    obtain ⟨rfl, -⟩ := List.cons.inj heq
    exact absurd hc (not_or.2 ⟨harray, hobject⟩)
  | string => rcases hc with rfl | rfl <;> simp at heq
  | number h =>
    obtain ⟨d, t, rfl, hd⟩ := h.exists_eq_cons
    obtain ⟨rfl, -⟩ := List.cons.inj heq
    rcases hc with rfl | rfl <;> exact absurd hd (by decide)
  | array h =>
    obtain ⟨rfl, rfl⟩ := List.cons.inj heq
    exact .inl ⟨rfl, h⟩
  | object h =>
    obtain ⟨rfl, rfl⟩ := List.cons.inj heq
    exact .inr ⟨rfl, h⟩

/-- Nothing but white space stands behind an object that is a whole text. -/
theorem IsObject.gap_behind {text : List Char} (h : IsObject text ms) (hs : Gap text s)
    (hvalue : Form .value s rest) : Gap rest [] := by
  obtain ⟨s', rest', htext, hms, hrest⟩ := h
  obtain ⟨c, t, rfl, hc, -⟩ := hvalue.exists_eq_cons
  obtain ⟨rfl, rfl⟩ := hs.unique_cons htext hc (by decide)
  obtain ⟨heq, -⟩ | ⟨-, hform⟩ := hvalue.behind_bracket (.inr rfl)
  · exact absurd heq (by decide)
  · have hpass := hform.passes.symm.trans hms.form.passes
    exact Except.ok.inj hpass ▸ hrest

/-- Nothing but white space stands behind an array that is a whole text. -/
theorem IsArray.gap_behind {text : List Char} (h : IsArray text vs) (hs : Gap text s)
    (hvalue : Form .value s rest) : Gap rest [] := by
  obtain ⟨s', rest', htext, hvs, hrest⟩ := h
  obtain ⟨c, t, rfl, hc, -⟩ := hvalue.exists_eq_cons
  obtain ⟨rfl, rfl⟩ := hs.unique_cons htext hc (by decide)
  obtain ⟨-, hform⟩ | ⟨heq, -⟩ := hvalue.behind_bracket (.inl rfl)
  · have hpass := hform.passes.symm.trans hvs.form.passes
    exact Except.ok.inj hpass ▸ hrest
  · exact absurd heq (by decide)

/-! ## In front of a member or element -/

theorem nextMember_eq_some_iff :
    nextMember first s = .ok (some t) ↔ Begins first s ('"' :: t) := by
  refine ⟨fun h => ?_, fun h => ?_⟩
  · unfold nextMember at h
    split at h
    · simp at h
    · simp at h
    · rename_i c w _ hs
      split at h
      · rename_i hfirst
        split at h
        · rename_i hc
          obtain rfl : w = t := by simpa using h
          rw [hfirst, ← hc]
          exact .of_skipBlank hs
        · simp at h
      · rename_i hfirst
        split at h
        · rename_i hc
          split at h
          · simp at h
          · rename_i hw
            obtain rfl := Option.some.inj (Except.ok.inj h)
            rw [Bool.eq_false_iff.2 hfirst]
            exact ⟨w, hc ▸ .of_skipBlank hs, .of_skipBlank hw⟩
          · simp at h
          · simp at h
        · simp at h
  · cases first with
    | true =>
      have hs : skipBlank s = '"' :: t := Gap.skipBlank_cons h (by decide)
      simp [nextMember, hs]
    | false =>
      obtain ⟨w, hcomma, hw⟩ := h
      simp [nextMember, hcomma.skipBlank_cons (by decide), hw.skipBlank_cons (by decide)]

theorem nextMember_eq_none (h : nextMember first s = .ok none) : ∃ t, Gap s ('}' :: t) := by
  unfold nextMember at h
  split at h
  · simp at h
  · rename_i t hs
    exact ⟨t, .of_skipBlank hs⟩
  · split at h
    · split at h <;> simp at h
    · split at h
      · split at h <;> simp at h
      · simp at h

theorem closeObject_eq_ok_iff : closeObject s = .ok t ↔ Gap s ('}' :: t) := by
  refine ⟨fun h => ?_, fun h => closeObject_of_close (h.skipBlank_cons (by decide))⟩
  unfold closeObject at h
  split at h
  · simp at h
  · rename_i hs
    obtain rfl := Except.ok.inj h
    exact .of_skipBlank hs
  · simp at h
  · simp at h

theorem not_isBlank_of_skipBlank {c : Char} (h : skipBlank s = c :: t) : isBlank c = false := by
  cases hc : isBlank c with
  | false => rfl
  | true =>
    have hagain := skipBlank_skipBlank s
    rw [h, skipBlank_cons_of_isBlank hc] at hagain
    have hle := length_skipBlank_le t
    rw [hagain, List.length_cons] at hle
    omega

/-- In front of an element the reader finds a text that starts like a value. -/
theorem nextElement_eq_some_iff : nextElement first s = .ok (some t) ↔
    Begins first s t ∧ ∃ c u, t = c :: u ∧ isBlank c = false ∧ c ≠ ']' := by
  refine ⟨fun h => ?_, ?_⟩
  · unfold nextElement at h
    split at h
    · simp at h
    · simp at h
    · rename_i c w hclose hs
      split at h
      · rename_i hfirst
        obtain rfl := Option.some.inj (Except.ok.inj h)
        rw [hfirst]
        exact ⟨.of_skipBlank hs, c, w, rfl, not_isBlank_of_skipBlank hs, fun he => hclose he⟩
      · rename_i hfirst
        split at h
        · rename_i hc
          split at h
          · simp at h
          · simp at h
          · rename_i hnil hclose'
            obtain rfl := Option.some.inj (Except.ok.inj h)
            obtain ⟨d, u, hw, hd⟩ := exists_eq_cons_of_ne_nil hnil hclose'
            rw [Bool.eq_false_iff.2 hfirst]
            exact ⟨⟨w, hc ▸ .of_skipBlank hs, gap_skipBlank w⟩, d, u, hw,
              not_isBlank_of_skipBlank hw, hd⟩
        · simp at h
  · rintro ⟨hbegins, c, u, rfl, hc, hclose⟩
    cases first with
    | true =>
      have hs : skipBlank s = c :: u := Gap.skipBlank_cons hbegins hc
      simp [nextElement, hs]
    | false =>
      obtain ⟨w, hcomma, hw⟩ := hbegins
      simp [nextElement, hcomma.skipBlank_cons (by decide), hw.skipBlank_cons hc, hclose]

theorem nextElement_eq_none (h : nextElement first s = .ok none) : ∃ t, Gap s (']' :: t) := by
  unfold nextElement at h
  split at h
  · simp at h
  · rename_i t hs
    exact ⟨t, .of_skipBlank hs⟩
  · split at h
    · simp at h
    · split at h
      · split at h <;> simp at h
      · simp at h

theorem closeList_eq_ok_iff : closeList s = .ok t ↔ Gap s (']' :: t) := by
  refine ⟨fun h => ?_, fun h => closeList_of_close (h.skipBlank_cons (by decide))⟩
  unfold closeList at h
  split at h
  · simp at h
  · rename_i hs
    obtain rfl := Except.ok.inj h
    exact .of_skipBlank hs
  · split at h <;> simp at h
  · simp at h

end ParseLens.Json
