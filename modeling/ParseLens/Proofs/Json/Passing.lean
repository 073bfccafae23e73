import ParseLens.Json.Pass
import ParseLens.Proofs.Json.HeadForm

set_option autoImplicit false

/-!
# JSON: what is passed over

The value of a member that nobody asked for is passed over, and that is where the grammar as a whole
is checked: what is passed over are the values of the grammar, and nothing else.

The code goes through values, elements and members in turn and keeps a proof of how much is left.
`passArray` and `passObject` say what it does behind a bracket without these proofs, in the way in
which the grammar is put.

* `run_pass_of_form` and `form_of_run_pass` are the two directions.
-/

namespace ParseLens.Json

variable {s t u v rest : List Char}

/-! ## What the code does -/

/-- What is left, without the proof that it is shorter. -/
def bare {s : List Char} : Except Fault (Shorter s) → Except Fault (List Char)
  | .error e => .error e
  | .ok rest => .ok rest.1

/-- Pass over what stands behind an opening bracket of an array, or behind an element. -/
def passArray (first : Bool) (s : List Char) : Except Fault (List Char) :=
  match skipBlank s with
  | [] => .error ⟨.endInList, [], 0⟩
  | ']' :: rest => .ok rest
  | c :: rest =>
    if first then bare (passElements s)
    else if c = ',' then bare (passElements rest)
    else .error ⟨.listEndExpected, c :: rest, 1⟩

/-- Pass over what stands behind an opening bracket of an object, or behind a member. -/
def passObject (first : Bool) (s : List Char) : Except Fault (List Char) :=
  match skipBlank s with
  | [] => .error ⟨.endInObject, [], 0⟩
  | '}' :: rest => .ok rest
  | c :: rest =>
    if first then bare (passMembers s)
    else if c = ',' then bare (passMembers rest)
    else .error ⟨.objectEndExpected, c :: rest, 1⟩

section Equations

variable {first : Bool} {c : Char}

theorem exists_eq_cons_of_ne_nil {close : Char} (hnil : s ≠ []) (hclose : ∀ t, s ≠ close :: t) :
    ∃ c t, s = c :: t ∧ c ≠ close := by
  obtain ⟨c, t, rfl⟩ := List.exists_cons_of_ne_nil hnil
  refine ⟨c, t, rfl, ?_⟩
  rintro rfl
  exact hclose t rfl

theorem passArray_close (h : skipBlank s = ']' :: rest) : passArray first s = .ok rest := by
  simp [passArray, h]

theorem passArray_open (h : skipBlank s = c :: t) (hc : c ≠ ']') :
    passArray true s = bare (passElements s) := by
  simp [passArray, h]

theorem passArray_comma (h : skipBlank s = ',' :: t) :
    passArray false s = bare (passElements t) := by
  simp [passArray, h]

theorem passObject_close (h : skipBlank s = '}' :: rest) : passObject first s = .ok rest := by
  simp [passObject, h]

theorem passObject_open (h : skipBlank s = c :: t) (hc : c ≠ '}') :
    passObject true s = bare (passMembers s) := by
  simp [passObject, h]

theorem passObject_comma (h : skipBlank s = ',' :: t) :
    passObject false s = bare (passMembers t) := by
  simp [passObject, h]

theorem bare_passValue_array (h : skipBlank s = '[' :: t) :
    bare (passValue s) = passArray true t := by
  rw [passValue]
  split
  · rename_i t' hs
    obtain rfl : t = t' := by simpa [h] using hs
    split
    · rename_i hk
      simp [passArray, hk, bare]
    · rename_i hk
      rw [passArray_close hk]
      rfl
    · rename_i hnil hclose
      obtain ⟨c, u, hk, hc⟩ := exists_eq_cons_of_ne_nil hnil fun _ => hclose _
      rw [passArray_open hk hc]
      cases passElements t <;> rfl
  · rename_i hs
    simp [h] at hs
  · rename_i hs _
    exact absurd h (hs _)

theorem bare_passValue_object (h : skipBlank s = '{' :: t) :
    bare (passValue s) = passObject true t := by
  rw [passValue]
  split
  · rename_i hs
    simp [h] at hs
  · rename_i t' hs
    obtain rfl : t = t' := by simpa [h] using hs
    split
    · rename_i hk
      simp [passObject, hk, bare]
    · rename_i hk
      rw [passObject_close hk]
      rfl
    · rename_i hnil hclose
      obtain ⟨c, u, hk, hc⟩ := exists_eq_cons_of_ne_nil hnil fun _ => hclose _
      rw [passObject_open hk hc]
      cases passMembers t <;> rfl
  · rename_i hs
    exact absurd h (hs _)

theorem bare_passValue_atom (harray : ∀ t, skipBlank s ≠ '[' :: t)
    (hobject : ∀ t, skipBlank s ≠ '{' :: t) : bare (passValue s) = passAtom (skipBlank s) := by
  rw [passValue]
  split
  · rename_i hs
    exact absurd hs (harray _)
  · rename_i hs
    exact absurd hs (hobject _)
  · split
    · rename_i hatom
      exact hatom.symm
    · rename_i hatom
      exact hatom.symm

theorem bare_passElements (s : List Char) : bare (passElements s) =
    match bare (passValue s) with
    | .error e => .error e
    | .ok t => passArray false t := by
  rw [passElements]
  cases passValue s with
  | error e => rfl
  | ok t =>
    obtain ⟨t, ht⟩ := t
    show bare _ = passArray false t
    dsimp only
    split
    · rename_i hk
      simp [passArray, hk, bare]
    · rename_i hk
      rw [passArray_close hk]
      rfl
    · rename_i hk
      rw [passArray_comma hk]
      cases passElements _ <;> rfl
    · rename_i hnil hclose hcomma
      obtain ⟨c, u, hk, hc⟩ := exists_eq_cons_of_ne_nil hnil fun _ => hclose _
      have hc' : c ≠ ',' := by
        rintro rfl
        exact hcomma _ hk
      simp [passArray, hk, hc', bare]

theorem exists_passName_of_bare (h : bare (passMembers s) = .ok rest) :
    ∃ v, passName s = .ok v := by
  rw [passMembers] at h
  split at h
  · simp [bare] at h
  · rename_i v hn
    exact ⟨v, hn⟩

theorem bare_passMembers (hn : passName s = .ok v) : bare (passMembers s) =
    match bare (passValue v) with
    | .error e => .error e
    | .ok t => passObject false t := by
  rw [passMembers]
  split
  · rename_i hn'
    simp [hn] at hn'
  · rename_i v' hn'
    obtain rfl : v = v' := by simpa [hn] using hn'
    dsimp only
    cases passValue v with
    | error e => rfl
    | ok t =>
      obtain ⟨t, ht⟩ := t
      show bare _ = passObject false t
      dsimp only
      split
      · rename_i hk
        simp [passObject, hk, bare]
      · rename_i hk
        rw [passObject_close hk]
        rfl
      · rename_i hk
        rw [passObject_comma hk]
        cases passMembers _ <;> rfl
      · rename_i hnil hclose hcomma
        obtain ⟨c, u, hk, hc⟩ := exists_eq_cons_of_ne_nil hnil fun _ => hclose _
        have hc' : c ≠ ',' := by
          rintro rfl
          exact hcomma _ hk
        simp [passObject, hk, hc', bare]

end Equations

/-! ## Names and colons -/

theorem readColon_eq_ok_iff : readColon s = .ok t ↔ Gap s (':' :: t) := by
  refine ⟨fun h => ?_, fun h => ?_⟩
  · unfold readColon at h
    split at h
    · simp at h
    · rename_i hs
      obtain rfl := Except.ok.inj h
      exact .of_skipBlank hs
    · simp at h
  · simp [readColon, h.skipBlank_cons (by decide)]

theorem passName_eq_ok_iff : passName s = .ok v ↔
    ∃ name t, Gap s ('"' :: name) ∧ IsLiteral name t ∧ Gap t (':' :: v) := by
  refine ⟨fun h => ?_, ?_⟩
  · unfold passName at h
    split at h
    · simp at h
    · rename_i name hs
      split at h
      · simp at h
      · rename_i t hname
        exact ⟨name, t, .of_skipBlank hs, passString_eq_ok_iff.1 hname, readColon_eq_ok_iff.1 h⟩
    · simp at h
  · rintro ⟨name, t, hs, hname, hcolon⟩
    simp only [passName, hs.skipBlank_cons (by decide), passString_eq_ok_iff.2 hname,
      readColon_eq_ok_iff.2 hcolon]

/-! ## What has the form is passed over -/

/-- The first text is passed over up to the second. -/
def Part.Passes : Part → List Char → List Char → Prop
  | .value, s, rest => Bounded rest → ∀ w, Gap w s → bare (passValue w) = .ok rest
  | .elements first, s, rest => passArray first s = .ok rest
  | .members first, s, rest => passObject first s = .ok rest

theorem passAtom_word {w : List Char} (hw : w ∈ words) (rest : List Char) :
    passAtom (w ++ rest) = .ok rest := by
  simp only [words, List.mem_cons, List.not_mem_nil, or_false] at hw
  rcases hw with rfl | rfl | rfl
  · exact readWord_append ['u', 'l', 'l'] rest
  · exact readWord_append ['r', 'u', 'e'] rest
  · exact readWord_append ['a', 'l', 's', 'e'] rest

theorem passAtom_number {c : Char} (hc : c = '-' ∨ c.isDigit = true) :
    passAtom (c :: s) = passNumber (c :: s) := by
  rw [passAtom]
  · rw [if_pos hc]
  all_goals exact ne_of_number hc (by decide)

/-- A value is passed over by what it starts with. -/
theorem bare_passValue_of_atom {c : Char} (hs : Gap s (c :: t)) (hc : isBlank c = false)
    (harray : c ≠ '[') (hobject : c ≠ '{') : bare (passValue s) = passAtom (c :: t) := by
  have hskip := hs.skipBlank_cons hc
  rw [bare_passValue_atom, hskip]
  · simp [hskip, harray]
  · simp [hskip, hobject]

/-- Whatever has the form is passed over. -/
theorem Form.passes {p : Part} (h : Form p s rest) : p.Passes s rest := by
  induction h with
  | @word w hw rest =>
    intro _ x hx
    have hpass := passAtom_word hw rest
    obtain ⟨c, t, rfl, hblank, -, harray, hobject⟩ := exists_eq_cons_of_mem_words hw
    exact (bare_passValue_of_atom hx hblank harray hobject).trans hpass
  | string h =>
    intro _ x hx
    rw [bare_passValue_of_atom hx (by decide) (by decide) (by decide)]
    exact passString_eq_ok_iff.2 h
  | number h =>
    intro hrest x hx
    obtain ⟨c, t, rfl, hc⟩ := h.exists_eq_cons
    have harray : c ≠ '[' := ne_of_number hc (by decide)
    have hobject : c ≠ '{' := ne_of_number hc (by decide)
    rw [bare_passValue_of_atom hx (not_isBlank_of_number hc).1 harray hobject, passAtom_number hc]
    exact passNumber_of_isNumber h hrest.numberEnds
  | array h ih =>
    intro _ x hx
    rw [bare_passValue_array (hx.skipBlank_cons (by decide))]
    exact ih
  | object h ih =>
    intro _ x hx
    rw [bare_passValue_object (hx.skipBlank_cons (by decide))]
    exact ih
  | closeArray h => exact passArray_close (h.skipBlank_cons (by decide))
  | @element first s t u rest hs hvalue h ihvalue ih =>
    have hbounded : Bounded u := h.bounded (.inl rfl)
    have helements {w : List Char} (hw : Gap w t) : bare (passElements w) = .ok rest := by
      rw [bare_passElements, ihvalue hbounded w hw]
      exact ih
    obtain ⟨c, t', rfl, hblank, hclose⟩ := hvalue.exists_eq_cons
    cases first with
    | true =>
      rw [Part.Passes, passArray_open (hs.skipBlank_cons hblank) hclose]
      exact helements hs
    | false =>
      obtain ⟨w, hcomma, hw⟩ := hs
      rw [Part.Passes, passArray_comma (hcomma.skipBlank_cons (by decide))]
      exact helements hw
  | closeObject h => exact passObject_close (h.skipBlank_cons (by decide))
  | @member first s name t c v u rest hs hname hcolon hv hvalue h ihvalue ih =>
    have hbounded : Bounded u := h.bounded (.inr rfl)
    have hmembers {w : List Char} (hw : Gap w ('"' :: name)) : bare (passMembers w) = .ok rest := by
      rw [bare_passMembers (passName_eq_ok_iff.2 ⟨name, t, hw, hname, hcolon⟩),
        ihvalue hbounded c hv]
      exact ih
    cases first with
    | true =>
      rw [Part.Passes, passObject_open (hs.skipBlank_cons (by decide)) (by decide)]
      exact hmembers hs
    | false =>
      obtain ⟨w, hcomma, hw⟩ := hs
      rw [Part.Passes, passObject_comma (hcomma.skipBlank_cons (by decide))]
      exact hmembers hw

/-! ## What is passed over has the form -/

theorem bare_shorter {o : Except Fault (Shorter s)} (h : bare o = .ok rest) :
    rest.length < s.length := by
  cases o with
  | error e => simp [bare] at h
  | ok r =>
    obtain rfl := Except.ok.inj h
    exact r.2

theorem form_of_passAtom (h : passAtom s = .ok rest) : Form .value s rest := by
  unfold passAtom at h
  split at h
  · simp at h
  · rw [eq_append_of_readWord h]
    exact .word (w := ['n', 'u', 'l', 'l']) (by decide) rest
  · rw [eq_append_of_readWord h]
    exact .word (w := ['t', 'r', 'u', 'e']) (by decide) rest
  · rw [eq_append_of_readWord h]
    exact .word (w := ['f', 'a', 'l', 's', 'e']) (by decide) rest
  · exact .string (passString_eq_ok_iff.1 h)
  · split at h
    · exact .number (isNumber_of_passNumber h)
    · simp at h

/-- What is passed over of this text has the form. -/
structure Formed (s : List Char) : Prop where
  value : ∀ rest, bare (passValue s) = .ok rest → ∃ t, Gap s t ∧ Form .value t rest
  array : ∀ first rest, passArray first s = .ok rest → Form (.elements first) s rest
  object : ∀ first rest, passObject first s = .ok rest → Form (.members first) s rest

theorem length_lt_of_skipBlank {c : Char} (h : skipBlank s = c :: t) : t.length < s.length := by
  have hle := length_skipBlank_le s
  rw [h] at hle
  exact hle

section Step

variable (ih : ∀ t : List Char, t.length < s.length → Formed t)
include ih

theorem form_of_passValue (h : bare (passValue s) = .ok rest) :
    ∃ t, Gap s t ∧ Form .value t rest := by
  by_cases harray : ∃ t, skipBlank s = '[' :: t
  · obtain ⟨t, hs⟩ := harray
    rw [bare_passValue_array hs] at h
    exact ⟨_, .of_skipBlank hs, .array ((ih t (length_lt_of_skipBlank hs)).array true rest h)⟩
  · by_cases hobject : ∃ t, skipBlank s = '{' :: t
    · obtain ⟨t, hs⟩ := hobject
      rw [bare_passValue_object hs] at h
      exact ⟨_, .of_skipBlank hs, .object ((ih t (length_lt_of_skipBlank hs)).object true rest h)⟩
    · rw [bare_passValue_atom (not_exists.1 harray) (not_exists.1 hobject)] at h
      exact ⟨_, gap_skipBlank s, form_of_passAtom h⟩

theorem form_of_passElements (h : bare (passElements s) = .ok rest) :
    ∃ t u, Gap s t ∧ Form .value t u ∧ Form (.elements false) u rest := by
  rw [bare_passElements] at h
  split at h
  · simp at h
  · rename_i u hu
    obtain ⟨t, hs, ht⟩ := form_of_passValue ih hu
    exact ⟨t, u, hs, ht, (ih u (bare_shorter hu)).array false rest h⟩

theorem form_of_passMembers (h : bare (passMembers s) = .ok rest) :
    ∃ name t c v u, Gap s ('"' :: name) ∧ IsLiteral name t ∧ Gap t (':' :: c) ∧ Gap c v ∧
      Form .value v u ∧ Form (.members false) u rest := by
  obtain ⟨c, hc⟩ := exists_passName_of_bare h
  have hshorter := passName_shorter hc
  rw [bare_passMembers hc] at h
  split at h
  · simp at h
  · rename_i u hu
    obtain ⟨v, hv, hvalue⟩ := (ih c hshorter).value u hu
    obtain ⟨name, t, hs, hname, hcolon⟩ := passName_eq_ok_iff.1 hc
    have hrest := (ih u (Nat.lt_trans (bare_shorter hu) hshorter)).object false rest h
    exact ⟨name, t, c, v, u, hs, hname, hcolon, hv, hvalue, hrest⟩

theorem form_of_passArray {first : Bool} (h : passArray first s = .ok rest) :
    Form (.elements first) s rest := by
  unfold passArray at h
  split at h
  · simp at h
  · rename_i hs
    obtain rfl := Except.ok.inj h
    exact .closeArray (.of_skipBlank hs)
  · rename_i c w _ hs
    split at h
    · rename_i hfirst
      obtain ⟨t, u, hgap, hvalue, hrest⟩ := form_of_passElements ih h
      rw [hfirst]
      exact .element hgap hvalue hrest
    · rename_i hfirst
      split at h
      · rename_i hcomma
        subst hcomma
        have hw := length_lt_of_skipBlank hs
        obtain ⟨t, u, hgap, hvalue, hrest⟩ :=
          form_of_passElements (fun t ht => ih t (Nat.lt_trans ht hw)) h
        rw [Bool.eq_false_iff.2 hfirst]
        exact .element ⟨w, .of_skipBlank hs, hgap⟩ hvalue hrest
      · simp at h

theorem form_of_passObject {first : Bool} (h : passObject first s = .ok rest) :
    Form (.members first) s rest := by
  unfold passObject at h
  split at h
  · simp at h
  · rename_i hs
    obtain rfl := Except.ok.inj h
    exact .closeObject (.of_skipBlank hs)
  · rename_i c w _ hs
    split at h
    · rename_i hfirst
      obtain ⟨name, t, c, v, u, hgap, hname, hcolon, hv, hvalue, hrest⟩ := form_of_passMembers ih h
      rw [hfirst]
      exact .member hgap hname hcolon hv hvalue hrest
    · rename_i hfirst
      split at h
      · rename_i hcomma
        subst hcomma
        have hw := length_lt_of_skipBlank hs
        obtain ⟨name, t, c, v, u, hgap, hname, hcolon, hv, hvalue, hrest⟩ :=
          form_of_passMembers (fun t ht => ih t (Nat.lt_trans ht hw)) h
        rw [Bool.eq_false_iff.2 hfirst]
        exact .member ⟨w, .of_skipBlank hs, hgap⟩ hname hcolon hv hvalue hrest
      · simp at h

end Step

/-- Whatever is passed over has the form.  The induction is on the length: each of the three goes on
with one of them behind what it has passed. -/
theorem formed (s : List Char) : Formed s := by
  induction hn : s.length using Nat.strongRecOn generalizing s with
  | ind n ih =>
    have ih' (t : List Char) (ht : t.length < s.length) : Formed t := ih t.length (hn ▸ ht) t rfl
    exact ⟨fun _ => form_of_passValue ih', fun _ _ => form_of_passArray ih',
      fun _ _ => form_of_passObject ih'⟩

theorem run_pass_eq (s : List Char) :
    Reader.pass.run s = (bare (passValue s)).map fun rest => ((), rest) := by
  simp only [Reader.pass]
  cases passValue s <;> rfl

/-- A value of the grammar is passed over. -/
theorem run_pass_of_form (h : Form .value t rest) (hs : Gap s t) (hrest : Bounded rest) :
    Reader.pass.run s = .ok ((), rest) := by
  rw [run_pass_eq, h.passes hrest s hs]
  rfl

/-- Nothing else is passed over. -/
theorem form_of_run_pass (h : Reader.pass.run s = .ok ((), rest)) :
    ∃ t, Gap s t ∧ Form .value t rest := by
  rw [run_pass_eq] at h
  cases hbare : bare (passValue s) with
  | error e => simp [hbare, Except.map] at h
  | ok t =>
    rw [hbare] at h
    obtain rfl := (Prod.mk.inj (Except.ok.inj h)).2
    exact (formed s).value _ hbare

end ParseLens.Json
