import Mathlib.Data.List.TakeWhile
import ParseLens.Proofs.Json.NumberForm
import ParseLens.Proofs.Json.Spelling

set_option autoImplicit false

/-!
# JSON: well-formed texts

Which texts are JSON at all, said by a grammar: white space, and values inside each other to any
depth.  All of it is said of a text and of what is left of it behind a part, so the parts of a text
need not be put together.

* `Form` is the grammar, and `IsJson` is about whole texts.
-/

namespace ParseLens.Json

/-! ## White space -/

/-- Only white space stands between the start of the first text and the second. -/
def Gap (s t : List Char) : Prop := ∃ ws, Blanks ws ∧ s = ws ++ t

theorem Gap.refl (s : List Char) : Gap s s := ⟨[], blanks_nil, rfl⟩

theorem Gap.suffix {s t : List Char} (h : Gap s t) : t <:+ s := by
  obtain ⟨ws, -, rfl⟩ := h
  exact List.suffix_append ws t

theorem Gap.trans {s t u : List Char} (h : Gap s t) (h' : Gap t u) : Gap s u := by
  obtain ⟨ws, hws, rfl⟩ := h
  obtain ⟨ws', hws', rfl⟩ := h'
  refine ⟨ws ++ ws', fun c hc => ?_, (List.append_assoc ws ws' u).symm⟩
  exact (List.mem_append.1 hc).elim (hws c) (hws' c)

theorem Gap.append {s t : List Char} (h : Gap s t) (more : List Char) :
    Gap (s ++ more) (t ++ more) := by
  obtain ⟨ws, hws, rfl⟩ := h
  exact ⟨ws, hws, List.append_assoc ws t more⟩

theorem gap_skipBlank (s : List Char) : Gap s (skipBlank s) := by
  refine ⟨s.takeWhile isBlank, fun c hc => ?_, (List.takeWhile_append_dropWhile).symm⟩
  exact List.mem_takeWhile_imp hc

theorem Gap.of_skipBlank {s t : List Char} (h : skipBlank s = t) : Gap s t := h ▸ gap_skipBlank s

theorem Gap.skipBlank_eq {s t : List Char} (h : Gap s t) : skipBlank s = skipBlank t := by
  obtain ⟨ws, hws, rfl⟩ := h
  exact skipBlank_append hws t

theorem Gap.skipBlank_cons {s t : List Char} {c : Char} (h : Gap s (c :: t))
    (hc : isBlank c = false) : skipBlank s = c :: t := by
  rw [h.skipBlank_eq, skipBlank_cons_of_not_isBlank hc]

/-- A value may stand in front of white space that ends in a comma or closing bracket. -/
theorem Gap.bounded {s t : List Char} (h : Gap s t) (ht : Bounded t) : Bounded s := by
  obtain ⟨ws, hws, rfl⟩ := h
  exact bounded_blanks_append hws ht

/-- What stands in front of an element or member: white space, and a comma unless it is the first. -/
def Begins : Bool → List Char → List Char → Prop
  | true, s, t => Gap s t
  | false, s, t => ∃ u, Gap s (',' :: u) ∧ Gap u t

theorem Begins.suffix {first : Bool} {s t : List Char} (h : Begins first s t) : t <:+ s := by
  cases first with
  | true => exact Gap.suffix h
  | false =>
    obtain ⟨u, hcomma, hgap⟩ := h
    exact hgap.suffix.trans ((List.suffix_cons ',' u).trans hcomma.suffix)

theorem Begins.trans {first : Bool} {s t u : List Char} (h : Begins first s t) (h' : Gap t u) :
    Begins first s u := by
  cases first with
  | true => exact Gap.trans h h'
  | false =>
    obtain ⟨w, hcomma, hgap⟩ := h
    exact ⟨w, hcomma, hgap.trans h'⟩

theorem Begins.append {first : Bool} {s t : List Char} (h : Begins first s t) (more : List Char) :
    Begins first (s ++ more) (t ++ more) := by
  cases first with
  | true => exact Gap.append h more
  | false =>
    obtain ⟨w, hcomma, hgap⟩ := h
    exact ⟨w ++ more, hcomma.append more, hgap.append more⟩

/-! ## Values -/

variable {s rest : List Char}

/-- The letters of a word. -/
def words : List (List Char) :=
  [['n', 'u', 'l', 'l'], ['t', 'r', 'u', 'e'], ['f', 'a', 'l', 's', 'e']]

/-- What a text may go on with: a value without white space in front of it, or what stands behind an
opening bracket or behind an element or member, up to the closing bracket. -/
inductive Part where
  | value
  | elements (first : Bool)
  | members (first : Bool)

/-- The first text starts with the given part; the second is what follows. -/
inductive Form : Part → List Char → List Char → Prop where
  | word {w : List Char} (hw : w ∈ words) (rest : List Char) : Form .value (w ++ rest) rest
  | string {s rest : List Char} (h : IsLiteral s rest) : Form .value ('"' :: s) rest
  | number {s rest : List Char} (h : IsNumber s rest) : Form .value s rest
  | array {s rest : List Char} (h : Form (.elements true) s rest) : Form .value ('[' :: s) rest
  | object {s rest : List Char} (h : Form (.members true) s rest) : Form .value ('{' :: s) rest
  | closeArray {first : Bool} {s rest : List Char} (h : Gap s (']' :: rest)) :
      Form (.elements first) s rest
  | element {first : Bool} {s t u rest : List Char} (hs : Begins first s t)
      (hvalue : Form .value t u) (h : Form (.elements false) u rest) :
      Form (.elements first) s rest
  | closeObject {first : Bool} {s rest : List Char} (h : Gap s ('}' :: rest)) :
      Form (.members first) s rest
  | member {first : Bool} {s name t c v u rest : List Char} (hs : Begins first s ('"' :: name))
      (hname : IsLiteral name t) (hcolon : Gap t (':' :: c)) (hv : Gap c v)
      (hvalue : Form .value v u) (h : Form (.members false) u rest) :
      Form (.members first) s rest

/-- The whole text is one value, with white space around it. -/
def IsJson (text : List Char) : Prop :=
  ∃ s rest, Gap text s ∧ Form .value s rest ∧ Gap rest []

/-- A word starts with a letter: with no white space and no bracket. -/
theorem exists_eq_cons_of_mem_words {w : List Char} (hw : w ∈ words) :
    ∃ c t, w = c :: t ∧ isBlank c = false ∧ c ≠ ']' ∧ c ≠ '[' ∧ c ≠ '{' := by
  simp only [words, List.mem_cons, List.not_mem_nil, or_false] at hw
  rcases hw with rfl | rfl | rfl <;> exact ⟨_, _, rfl, by decide⟩

/-- A value is seen by its first character: it is no white space, and closes nothing. -/
theorem Form.exists_eq_cons (h : Form .value s rest) :
    ∃ c t, s = c :: t ∧ isBlank c = false ∧ c ≠ ']' := by
  cases h with
  | word hw =>
    obtain ⟨c, t, rfl, hblank, hclose, -⟩ := exists_eq_cons_of_mem_words hw
    exact ⟨c, _, rfl, hblank, hclose⟩
  | string => exact ⟨_, _, rfl, by decide, by decide⟩
  | number h =>
    obtain ⟨c, t, rfl, hc⟩ := h.exists_eq_cons
    exact ⟨c, t, rfl, not_isBlank_of_number hc⟩
  | array => exact ⟨_, _, rfl, by decide, by decide⟩
  | object => exact ⟨_, _, rfl, by decide, by decide⟩

/-- What follows a part is the end of what it started with. -/
theorem Form.suffix {p : Part} (h : Form p s rest) : rest <:+ s := by
  induction h with
  | @word w _ rest => exact List.suffix_append w rest
  | string h => exact h.suffix.trans (List.suffix_cons _ _)
  | number h => exact h.suffix
  | array _ ih => exact ih.trans (List.suffix_cons _ _)
  | object _ ih => exact ih.trans (List.suffix_cons _ _)
  | closeArray h => exact (List.suffix_cons _ _).trans h.suffix
  | element hs _ _ ihvalue ih => exact ih.trans (ihvalue.trans hs.suffix)
  | closeObject h => exact (List.suffix_cons _ _).trans h.suffix
  | member hs hname hcolon hv _ _ ihvalue ih =>
    have hbehind := (List.suffix_cons ':' _).trans (hcolon.suffix.trans hname.suffix)
    exact ih.trans (ihvalue.trans (hv.suffix.trans
      (hbehind.trans ((List.suffix_cons '"' _).trans hs.suffix))))

/-- What follows a part does not matter. -/
theorem Form.append {p : Part} (h : Form p s rest) (more : List Char) :
    Form p (s ++ more) (rest ++ more) := by
  induction h with
  | @word w hw rest =>
    rw [List.append_assoc]
    exact .word hw (rest ++ more)
  | string h => exact .string (h.append more)
  | number h => exact .number (h.append more)
  | array _ ih => exact .array ih
  | object _ ih => exact .object ih
  | closeArray h => exact .closeArray (h.append more)
  | element hs _ _ ihvalue ih => exact .element (hs.append more) ihvalue ih
  | closeObject h => exact .closeObject (h.append more)
  | member hs hname hcolon hv _ _ ihvalue ih =>
    exact .member (hs.append more) (hname.append more) (hcolon.append more) (hv.append more) ihvalue
      ih

/-- Behind an element or member stands a comma or closing bracket. -/
theorem Form.bounded {p : Part} (h : Form p s rest)
    (hp : p = .elements false ∨ p = .members false) : Bounded s := by
  cases h with
  | closeArray h => exact h.bounded (by simp [Bounded])
  | closeObject h => exact h.bounded (by simp [Bounded])
  | element hs _ _ =>
    obtain rfl : _ = false := by simpa using hp
    obtain ⟨w, hw, -⟩ := hs
    exact hw.bounded (by simp [Bounded])
  | member hs _ _ _ _ _ =>
    obtain rfl : _ = false := by simpa using hp
    obtain ⟨w, hw, -⟩ := hs
    exact hw.bounded (by simp [Bounded])
  | _ => simp at hp

end ParseLens.Json
