import ParseLens.Json.Sequence
import ParseLens.Proofs.Json.Literal

set_option autoImplicit false

/-!
# JSON: written punctuation reads back

What the readers of elements and members do in the places that a written array or object has:
in front of an element or member, in front of a closing bracket, and between a name and its value.
White space is arbitrary throughout.
-/

namespace ParseLens.Json

/-- A text of white space only. -/
def Blanks (ws : List Char) : Prop := ∀ c ∈ ws, isBlank c = true

theorem blanks_nil : Blanks [] := by simp [Blanks]

theorem Spacing.blanks_lineBreak (sp : Spacing) (depth : Nat) : Blanks (sp.lineBreak depth) :=
  sp.isBlank_lineBreak depth

theorem Spacing.blanks_afterColon (sp : Spacing) : Blanks sp.afterColon := sp.isBlank_afterColon

theorem skipBlank_blanks_append {ws : List Char} (h : Blanks ws) {c : Char} (hc : isBlank c = false)
    (t : List Char) : skipBlank (ws ++ c :: t) = c :: t := by
  rw [skipBlank_append h, skipBlank_cons_of_not_isBlank hc]

/-- What stands in front of an element or member: a comma, unless it is the first. -/
def separator (first : Bool) : List Char := if first then [] else [',']

/-! ## Elements -/

theorem nextElement_of_close {first : Bool} {s t : List Char} (h : skipBlank s = ']' :: t) :
    nextElement first s = .ok none := by
  simp [nextElement, h]

/-- In front of a value the reader finds the value. -/
theorem nextElement_separator (first : Bool) {ws : List Char} (hws : Blanks ws) {c : Char}
    (hc : isBlank c = false) (hclose : c ≠ ']') (t : List Char) :
    nextElement first (separator first ++ ws ++ c :: t) = .ok (some (c :: t)) := by
  have hskip : skipBlank (ws ++ c :: t) = c :: t := skipBlank_blanks_append hws hc t
  cases first with
  | true => simp [separator, nextElement, hskip]
  | false =>
    show nextElement false (',' :: (ws ++ c :: t)) = _
    have hcomma := skipBlank_cons_of_not_isBlank (show isBlank ',' = false from rfl) (ws ++ c :: t)
    simp [nextElement, hcomma, hskip, hclose]

theorem closeList_of_close {s t : List Char} (h : skipBlank s = ']' :: t) :
    closeList s = .ok t := by
  simp [closeList, h]

section Elements

variable {α : Type} {element : Reader α} {first : Bool} {s t rest : List Char}

theorem readElements_of_close (h : skipBlank s = ']' :: t) :
    readElements element first s = .ok ([], s) := by
  rw [readElements]
  split
  · rename_i hn
    rw [nextElement_of_close h] at hn
    simp at hn
  · rfl
  · rename_i hn
    rw [nextElement_of_close h] at hn
    simp at hn

theorem readElements_cons {a : α} {as : List α} {rest' : List Char}
    (hn : nextElement first s = .ok (some t)) (hr : element.run t = .ok (a, rest))
    (hrest : readElements element false rest = .ok (as, rest')) :
    readElements element first s = .ok (a :: as, rest') := by
  rw [readElements]
  split
  · rename_i hn'
    simp [hn] at hn'
  · rename_i hn'
    simp [hn] at hn'
  · rename_i hn'
    obtain rfl : t = _ := by simpa [hn] using hn'
    split
    · rename_i hr'
      simp [hr] at hr'
    · rename_i hr'
      simp only [hr, Except.ok.injEq, Prod.mk.injEq] at hr'
      obtain ⟨rfl, rfl⟩ := hr'
      rw [hrest]

end Elements

/-! ## Members -/

theorem nextMember_of_close {first : Bool} {s t : List Char} (h : skipBlank s = '}' :: t) :
    nextMember first s = .ok none := by
  simp [nextMember, h]

/-- In front of a member the reader finds the text behind the quote that opens its name. -/
theorem nextMember_separator (first : Bool) {ws : List Char} (hws : Blanks ws) (t : List Char) :
    nextMember first (separator first ++ ws ++ '"' :: t) = .ok (some t) := by
  have hskip : skipBlank (ws ++ '"' :: t) = '"' :: t := skipBlank_blanks_append hws rfl t
  cases first with
  | true => simp [separator, nextMember, hskip]
  | false =>
    show nextMember false (',' :: (ws ++ '"' :: t)) = _
    have hcomma :=
      skipBlank_cons_of_not_isBlank (show isBlank ',' = false from rfl) (ws ++ '"' :: t)
    simp [nextMember, hcomma, hskip]

theorem closeObject_of_close {s t : List Char} (h : skipBlank s = '}' :: t) :
    closeObject s = .ok t := by
  simp [closeObject, h]

theorem readColon_colon (s : List Char) : readColon (':' :: s) = .ok s := by
  simp [readColon, skipBlank_cons_of_not_isBlank (show isBlank ':' = false from rfl)]

section Members

variable {α : Type} {value : Reader α} {first : Bool} {s t u rest : List Char} {name : String}

theorem readMembers_of_close (h : skipBlank s = '}' :: t) :
    readMembers value first s = .ok ([], s) := by
  rw [readMembers]
  split
  · rename_i hn
    rw [nextMember_of_close h] at hn
    simp at hn
  · rfl
  · rename_i hn
    rw [nextMember_of_close h] at hn
    simp at hn

theorem readMembers_cons {a : α} {ms : List (String × α)} {rest' : List Char}
    (hn : nextMember first s = .ok (some t)) (hs : readName t = .ok (name, u))
    (hr : value.run u = .ok (a, rest)) (hrest : readMembers value false rest = .ok (ms, rest')) :
    readMembers value first s = .ok ((name, a) :: ms, rest') := by
  rw [readMembers]
  split
  · rename_i hn'
    simp [hn] at hn'
  · rename_i hn'
    simp [hn] at hn'
  · rename_i hn'
    obtain rfl : t = _ := by simpa [hn] using hn'
    split
    · rename_i hs'
      simp [hs] at hs'
    · rename_i hs'
      simp only [hs, Except.ok.injEq, Prod.mk.injEq] at hs'
      obtain ⟨rfl, rfl⟩ := hs'
      split
      · rename_i hr'
        simp [hr] at hr'
      · rename_i hr'
        simp only [hr, Except.ok.injEq, Prod.mk.injEq] at hr'
        obtain ⟨rfl, rfl⟩ := hr'
        rw [hrest]

end Members

end ParseLens.Json
