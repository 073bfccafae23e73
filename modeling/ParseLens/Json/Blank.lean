set_option autoImplicit false

/-!
# JSON: white space

The four characters that may stand between the parts of a JSON text.  They are fewer than the
white space of `ParseLens.Text.Blank`: a no-break space or a form feed does not belong here.
-/

namespace ParseLens.Json

/-- Space, tab, line feed and carriage return. -/
def isBlank (c : Char) : Bool := c == ' ' || c == '\n' || c == '\t' || c == '\r'

/-- The text from its first character on that is not white space. -/
def skipBlank (s : List Char) : List Char := s.dropWhile isBlank

@[simp] theorem skipBlank_nil : skipBlank [] = [] := rfl

theorem skipBlank_cons_of_isBlank {c : Char} (h : isBlank c = true) (s : List Char) :
    skipBlank (c :: s) = skipBlank s := by
  simp [skipBlank, h]

theorem skipBlank_cons_of_not_isBlank {c : Char} (h : isBlank c = false) (s : List Char) :
    skipBlank (c :: s) = c :: s := by
  simp [skipBlank, h]

/-- White space in front of a text is passed over. -/
theorem skipBlank_append {ws : List Char} (h : ∀ c ∈ ws, isBlank c = true) (s : List Char) :
    skipBlank (ws ++ s) = skipBlank s := by
  induction ws with
  | nil => rfl
  | cons c ws ih =>
    rw [List.cons_append, skipBlank_cons_of_isBlank (h c (by simp))]
    exact ih fun d hd => h d (by simp [hd])

theorem length_skipBlank_le (s : List Char) : (skipBlank s).length ≤ s.length := by
  induction s with
  | nil => simp
  | cons c s ih =>
    cases h : isBlank c
    · simp [skipBlank_cons_of_not_isBlank h]
    · rw [skipBlank_cons_of_isBlank h]
      exact Nat.le_succ_of_le ih

@[simp] theorem skipBlank_skipBlank (s : List Char) : skipBlank (skipBlank s) = skipBlank s := by
  induction s with
  | nil => rfl
  | cons c s ih =>
    cases h : isBlank c
    · rw [skipBlank_cons_of_not_isBlank h, skipBlank_cons_of_not_isBlank h]
    · rw [skipBlank_cons_of_isBlank h, ih]

end ParseLens.Json
