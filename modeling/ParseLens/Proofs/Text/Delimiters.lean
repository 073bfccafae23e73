import ParseLens.Proofs.Text.Words

set_option autoImplicit false

/-!
# Text: where a text can be cut

Parts that are written one behind the other can be told apart again if a character between them is
missing on one side.  A text is cut in one way at the first place of a character, and in one way at
its last place, whatever stands on the other side (`append_cons_inj_of_first`,
`append_cons_inj_of_last`).  Words are joined by blanks, and have none, so joining loses nothing
(`words_intercalate`).
-/

namespace ParseLens.Text

/-! ## Cutting at a character -/

variable {c : Char} {x y r s : List Char}

theorem append_cons_inj_of_first (hx : c ∉ x) (hy : c ∉ y) :
    x ++ c :: r = y ++ c :: s ↔ x = y ∧ r = s := by
  refine ⟨fun h => ?_, by rintro ⟨rfl, rfl⟩; rfl⟩
  -- the longer front would go beyond the character, and so hold it
  rcases List.append_eq_append_iff.1 h with ⟨t, rfl, ht⟩ | ⟨t, rfl, ht⟩
  · cases t with
    | nil => exact ⟨by simp, (List.cons.inj ht).2⟩
    | cons d t =>
      obtain ⟨rfl, -⟩ := List.cons.inj ht
      exact absurd (by simp) hy
  · cases t with
    | nil => exact ⟨by simp, (List.cons.inj ht).2.symm⟩
    | cons d t =>
      obtain ⟨rfl, -⟩ := List.cons.inj ht
      exact absurd (by simp) hx

theorem append_cons_inj_of_last (hr : c ∉ r) (hs : c ∉ s) :
    x ++ c :: r = y ++ c :: s ↔ x = y ∧ r = s := by
  have hr' : c ∉ r.reverse := by simpa using hr
  have hs' : c ∉ s.reverse := by simpa using hs
  have hreverse := append_cons_inj_of_first (r := x.reverse) (s := y.reverse) hr' hs'
  rw [← List.reverse_inj]
  simpa [and_comm] using hreverse

/-! ## Joined words -/

/-- Words joined by blanks are shown by what they are joined to. -/
theorem spaced_intercalate {ws : List (List Char)} (h : ∀ w ∈ ws, IsWord w) :
    Spaced ws ([' '].intercalate ws) := by
  induction ws with
  | nil => exact .blank (by simp [AllBlank])
  | cons w ws ih =>
    obtain ⟨hw, hws⟩ := List.forall_mem_cons.1 h
    have hgap : AllBlank [] := by simp [AllBlank]
    have hblank : AllBlank [' '] := by simp [AllBlank, isBlank]
    cases ws with
    | nil =>
      have hword := Spaced.word hgap hw (by simp [Apart]) (ih hws)
      simpa using hword
    | cons u ws =>
      have hrest : Apart ([' '] ++ [' '].intercalate (u :: ws)) := by simp [Apart, isBlank]
      have hword := Spaced.word hgap hw hrest ((ih hws).append_blank hblank)
      simpa using hword

/-- Joining words and cutting what results gives them back. -/
theorem words_intercalate {ws : List String} (h : ∀ w ∈ ws, IsWord w.toList) :
    words (" ".intercalate ws) = ws := by
  have hspaced : Spaced (ws.map String.toList) ([' '].intercalate (ws.map String.toList)) :=
    spaced_intercalate (List.forall_mem_map.2 h)
  have hchars : (" ".intercalate ws).toList = [' '].intercalate (ws.map String.toList) := by simp
  rw [words, hchars, hspaced.wordsOf_eq]
  simp

end ParseLens.Text
