import Mathlib.Data.List.TakeWhile
import ParseLens.Text.Blank

set_option autoImplicit false

/-!
# Text: the words of a text

Cutting a text into its words forgets the white space and nothing else.  `Spaced` says, without
cutting, that a text shows some words: they stand in it in their order, each without white space in
it, with some white space between any two of them and perhaps more in front and behind.  The words
of a text are the only ones that it shows (`wordsOf_eq_iff_spaced`), so two texts that show the same
words differ in their white space alone.
-/

namespace ParseLens.Text

/-- A text of white space. -/
def AllBlank (s : List Char) : Prop := ∀ c ∈ s, isBlank c = true

/-- A text that has no white space in it and is not empty. -/
structure IsWord (w : List Char) : Prop where
  ne_nil : w ≠ []
  not_blank : ∀ c ∈ w, isBlank c = false

/-- A text that does not go on with the word before it: it is empty, or starts with white space. -/
def Apart (s : List Char) : Prop := ∀ c, s.head? = some c → isBlank c = true

/-- A text that shows the given words and otherwise white space. -/
inductive Spaced : List (List Char) → List Char → Prop
  | blank {s : List Char} : AllBlank s → Spaced [] s
  | word {gap w rest : List Char} {ws : List (List Char)} :
    AllBlank gap → IsWord w → Apart rest → Spaced ws rest → Spaced (w :: ws) (gap ++ w ++ rest)

/-! ## Cutting what is spaced -/

theorem wordsOf_append_of_allBlank {gap : List Char} (h : AllBlank gap) (s : List Char) :
    wordsOf (gap ++ s) = wordsOf s := by
  induction gap with
  | nil => rfl
  | cons c gap ih =>
    rw [List.cons_append, wordsOf_cons_of_isBlank (h c List.mem_cons_self)]
    exact ih fun d hd => h d (List.mem_cons_of_mem c hd)

/-- A text that stands apart has no word at its very front. -/
theorem leadWord_of_apart {s : List Char} (h : Apart s) : leadWord s = ([], wordsOf s) := by
  cases s with
  | nil => rfl
  | cons c s =>
    have hc : isBlank c = true := h c rfl
    simp [wordsOf, leadWord, hc, consWord]

theorem leadWord_append {w rest : List Char} (hw : ∀ c ∈ w, isBlank c = false)
    (hrest : Apart rest) : leadWord (w ++ rest) = (w, wordsOf rest) := by
  induction w with
  | nil => exact leadWord_of_apart hrest
  | cons c w ih =>
    have hc : isBlank c = false := hw c List.mem_cons_self
    have hlead := ih fun d hd => hw d (List.mem_cons_of_mem c hd)
    simp [leadWord, hlead, hc]

theorem wordsOf_append {w rest : List Char} (hw : IsWord w) (hrest : Apart rest) :
    wordsOf (w ++ rest) = w :: wordsOf rest := by
  rw [wordsOf, leadWord_append hw.not_blank hrest, consWord, if_neg]
  simpa using hw.ne_nil

theorem Spaced.wordsOf_eq {ws : List (List Char)} {s : List Char} (h : Spaced ws s) :
    wordsOf s = ws := by
  induction h with
  | blank hblank => exact wordsOf_eq_nil_iff.2 hblank
  | word hgap hw hrest _ ih =>
    rw [List.append_assoc, wordsOf_append_of_allBlank hgap, wordsOf_append hw hrest, ih]

/-! ## What is cut is spaced -/

/-- More white space in front changes nothing. -/
theorem Spaced.append_blank {ws : List (List Char)} {s gap : List Char} (h : Spaced ws s)
    (hgap : AllBlank gap) : Spaced ws (gap ++ s) := by
  cases h with
  | blank hblank => exact .blank (List.forall_mem_append.2 ⟨hgap, hblank⟩)
  | @word gap' w rest ws hgap' hw hrest hspaced =>
    have hassoc : gap ++ (gap' ++ w ++ rest) = (gap ++ gap') ++ w ++ rest := by simp
    rw [hassoc]
    exact .word (List.forall_mem_append.2 ⟨hgap, hgap'⟩) hw hrest hspaced

/-- A run of characters in front, if there is one, is one more word. -/
theorem Spaced.consWord {gap w rest : List Char} {ws : List (List Char)} (h : Spaced ws rest)
    (hgap : AllBlank gap) (hw : ∀ c ∈ w, isBlank c = false) (hrest : Apart rest) :
    Spaced (Text.consWord w ws) (gap ++ w ++ rest) := by
  unfold Text.consWord
  split
  · rename_i hnil
    rw [List.isEmpty_iff.1 hnil, List.append_nil]
    exact h.append_blank hgap
  · rename_i hne
    exact .word hgap ⟨by simpa using hne, hw⟩ hrest h

/-- The word at the very front of a text is followed by a text that stands apart and shows the
other words. -/
theorem exists_rest_leadWord (s : List Char) :
    ∃ rest, s = (leadWord s).1 ++ rest ∧ (∀ c ∈ (leadWord s).1, isBlank c = false) ∧ Apart rest ∧
      Spaced (leadWord s).2 rest := by
  induction s with
  | nil => exact ⟨[], rfl, by simp [leadWord], by simp [Apart], .blank (by simp [AllBlank])⟩
  | cons c s ih =>
    obtain ⟨rest, hs, hw, hrest, hspaced⟩ := ih
    by_cases hc : isBlank c = true
    · -- the run that started behind this character is a word, and none starts here
      refine ⟨c :: s, by simp [leadWord, hc], by simp [leadWord, hc], by simp [Apart, hc], ?_⟩
      have hcons : c :: s = [c] ++ (leadWord s).1 ++ rest := by
        rw [List.append_assoc, ← hs]
        rfl
      have hgap : AllBlank [c] := by simp [AllBlank, hc]
      have hwords := hspaced.consWord hgap hw hrest
      rw [← hcons] at hwords
      simpa [leadWord, hc] using hwords
    · refine ⟨rest, ?_, ?_, hrest, ?_⟩
      · simp only [leadWord, hc]
        exact congrArg (c :: ·) hs
      · simpa [leadWord, hc] using hw
      · simpa [leadWord, hc] using hspaced

theorem spaced_wordsOf (s : List Char) : Spaced (wordsOf s) s := by
  obtain ⟨rest, hs, hw, hrest, hspaced⟩ := exists_rest_leadWord s
  have hgap : AllBlank [] := by simp [AllBlank]
  have hwords := hspaced.consWord hgap hw hrest
  rw [List.nil_append, ← hs] at hwords
  exact hwords

/-- What a text shows are words. -/
theorem Spaced.isWord {ws : List (List Char)} {s : List Char} (h : Spaced ws s) :
    ∀ w ∈ ws, IsWord w := by
  induction h with
  | blank _ => simp
  | word _ hw _ _ ih => exact List.forall_mem_cons.2 ⟨hw, ih⟩

/-- The characters of a word are characters of the text that shows it. -/
theorem Spaced.mem_of_mem_word {ws : List (List Char)} {s : List Char} (h : Spaced ws s) :
    ∀ w ∈ ws, ∀ c ∈ w, c ∈ s := by
  induction h with
  | blank _ => simp
  | @word gap w rest ws _ _ _ _ ih =>
    refine List.forall_mem_cons.2 ⟨fun c hc => ?_, fun w' hw' c hc => ?_⟩
    · exact List.mem_append_left _ (List.mem_append_right _ hc)
    · exact List.mem_append_right _ (ih w' hw' c hc)

/-- The words of a text are the words that it shows. -/
theorem wordsOf_eq_iff_spaced {s : List Char} {ws : List (List Char)} :
    wordsOf s = ws ↔ Spaced ws s := by
  constructor
  · rintro rfl
    exact spaced_wordsOf s
  · exact Spaced.wordsOf_eq

/-! ## Blank texts -/

theorem trimEndOf_eq_nil_iff {s : List Char} : trimEndOf s = [] ↔ AllBlank s := by
  simp only [trimEndOf, List.reverse_eq_nil_iff, List.dropWhile_eq_nil_iff, List.mem_reverse]
  rfl

/-- Trimming leaves nothing exactly of white space. -/
theorem trimOf_eq_nil_iff {s : List Char} : trimOf s = [] ↔ AllBlank s := by
  rw [trimOf, trimEndOf_eq_nil_iff]
  constructor
  · intro h c hc
    -- what is dropped in front is white space as well
    rw [← List.takeWhile_append_dropWhile (p := isBlank) (l := s)] at hc
    rcases List.mem_append.1 hc with hfront | hback
    · exact List.mem_takeWhile_imp hfront
    · exact h c hback
  · intro h c hc
    exact h c ((List.dropWhile_sublist isBlank).subset hc)

/-! ## Words as strings -/

theorem map_toList_words (text : String) : (words text).map String.toList = wordsOf text.toList := by
  simp [words, Function.comp_def]

theorem spaced_words (text : String) : Spaced ((words text).map String.toList) text.toList := by
  rw [map_toList_words]
  exact spaced_wordsOf _

theorem isBlankText_iff_allBlank {text : String} :
    isBlankText text = true ↔ AllBlank text.toList := by
  rw [isBlankText, List.isEmpty_iff, trimOf_eq_nil_iff]

/-- The two notions of a blank text agree: what trims to nothing has no words. -/
theorem isBlankText_iff {text : String} : isBlankText text = true ↔ words text = [] := by
  rw [isBlankText_iff_allBlank, words, List.map_eq_nil_iff, wordsOf_eq_nil_iff, AllBlank]

theorem isBlankText_eq_false_iff {text : String} :
    isBlankText text = false ↔ ∃ c ∈ text.toList, isBlank c = false := by
  rw [← Bool.not_eq_true, isBlankText_iff_allBlank]
  simp [AllBlank]

theorem isWord_of_mem_words {text w : String} (h : w ∈ words text) : IsWord w.toList :=
  (spaced_words text).isWord _ (List.mem_map_of_mem h)

theorem mem_of_mem_words {text w : String} (h : w ∈ words text) {c : Char} (hc : c ∈ w.toList) :
    c ∈ text.toList :=
  (spaced_words text).mem_of_mem_word _ (List.mem_map_of_mem h) c hc

end ParseLens.Text
