import ParseLens.Proofs.Automaton.ItemText
import ParseLens.Proofs.Text.Delimiters

set_option autoImplicit false

/-!
# Automaton: an item is known by its text

Nothing is escaped in the text of an item.  A symbol may be called `,` or `→`, and may end in either,
so the delimiters can occur between the symbols as well.  Still no two items share a text, if the
names at both ends have no white space and the production has no dot of its own: the first blank of
the text ends the non-terminal, the last blank starts the look-ahead, and between the two the dot
divides the symbols, which are then told apart by the blanks left.  So the text is read from both
ends towards the dot.

* `Item.parts_of_text_eq` takes two equal texts apart.
* `Item.text_eq_iff_of_legible` is the main statement.
-/

namespace ParseLens

namespace Item

/-- Items whose texts can be read: the dot is in range, and neither a blank in a name nor a dot in a
symbol can be mistaken for a delimiter. -/
structure Legible (i : Item) : Prop where
  inRange : 0 ≤ i.dotPosition.toInt ∧ i.dotPosition.toInt ≤ (Text.words i.production).length
  nonTerminal : ∀ c ∈ i.nonTerminal.toList, Text.isBlank c = false
  lookahead : ∀ c ∈ i.lookahead.toList, Text.isBlank c = false
  production : '•' ∉ i.production.toList

/-- The symbols in front of the dot, as they are shown. -/
def before (i : Item) : String := " ".intercalate (i.symbols.take i.gap)

/-- The symbols behind the dot, as they are shown. -/
def behind (i : Item) : String := " ".intercalate (i.symbols.drop i.gap)

theorem toList_text_view (i : Item) : i.view.text.toList =
    i.nonTerminal.toList ++ ' ' :: '→' :: ' ' ::
      (i.before.toList ++ '•' :: i.behind.toList ++ [','] ++ ' ' :: i.lookahead.toList) := by
  rw [text_view, ← before, ← behind]
  simp

/-- Whatever is shown on either side of the dot shows the symbols there. -/
theorem words_before (i : Item) : Text.words i.before = i.symbols.take i.gap :=
  Text.words_intercalate fun _ hs => Text.isWord_of_mem_words (List.mem_of_mem_take hs)

theorem words_behind (i : Item) : Text.words i.behind = i.symbols.drop i.gap :=
  Text.words_intercalate fun _ hs => Text.isWord_of_mem_words (List.mem_of_mem_drop hs)

/-! ## The parts of a text -/

theorem not_mem_of_not_isBlank {s : List Char} (h : ∀ c ∈ s, Text.isBlank c = false) :
    ' ' ∉ s := by
  intro hmem
  exact absurd (h ' ' hmem) (by decide)

theorem Legible.dot_not_mem_before {i : Item} (h : i.Legible) : '•' ∉ i.before.toList := by
  refine Text.not_mem_intercalate (by decide) fun s hs hdot => ?_
  exact h.production (Text.mem_of_mem_words (List.mem_of_mem_take hs) hdot)

/-- In range, the dot has as many symbols in front of it as its position says. -/
theorem Legible.dotPosition_eq {i : Item} (h : i.Legible) :
    i.dotPosition.toInt = (i.symbols.take i.gap).length := by
  obtain ⟨hlow, hhigh⟩ := h.inRange
  have hlength : (i.symbols.length : Int) = (Text.words i.production).length := rfl
  rw [List.length_take, gap]
  omega

/-- Equal texts have equal parts: the non-terminal is cut off at the first blank, the look-ahead at
the last, and what is left at its dot. -/
theorem parts_of_text_eq {i j : Item} (hi : i.Legible) (hj : j.Legible)
    (h : i.view.text = j.view.text) :
    i.nonTerminal = j.nonTerminal ∧ i.before = j.before ∧ i.behind = j.behind ∧
      i.lookahead = j.lookahead := by
  have hchars := congrArg String.toList h
  rw [toList_text_view, toList_text_view] at hchars
  obtain ⟨hnonTerminal, htail⟩ := (Text.append_cons_inj_of_first
    (not_mem_of_not_isBlank hi.nonTerminal) (not_mem_of_not_isBlank hj.nonTerminal)).1 hchars
  have hbody := (List.cons.inj (List.cons.inj htail).2).2
  obtain ⟨hfront, hlookahead⟩ := (Text.append_cons_inj_of_last
    (not_mem_of_not_isBlank hi.lookahead) (not_mem_of_not_isBlank hj.lookahead)).1 hbody
  obtain ⟨hbefore, hbehind⟩ := (Text.append_cons_inj_of_first hi.dot_not_mem_before
    hj.dot_not_mem_before).1 (List.append_cancel_right hfront)
  exact ⟨String.toList_injective hnonTerminal, String.toList_injective hbefore,
    String.toList_injective hbehind, String.toList_injective hlookahead⟩

/-! ## Items -/

/-- Two items that can be read have the same text exactly if they agree in everything but the white
space of their productions, whatever their symbols are called. -/
theorem text_eq_iff_of_legible {i j : Item} (hi : i.Legible) (hj : j.Legible) :
    i.view.text = j.view.text ↔
      i.nonTerminal = j.nonTerminal ∧ Text.words i.production = Text.words j.production ∧
        i.dotPosition = j.dotPosition ∧ i.lookahead = j.lookahead := by
  constructor
  · intro h
    obtain ⟨hnonTerminal, hbefore, hbehind, hlookahead⟩ := parts_of_text_eq hi hj h
    have htake : i.symbols.take i.gap = j.symbols.take j.gap := by
      rw [← words_before, ← words_before, hbefore]
    have hdrop : i.symbols.drop i.gap = j.symbols.drop j.gap := by
      rw [← words_behind, ← words_behind, hbehind]
    have hsymbols : i.symbols = j.symbols := by
      rw [← List.take_append_drop i.gap i.symbols, htake, hdrop, List.take_append_drop]
    have hposition : i.dotPosition = j.dotPosition := by
      rw [← Int64.toInt_inj, hi.dotPosition_eq, hj.dotPosition_eq, htake]
    exact ⟨hnonTerminal, hsymbols, hposition, hlookahead⟩
  · rintro ⟨hnonTerminal, hsymbols, hposition, hlookahead⟩
    have hrespaced : i.Respaced j := by
      refine ⟨hnonTerminal, ⟨_, Text.spaced_words i.production, ?_⟩, hposition, hlookahead⟩
      rw [hsymbols]
      exact Text.spaced_words j.production
    exact hrespaced.text

/-- Symbols called like the delimiters: a comma and an arrow with the dot between them, the same with
other white space, and one symbol of these two characters with the dot behind it. -/
theorem text_eq_iff_of_legible_of_delimiters :
    let i : Item := ⟨"S", ", →", 1, ","⟩
    let respaced : Item := ⟨"S", "\u3000,\t→ ", 1, ","⟩
    let joined : Item := ⟨"S", ",→", 1, ","⟩
    (i.Legible ∧ respaced.Legible ∧ joined.Legible) ∧ i.view.text = respaced.view.text ∧
      i.view.text ≠ joined.view.text := by
  intro i respaced joined
  have hname : ∀ c ∈ "S".toList, Text.isBlank c = false :=
    List.forall_mem_singleton.2 (by decide)
  have hcomma : ∀ c ∈ ",".toList, Text.isBlank c = false :=
    List.forall_mem_singleton.2 (by decide)
  have hi : i.Legible := ⟨by decide +kernel, hname, hcomma, by decide⟩
  have hrespaced : respaced.Legible := ⟨by decide +kernel, hname, hcomma, by decide⟩
  have hjoined : joined.Legible := ⟨by decide +kernel, hname, hcomma, by decide⟩
  refine ⟨⟨hi, hrespaced, hjoined⟩, ?_, fun h => ?_⟩
  · exact (text_eq_iff_of_legible hi hrespaced).2 (by decide +kernel)
  · exact absurd ((text_eq_iff_of_legible hi hjoined).1 h) (by decide +kernel)

end Item

end ParseLens
