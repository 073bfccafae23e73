import ParseLens.Automaton.Item
import ParseLens.Proofs.Text.Lines
import ParseLens.Proofs.Text.Words

set_option autoImplicit false

/-!
# Automaton: the text of an item

An item is shown as its non-terminal, an arrow, the symbols of its production with a dot in one of
the gaps between them, and its look-ahead.  The symbols are the words of the production, so the white
space between them is not shown.  The dot stands where the item has it, and in the nearest gap if
there is no such gap; then there is an issue, and an item with an issue does not call for a
reduction.

* `dottedBody_eq` says where the dot stands: the symbols in front of it and those behind it are each
  joined by blanks.
* `Item.issue?_eq` says when there is an issue, and what it tells.
* `Item.view_shows_gap` is the main statement.
-/

namespace ParseLens

/-! ## The dot -/

/-- Words with a blank in front of each. -/
def blankBefore (ws : List String) : String := String.join (ws.map fun w => " " ++ w)

@[simp] theorem blankBefore_nil : blankBefore [] = "" := rfl

@[simp] theorem blankBefore_cons (w : String) (ws : List String) :
    blankBefore (w :: ws) = " " ++ w ++ blankBefore ws := by
  simp [blankBefore]

theorem intercalate_cons_eq (w : String) (ws : List String) :
    " ".intercalate (w :: ws) = w ++ blankBefore ws := by
  induction ws generalizing w with
  | nil => simp
  | cons u ws ih =>
    rw [String.intercalate_cons_cons, ih]
    simp [String.append_assoc]

theorem singleton_dot : String.singleton dot = "•" := rfl

/-- Behind the gap every symbol has a blank in front of it. -/
theorem dottedFrom_of_lt {gap index : Nat} (h : gap < index) (symbols : List String) :
    dottedFrom gap index symbols = blankBefore symbols := by
  induction symbols generalizing index with
  | nil => simp [dottedFrom, Nat.not_le.2 h]
  | cons symbol symbols ih =>
    have hne : index ≠ gap := by omega
    have hpos : 0 < index := by omega
    rw [dottedFrom, if_neg hne, if_pos hpos, ih (Nat.lt_succ_of_lt h), blankBefore_cons]

/-- In the gap the dot takes the place of the blank. -/
theorem dottedFrom_self (gap : Nat) (symbols : List String) :
    dottedFrom gap gap symbols = "•" ++ " ".intercalate symbols := by
  cases symbols with
  | nil => simp [dottedFrom, singleton_dot]
  | cons symbol symbols =>
    rw [dottedFrom, if_pos rfl, dottedFrom_of_lt (Nat.lt_succ_self gap), intercalate_cons_eq,
      singleton_dot, String.append_assoc]

/-- With symbols in front of it already, the dot lies `k` symbols ahead. -/
theorem dottedFrom_add {index : Nat} (hpos : 0 < index) (k : Nat) (symbols : List String) :
    dottedFrom (index + k) index symbols =
      blankBefore (symbols.take k) ++ "•" ++ " ".intercalate (symbols.drop k) := by
  induction k generalizing index symbols with
  | zero => simpa using dottedFrom_self index symbols
  | succ k ih =>
    cases symbols with
    | nil => simp [dottedFrom, singleton_dot]
    | cons symbol symbols =>
      have hne : index ≠ index + (k + 1) := by omega
      have hgap : index + (k + 1) = index + 1 + k := by omega
      rw [dottedFrom, if_neg hne, if_pos hpos, hgap, ih (Nat.succ_pos index)]
      simp [String.append_assoc]

/-- The symbols in front of the dot and those behind it, each joined by blanks. -/
theorem dottedBody_eq (symbols : List String) (gap : Nat) :
    dottedBody symbols gap =
      " ".intercalate (symbols.take gap) ++ "•" ++ " ".intercalate (symbols.drop gap) := by
  cases gap with
  | zero => simpa [dottedBody] using dottedFrom_self 0 symbols
  | succ k =>
    cases symbols with
    | nil => simp [dottedBody, dottedFrom, singleton_dot]
    | cons symbol symbols =>
      have hgap : k + 1 = 0 + 1 + k := by omega
      have hfrom := dottedFrom_add (Nat.succ_pos 0) k symbols
      rw [← hgap] at hfrom
      rw [dottedBody, dottedFrom, hfrom, List.take_succ_cons, List.drop_succ_cons,
        intercalate_cons_eq]
      simp [String.append_assoc]

/-- Among symbols without a dot in their names the dot stands once. -/
theorem count_dot_dottedBody {symbols : List String} (h : ∀ s ∈ symbols, '•' ∉ s.toList)
    (gap : Nat) : (dottedBody symbols gap).toList.count '•' = 1 := by
  have hbefore : '•' ∉ (" ".intercalate (symbols.take gap)).toList :=
    Text.not_mem_intercalate (by decide) fun s hs => h s (List.mem_of_mem_take hs)
  have hbehind : '•' ∉ (" ".intercalate (symbols.drop gap)).toList :=
    Text.not_mem_intercalate (by decide) fun s hs => h s (List.mem_of_mem_drop hs)
  rw [dottedBody_eq, String.toList_append, String.toList_append, List.count_append,
    List.count_append, List.count_eq_zero_of_not_mem hbefore, List.count_eq_zero_of_not_mem hbehind]
  rfl

namespace Item

/-! ## The issue -/

theorem arrow_eq (i : Item) : i.nonTerminal ++ " " ++ arrow ++ " " = i.nonTerminal ++ " → " := by
  simp only [String.append_assoc]
  rfl

/-- Whether the dot lies outside the production. -/
def isStray (i : Item) : Bool :=
  ¬ (0 ≤ i.dotPosition.toInt ∧ i.dotPosition.toInt ≤ i.symbols.length)

theorem isStray_iff {i : Item} : i.isStray = true ↔
    i.dotPosition.toInt < 0 ∨ (i.symbols.length : Int) < i.dotPosition.toInt := by
  rw [isStray, decide_eq_true_iff]
  omega

/-- What is said of the dot. -/
def strayDot (i : Item) : DotIssue :=
  ⟨i.nonTerminal ++ " → " ++ i.production, i.dotPosition, i.symbols.length⟩

theorem issue?_eq (i : Item) : i.issue? = if i.isStray then some i.strayDot else none := by
  rw [issue?, arrow_eq]
  simp only [← isStray_iff]
  rfl

/-! ## The item -/

/-- An item that calls for a reduction is one with its dot behind the last symbol. -/
theorem reducible_view_iff {i : Item} :
    i.view.reducible = true ↔ i.dotPosition.toInt = i.symbols.length := by
  have hstray := @isStray_iff i
  cases h : i.isStray with
  | false => simp [view, issue?_eq, h, isReducible]
  | true =>
    rw [h] at hstray
    have hrange := hstray.1 rfl
    simp only [view, issue?_eq, h, if_true, Option.isNone_some, Bool.false_and, Bool.false_eq_true,
      false_iff]
    omega

/-- Items that differ in the white space of their productions and in nothing else. -/
structure Respaced (i j : Item) : Prop where
  nonTerminal : i.nonTerminal = j.nonTerminal
  /-- Both productions show the same words. -/
  production : ∃ ws, Text.Spaced ws i.production.toList ∧ Text.Spaced ws j.production.toList
  dotPosition : i.dotPosition = j.dotPosition
  lookahead : i.lookahead = j.lookahead

theorem Respaced.symbols {i j : Item} (h : i.Respaced j) : i.symbols = j.symbols := by
  obtain ⟨ws, hi, hj⟩ := h.production
  rw [Item.symbols, Item.symbols, Text.words, Text.words, hi.wordsOf_eq, hj.wordsOf_eq]

theorem Respaced.text {i j : Item} (h : i.Respaced j) : i.view.text = j.view.text := by
  simp only [view, Item.text, gap, h.symbols, h.nonTerminal, h.dotPosition, h.lookahead]

theorem Respaced.reducible {i j : Item} (h : i.Respaced j) :
    i.view.reducible = j.view.reducible := by
  rw [Bool.eq_iff_iff, reducible_view_iff, reducible_view_iff, h.symbols, h.dotPosition]

theorem text_view (i : Item) : i.view.text =
    i.nonTerminal ++ " → " ++ (" ".intercalate (i.symbols.take i.gap) ++ "•" ++
      " ".intercalate (i.symbols.drop i.gap)) ++ ", " ++ i.lookahead := by
  rw [view, Item.text, arrow_eq, dottedBody_eq]

/-- The symbols of an item are what its production shows beside white space.  The text of the item
has its dot between them in the gap that is nearest to where the item has it.  There is an issue
exactly when the item has it outside the production, and it tells the item as received; the item
calls for a reduction exactly when the dot is behind the last symbol, and never together with an
issue.  So items that differ only in the white space of their productions are shown alike, and if no
symbol has a dot in its name then the body has one. -/
theorem view_shows_gap (i : Item) :
    let s := Text.words i.production
    let k := (max 0 (min i.dotPosition.toInt s.length)).toNat
    let body := " ".intercalate (s.take k) ++ "•" ++ " ".intercalate (s.drop k)
    Text.Spaced (s.map String.toList) i.production.toList ∧
    i.view.text = i.nonTerminal ++ " → " ++ body ++ ", " ++ i.lookahead ∧
    (i.view.issue.isSome = true ↔
      i.dotPosition.toInt < 0 ∨ (s.length : Int) < i.dotPosition.toInt) ∧
    (∀ issue, i.view.issue = some issue →
      issue = ⟨i.nonTerminal ++ " → " ++ i.production, i.dotPosition, s.length⟩) ∧
    (i.view.reducible = true ↔ i.dotPosition.toInt = s.length) ∧
    (i.view.reducible = true → i.view.issue = none) ∧
    (∀ j : Item, i.Respaced j →
      i.view.text = j.view.text ∧ i.view.reducible = j.view.reducible) ∧
    ((∀ symbol ∈ s, '•' ∉ symbol.toList) → body.toList.count '•' = 1) := by
  intro s k body
  have hk : i.gap = k := by
    have hs : i.symbols.length = s.length := rfl
    rw [gap, hs]
    omega
  have hissue : i.view.issue = if i.isStray then some i.strayDot else none := i.issue?_eq
  have hstray : i.isStray = true ↔
      i.dotPosition.toInt < 0 ∨ (s.length : Int) < i.dotPosition.toInt := isStray_iff
  have hreducible : i.view.reducible = true ↔ i.dotPosition.toInt = s.length := reducible_view_iff
  refine ⟨?_, ?_, ?_, ?_, hreducible, ?_, fun j h => ⟨h.text, h.reducible⟩, ?_⟩
  · have hwords : s.map String.toList = Text.wordsOf i.production.toList := by
      simp [s, Text.words, Function.comp_def]
    rw [hwords]
    exact Text.spaced_wordsOf _
  · have htext := i.text_view
    rw [hk] at htext
    exact htext
  · rw [hissue, ← hstray]
    cases i.isStray <;> simp
  · intro issue h
    rw [hissue] at h
    split at h
    · exact (Option.some.inj h).symm
    · simp at h
  · intro h
    rw [hissue, if_neg]
    rw [hstray]
    have hend := hreducible.1 h
    omega
  · intro h
    have hcount := count_dot_dottedBody h k
    rw [dottedBody_eq] at hcount
    exact hcount

/-- The symbols of one item stand behind an ideographic space and around a tab.  Another item has its
dot in front of the production, and a third behind the last symbol. -/
theorem view_shows_gap_of_spaces :
    let i : Item := ⟨"A", "\u3000a\t A ", 1, "$"⟩
    let j : Item := ⟨"A", "a A", 1, "$"⟩
    let stray : Item := ⟨"A", "a A", -1, "$"⟩
    let atEnd : Item := ⟨"A", "a A", 2, "$"⟩
    (i.Respaced j ∧ i.view.text = j.view.text ∧ i.view.reducible = j.view.reducible) ∧
    j.view.text = "A → a•A, $" ∧
    (stray.view.issue = some ⟨"A → a A", -1, 2⟩ ∧
      (⟨"A → a A", -1, 2⟩ : DotIssue) = ⟨stray.nonTerminal ++ " → " ++ stray.production,
        stray.dotPosition, (Text.words stray.production).length⟩) ∧
    (atEnd.view.reducible = true ∧ atEnd.view.issue = none) ∧
    ((∀ symbol ∈ ["a", "A"], '•' ∉ symbol.toList) ∧
      (" ".intercalate (["a", "A"].take 1) ++ "•" ++
        " ".intercalate (["a", "A"].drop 1)).toList.count '•' = 1) := by
  intro i j stray atEnd
  have hsame : i.Respaced j := by
    refine ⟨rfl, ⟨[['a'], ['A']], ?_, ?_⟩, rfl, rfl⟩
    · exact Text.wordsOf_eq_iff_spaced.1 (by decide +kernel)
    · exact Text.wordsOf_eq_iff_spaced.1 (by decide +kernel)
  have hstray : stray.view.issue = some ⟨"A → a A", -1, 2⟩ := by decide +kernel
  have hend : atEnd.view.reducible = true := by decide +kernel
  have hnone : ∀ symbol ∈ ["a", "A"], '•' ∉ symbol.toList := by decide +kernel
  obtain ⟨-, htext, -, -, -, -, -, hcount⟩ := view_shows_gap j
  have hwords : Text.words j.production = ["a", "A"] := by decide +kernel
  rw [hwords] at hcount
  exact ⟨⟨hsame, (view_shows_gap i).2.2.2.2.2.2.1 j hsame⟩, htext.trans (by decide +kernel),
    ⟨hstray, (view_shows_gap stray).2.2.2.1 _ hstray⟩,
    ⟨hend, (view_shows_gap atEnd).2.2.2.2.2.1 hend⟩, ⟨hnone, hcount hnone⟩⟩

end Item

end ParseLens
