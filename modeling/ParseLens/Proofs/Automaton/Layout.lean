import ParseLens.Automaton.Grid
import ParseLens.Proofs.Automaton.Coverage
import ParseLens.Proofs.Text.Lines

set_option autoImplicit false

/-!
# Automaton: what stands where in the text of a table

The text of a table has a line with headings, a line with the names of the columns and a line for each
state.  On the last two kinds of lines every cell stands where its column starts, and the place where
a column starts is computed from the widths of the columns before it alone.  The reason is that a
cell is never wider than its column, so that padding makes it exactly as wide.

The bars between the parts of the table come under one another on those lines, too.

* `Table.Aligned` says of a line that cells and bars stand where they should.
* `Table.aligned_line` is about lines before white space is dropped, `Table.Aligned.trimEnd` about
  dropping it.
* `Table.text_aligned` is the main statement.
-/

namespace ParseLens

open Text (EndsBlank StandsAt)

/-! ## Widths -/

theorem max?_cons_eq_widest (least : Nat) (widths : List Nat) :
    (least :: widths).max? = some (widest least widths) := rfl

theorem least_le_widest (least : Nat) (widths : List Nat) : least ≤ widest least widths :=
  (List.max?_eq_some_iff.1 (max?_cons_eq_widest least widths)).2 _ List.mem_cons_self

theorem le_widest {least width : Nat} {widths : List Nat} (h : width ∈ widths) :
    width ≤ widest least widths :=
  (List.max?_eq_some_iff.1 (max?_cons_eq_widest least widths)).2 _ (List.mem_cons_of_mem least h)

theorem groupWidth_eq (widths : List Nat) :
    groupWidth widths = widths.sum + 2 * (widths.length - 1) := rfl

/-- A text that is not wider than a column fills the column when it is padded. -/
theorem length_pad_of_le {width : Nat} {s : String} (h : s.length ≤ width) :
    (pad width s).length = width := by
  rw [length_pad]
  omega

/-! ## Texts that do not end in white space -/

theorem not_endsBlank_toString (n : Nat) : ¬ EndsBlank (toString n) := by
  rintro ⟨c, hc, hblank⟩
  have hmem : c ∈ Nat.toDigits 10 n := by
    have hmem := List.mem_of_getLast? hc
    simpa using hmem
  have hdigit : c.isDigit = true := Nat.isDigit_of_mem_toDigits (by decide) (by decide) hmem
  obtain ⟨hlow, hhigh⟩ := Char.isDigit_iff_toNat.1 hdigit
  simp only [Text.isBlank, Bool.or_eq_true, Bool.and_eq_true, decide_eq_true_eq, beq_iff_eq] at hblank
  simp at hlow hhigh
  omega

/-! ## Cells side by side -/

section Cells

variable {cell : Symbol → String} {width : Symbol → Nat} {columns : List Symbol}

theorem joinCells_map (columns : List Symbol) (cell : Symbol → String) (width : Symbol → Nat) :
    joinCells (columns.map cell) (columns.map width) =
      "  ".intercalate (columns.map fun s => pad (width s) (cell s)) := by
  rw [joinCells, List.zipWith_map, List.zipWith_self]

theorem map_length_pad (h : ∀ s ∈ columns, (cell s).length ≤ width s) :
    (columns.map fun s => pad (width s) (cell s)).map String.length = columns.map width := by
  rw [List.map_map]
  exact List.map_congr_left fun s hs => length_pad_of_le (h s hs)

theorem length_joinCells (h : ∀ s ∈ columns, (cell s).length ≤ width s) :
    (joinCells (columns.map cell) (columns.map width)).length =
      groupWidth (columns.map width) := by
  rw [joinCells_map, Text.length_intercalate, map_length_pad h, groupWidth_eq, List.length_map,
    List.length_map]
  rfl

/-- A cell stands behind the columns in front of it. -/
theorem standsAt_joinCells (h : ∀ s ∈ columns, (cell s).length ≤ width s) {j : Nat} {s : Symbol}
    (hj : columns[j]? = some s) :
    StandsAt (joinCells (columns.map cell) (columns.map width))
      ((columns.take j).map fun s => width s + 2).sum (cell s) := by
  have hpadded : (columns.map fun s => pad (width s) (cell s))[j]? = some (pad (width s) (cell s)) := by
    rw [List.getElem?_map, hj]
    rfl
  have hplace := Text.standsAt_intercalate "  " hpadded
  have hwidths : ((columns.map fun s => pad (width s) (cell s)).take j).map
      (fun part => part.length + "  ".length) = (columns.take j).map fun s => width s + 2 := by
    rw [← List.map_take, List.map_map]
    refine List.map_congr_left fun s hs => ?_
    exact congrArg (· + 2) (length_pad_of_le (h s (List.mem_of_mem_take hs)))
  rw [hwidths] at hplace
  rw [joinCells_map]
  exact hplace.of_append

/-- Padding adds blanks only. -/
theorem not_mem_pad {c : Char} (hc : c ≠ ' ') {w : Nat} {s : String} (h : c ∉ s.toList) :
    c ∉ (pad w s).toList := by
  rw [pad, String.toList_append, String.toList_ofList, List.mem_append]
  exact fun hmem => hmem.elim h fun hblank => hc (List.eq_of_mem_replicate hblank)

theorem lineFeed_not_mem_joinCells (h : ∀ s ∈ columns, '\n' ∉ (cell s).toList) :
    '\n' ∉ (joinCells (columns.map cell) (columns.map width)).toList := by
  rw [joinCells_map]
  refine Text.not_mem_intercalate (by decide) fun part hpart => ?_
  obtain ⟨s, hs, rfl⟩ := List.mem_map.1 hpart
  exact not_mem_pad (by decide) (h s hs)

end Cells

/-! ## Bars -/

/-- The three parts of a line, with bars between them. -/
def barred (state actions gotos : String) : String :=
  state ++ (" | " ++ (actions ++ (" | " ++ gotos)))

section Barred

variable {state actions gotos s : String} {p : Nat}

theorem standsAt_bar (rest : String) : StandsAt (" | " ++ rest) 1 "|" :=
  ((StandsAt.self "|" " ").append_left " ").append_right rest

theorem standsAt_firstBar (state actions gotos : String) :
    StandsAt (barred state actions gotos) (state.length + 1) "|" :=
  (standsAt_bar _).append_left state

theorem standsAt_actions (h : StandsAt actions p s) (state gotos : String) :
    StandsAt (barred state actions gotos) (state.length + 3 + p) s := by
  have hplace := ((h.append_right (" | " ++ gotos)).append_left " | ").append_left state
  rw [Nat.add_assoc]
  exact hplace

theorem standsAt_secondBar (state actions gotos : String) :
    StandsAt (barred state actions gotos) (state.length + 3 + actions.length + 1) "|" := by
  have hplace := (((standsAt_bar gotos).append_left actions).append_left " | ").append_left state
  rw [Nat.add_assoc, Nat.add_assoc]
  exact hplace

theorem standsAt_gotos (h : StandsAt gotos p s) (state actions : String) :
    StandsAt (barred state actions gotos) (state.length + 3 + actions.length + 3 + p) s := by
  have hplace := (((h.append_left " | ").append_left actions).append_left " | ").append_left state
  rw [Nat.add_assoc, Nat.add_assoc, Nat.add_assoc]
  exact hplace

theorem lineFeed_not_mem_barred (hstate : '\n' ∉ state.toList) (hactions : '\n' ∉ actions.toList)
    (hgotos : '\n' ∉ gotos.toList) : '\n' ∉ (barred state actions gotos).toList := by
  simp [barred, hstate, hactions, hgotos]

end Barred

/-! ## Lines of a table -/

namespace Table

variable {t : Table} {cell : Symbol → String}

/-- The width of the ACTION columns together, with two blanks between columns. -/
def actionWidth (t : Table) : Nat :=
  (t.terminals.map t.columnWidth).sum + 2 * (t.terminals.length - 1)

/-- Where a column starts: behind the column of states and the first bar, behind the columns in front
of it, and if it is a GOTO column then behind the second bar. -/
def columnStart (t : Table) (j : Nat) : Nat :=
  t.stateWidth + 3 + ((t.columns.take j).map fun s => t.columnWidth s + 2).sum +
    if j < t.terminals.length then 0 else 1

/-- On a line, the cells stand where their columns start, unless they end in white space, and the bars
stand between the parts of the table. -/
structure Aligned (t : Table) (cell : Symbol → String) (line : String) : Prop where
  cells : ∀ (j : Nat) (s : Symbol), t.columns[j]? = some s → ¬ EndsBlank (cell s) →
    StandsAt line (t.columnStart j) (cell s)
  firstBar : StandsAt line (t.stateWidth + 1) "|"
  secondBar : StandsAt line (t.stateWidth + 3 + t.actionWidth + 1) "|"

theorem groupWidth_terminals (t : Table) :
    groupWidth (t.terminals.map t.columnWidth) = t.actionWidth := by
  rw [groupWidth_eq, List.length_map, actionWidth]

theorem sum_columnWidth_add_two (t : Table) (columns : List Symbol) :
    (columns.map fun s => t.columnWidth s + 2).sum =
      (columns.map t.columnWidth).sum + 2 * columns.length := by
  induction columns with
  | nil => rfl
  | cons s columns ih =>
    simp only [List.map_cons, List.sum_cons, List.length_cons, ih]
    omega

theorem columnStart_of_lt {j : Nat} (h : j < t.terminals.length) :
    t.columnStart j =
      t.stateWidth + 3 + ((t.terminals.take j).map fun s => t.columnWidth s + 2).sum := by
  rw [columnStart, if_pos h, columns, List.take_append_of_le_length (Nat.le_of_lt h), Nat.add_zero]

/-- The GOTO columns start behind the ACTION columns and the second bar. -/
theorem columnStart_add (hne : t.terminals ≠ []) (j : Nat) :
    t.columnStart (t.terminals.length + j) = t.stateWidth + 3 + t.actionWidth + 3 +
      ((t.nonTerminals.take j).map fun s => t.columnWidth s + 2).sum := by
  have hnot : ¬ t.terminals.length + j < t.terminals.length := by omega
  have hpos : 0 < t.terminals.length := List.length_pos_iff.2 hne
  rw [columnStart, if_neg hnot, columns, List.take_length_add_append, List.map_append,
    List.sum_append, sum_columnWidth_add_two t t.terminals, actionWidth]
  omega

theorem line_eq (t : Table) (state : String) (cell : Symbol → String) :
    t.line state cell = barred (pad t.stateWidth state)
      (joinCells (t.terminals.map cell) (t.terminals.map t.columnWidth))
      (joinCells (t.nonTerminals.map cell) (t.nonTerminals.map t.columnWidth)) := by
  simp only [line, barred, String.append_assoc]

/-- A line on which no cell is wider than its column is aligned. -/
theorem aligned_line (hne : t.terminals ≠ [])
    (hcells : ∀ s ∈ t.columns, (cell s).length ≤ t.columnWidth s) {state : String}
    (hstate : state.length ≤ t.stateWidth) : t.Aligned cell (t.line state cell) := by
  have hterminals : ∀ s ∈ t.terminals, (cell s).length ≤ t.columnWidth s :=
    fun s hs => hcells s (List.mem_append_left _ hs)
  have hnonTerminals : ∀ s ∈ t.nonTerminals, (cell s).length ≤ t.columnWidth s :=
    fun s hs => hcells s (List.mem_append_right _ hs)
  have hpad : (pad t.stateWidth state).length = t.stateWidth := length_pad_of_le hstate
  have haction := length_joinCells hterminals
  rw [groupWidth_terminals] at haction
  rw [line_eq]
  generalize pad t.stateWidth state = part at hpad ⊢
  refine ⟨?_, ?_, ?_⟩
  · intro j s hj _
    rcases Nat.lt_or_ge j t.terminals.length with hlt | hge
    · rw [columns, List.getElem?_append_left hlt] at hj
      rw [columnStart_of_lt hlt, ← hpad]
      exact standsAt_actions (standsAt_joinCells hterminals hj) _ _
    · obtain ⟨i, rfl⟩ := Nat.exists_eq_add_of_le hge
      rw [columns, List.getElem?_append_right hge, Nat.add_sub_cancel_left] at hj
      rw [columnStart_add hne, ← hpad, ← haction]
      exact standsAt_gotos (standsAt_joinCells hnonTerminals hj) _ _
  · rw [← hpad]
    exact standsAt_firstBar _ _ _
  · rw [← hpad, ← haction]
    exact standsAt_secondBar _ _ _

/-- White space at the end of a line is not part of a cell or a bar. -/
theorem Aligned.trimEnd {line : String} (h : t.Aligned cell line) :
    t.Aligned cell (Text.trimEnd line) where
  cells j s hj hcell := (h.cells j s hj hcell).trimEnd hcell
  firstBar := h.firstBar.trimEnd (by decide)
  secondBar := h.secondBar.trimEnd (by decide)

/-! ## The lines of the text -/

/-- No name of a column and no text of a cell has a line feed. -/
structure OneLined (t : Table) : Prop where
  names : ∀ s ∈ t.columns, '\n' ∉ s.name.toList
  cells : ∀ n ∈ t.states, ∀ s ∈ t.columns, '\n' ∉ (t.cellText n s).toList

theorem oneLined_iff : t.OneLined ↔
    t.columns.all (fun s => !s.name.toList.contains '\n') = true ∧
      t.states.all (fun n => t.columns.all fun s => !(t.cellText n s).toList.contains '\n') = true := by
  simp only [List.all_eq_true, Bool.not_eq_true', List.contains_eq_mem, decide_eq_false_iff_not]
  exact ⟨fun h => ⟨h.names, h.cells⟩, fun h => ⟨h.1, h.2⟩⟩

instance (t : Table) : Decidable t.OneLined := decidable_of_iff' _ oneLined_iff

theorem length_name_le (t : Table) (s : Symbol) : s.name.length ≤ t.columnWidth s :=
  least_le_widest _ _

theorem length_cellText_le {n : StateId} (hn : n ∈ t.states) (s : Symbol) :
    (t.cellText n s).length ≤ t.columnWidth s :=
  le_widest (List.mem_map_of_mem (f := fun n => (t.cellText n s).length) hn)

theorem length_state_le {n : StateId} (hn : n ∈ t.states) :
    (toString n.toNat).length ≤ t.stateWidth :=
  le_widest (List.mem_map_of_mem (f := fun n : StateId => (toString n.toNat).length) hn)

theorem lineFeed_not_mem_toString (n : Nat) : '\n' ∉ (toString n).toList := by
  have hdigits : '\n' ∉ Nat.toDigits 10 n := Text.not_mem_toDigits (by decide) n
  simpa using hdigits

theorem lineFeed_not_mem_line {state : String} (hstate : '\n' ∉ state.toList)
    (hcells : ∀ s ∈ t.columns, '\n' ∉ (cell s).toList) : '\n' ∉ (t.line state cell).toList := by
  rw [line_eq]
  refine lineFeed_not_mem_barred (not_mem_pad (by decide) hstate) ?_ ?_
  · exact lineFeed_not_mem_joinCells fun s hs => hcells s (List.mem_append_left _ hs)
  · exact lineFeed_not_mem_joinCells fun s hs => hcells s (List.mem_append_right _ hs)

theorem heading_eq (t : Table) : t.heading =
    barred (pad t.stateWidth "State") (pad t.actionWidth "ACTION") "GOTO" := by
  rw [heading, groupWidth_terminals]
  simp only [barred, String.append_assoc]
  rfl

theorem lineFeed_not_mem_heading (t : Table) : '\n' ∉ t.heading.toList := by
  rw [heading_eq]
  exact lineFeed_not_mem_barred (not_mem_pad (by decide) (by decide))
    (not_mem_pad (by decide) (by decide)) (by decide)

theorem OneLined.lineFeed_not_mem (h : t.OneLined) : ∀ l ∈ t.lines, '\n' ∉ l.toList := by
  refine List.forall_mem_cons.2 ⟨t.lineFeed_not_mem_heading, List.forall_mem_cons.2 ⟨?_, ?_⟩⟩
  · exact lineFeed_not_mem_line (by decide) h.names
  · intro l hl
    obtain ⟨n, hn, rfl⟩ := List.mem_map.1 hl
    exact lineFeed_not_mem_line (lineFeed_not_mem_toString _) (h.cells n hn)

theorem text_eq_join (t : Table) :
    t.text = String.join ((t.lines.map Text.trimEnd).map fun l => l ++ "\n") := by
  rw [List.map_map]
  rfl

/-- The lines of the text are the lines of the table without the white space at their ends. -/
theorem OneLined.lines_text (h : t.OneLined) : Text.lines t.text = t.lines.map Text.trimEnd := by
  rw [text_eq_join]
  refine Text.lines_join fun l hl => ?_
  obtain ⟨l, hline, rfl⟩ := List.mem_map.1 hl
  exact fun hmem => h.lineFeed_not_mem l hline (Text.mem_of_mem_trimEnd hmem)

theorem terminals_ne_nil (raw : OrderedMap Entry) (v : Vocabulary) :
    (ofEntries raw v).terminals ≠ [] :=
  List.ne_nil_of_mem (endMarker_mem_terminals_close _)

/-- The line with the names of the columns. -/
theorem aligned_names (hne : t.terminals ≠ []) :
    t.Aligned Symbol.name (Text.trimEnd (t.line "" Symbol.name)) :=
  (aligned_line hne (fun s _ => t.length_name_le s) (Nat.zero_le _)).trimEnd

/-- The line of a state. -/
theorem aligned_row (hne : t.terminals ≠ []) {n : StateId} (hn : n ∈ t.states) :
    t.Aligned (t.cellText n) (Text.trimEnd (t.line (toString n.toNat) (t.cellText n))) :=
  (aligned_line hne (fun s _ => length_cellText_le hn s) (length_state_le hn)).trimEnd

theorem standsAt_state (t : Table) (n : Nat) (cell : Symbol → String) :
    StandsAt (Text.trimEnd (t.line (toString n) cell)) 0 (toString n) := by
  rw [line_eq]
  have hpad : StandsAt (pad t.stateWidth (toString n)) 0 (toString n) := .self _ _
  exact (hpad.append_right _).trimEnd (not_endsBlank_toString n)

/-- **Where the cells stand.**  The text has two lines and one more for each state, each ended by a
line feed and none of them ending in white space.  With the width of a column that of its widest
text, every cell stands where its column starts, the state of a row stands in front, and the bars stand
at the same two places on every line but the first. -/
theorem text_aligned (raw : OrderedMap Entry) (v : Vocabulary) (h : (ofEntries raw v).OneLined) :
    let t := ofEntries raw v
    let lines := Text.lines t.text
    (∀ s, (s.name.length :: t.states.map fun n => (t.cellText n s).length).max? =
      some (t.columnWidth s)) ∧
    (5 :: t.states.map fun n => (toString n.toNat).length).max? = some t.stateWidth ∧
    (lines.length = 2 + t.states.length ∧ t.text = String.join (lines.map fun l => l ++ "\n") ∧
      ∀ l ∈ lines, ¬ EndsBlank l) ∧
    (∃ l, lines[1]? = some l ∧ t.Aligned Symbol.name l) ∧
    ∀ i n, t.states[i]? = some n → ∃ l, lines[2 + i]? = some l ∧ t.Aligned (t.cellText n) l ∧
      StandsAt l 0 (toString n.toNat) := by
  intro t lines
  have hlines : lines = t.lines.map Text.trimEnd := OneLined.lines_text h
  have hne : t.terminals ≠ [] := terminals_ne_nil raw v
  refine ⟨fun s => max?_cons_eq_widest _ _, max?_cons_eq_widest _ _, ⟨?_, ?_, ?_⟩, ?_, ?_⟩
  · rw [hlines, Table.lines, List.length_map, List.length_cons, List.length_cons, List.length_map]
    omega
  · rw [hlines]
    exact t.text_eq_join
  · intro l hl
    rw [hlines] at hl
    obtain ⟨l, -, rfl⟩ := List.mem_map.1 hl
    exact Text.not_endsBlank_trimEnd l
  · rw [hlines]
    exact ⟨_, rfl, aligned_names hne⟩
  · intro i n hn
    have hrow : lines[2 + i]? =
        some (Text.trimEnd (t.line (toString n.toNat) (t.cellText n))) := by
      rw [hlines, Nat.add_comm]
      simp [Table.lines, hn]
    exact ⟨_, hrow, aligned_row hne (List.mem_of_getElem? hn), t.standsAt_state n.toNat _⟩

/-- One name holds a bar, and a letter with an accent is one character. -/
theorem text_aligned_of_accents :
    let raw : OrderedMap Entry := .ofList
      [("0_é|", ⟨.shift, "3"⟩), ("0_É", ⟨.goto, "1"⟩), ("12_$", ⟨.accept, ""⟩)]
    let t := ofEntries raw .unknown
    t.OneLined ∧ t.states[1]? = some 12 ∧ t.columns[2]? = some (.nonTerminal "É") ∧
    ¬ EndsBlank "É" ∧ t.columnStart 2 = 26 ∧
    (∃ l, (Text.lines t.text)[1]? = some l ∧ StandsAt l (t.columnStart 2) "É") ∧
    ∃ l, (Text.lines t.text)[3]? = some l ∧ t.Aligned (t.cellText 12) l ∧ StandsAt l 0 "12" := by
  intro raw t
  have hone : t.OneLined := by decide +kernel
  have hstate : t.states[1]? = some 12 := by decide +kernel
  have hcolumn : t.columns[2]? = some (.nonTerminal "É") := by decide +kernel
  have hname : ¬ EndsBlank "É" := by decide
  obtain ⟨-, -, -, ⟨l, hl, hnames⟩, hrows⟩ := text_aligned raw .unknown hone
  obtain ⟨r, hr, hrow, hfront⟩ := hrows 1 12 hstate
  exact ⟨hone, hstate, hcolumn, hname, by decide +kernel,
    ⟨l, hl, hnames.cells 2 _ hcolumn hname⟩, r, hr, hrow, hfront⟩

end Table

end ParseLens
