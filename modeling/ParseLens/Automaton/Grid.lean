import ParseLens.Automaton.Table

set_option autoImplicit false

/-!
# Automaton: tables as text

A parsing table in columns:

```
State | ACTION                  | GOTO
      | a        b        $      | S       A
0     | shift 3  shift 4  -      | goto 1  goto 2
```

Each column is as wide as its widest cell, counted in characters, and two blanks stand between
columns.  Blanks at the end of a line are dropped.
-/

namespace ParseLens

/-- A text with blanks added at its end, up to a width. -/
def pad (width : Nat) (s : String) : String :=
  s ++ String.ofList (List.replicate (width - s.length) ' ')

theorem length_pad (width : Nat) (s : String) : (pad width s).length = max s.length width := by
  simp [pad, String.length_append]
  omega

/-- The largest of some numbers, and at least `least`. -/
def widest (least : Nat) (widths : List Nat) : Nat := widths.foldl max least

/-- Cells in columns of the given widths. -/
def joinCells (cells : List String) (widths : List Nat) : String :=
  "  ".intercalate (List.zipWith pad widths cells)

/-- The width of adjacent columns. -/
def groupWidth (widths : List Nat) : Nat := widths.foldr (· + ·) 0 + 2 * (widths.length - 1)

namespace Table

/-- The width of a column. -/
def columnWidth (t : Table) (symbol : Symbol) : Nat :=
  widest symbol.name.length (t.states.map fun state => (t.cellText state symbol).length)

/-- The width of the column of states. -/
def stateWidth (t : Table) : Nat :=
  widest "State".length (t.states.map fun state => (toString state.toNat).length)

/-- A line with a cell for the state, the ACTION cells and the GOTO cells. -/
def line (t : Table) (state : String) (cell : Symbol → String) : String :=
  pad t.stateWidth state ++ " | " ++
    joinCells (t.terminals.map cell) (t.terminals.map t.columnWidth) ++ " | " ++
    joinCells (t.nonTerminals.map cell) (t.nonTerminals.map t.columnWidth)

/-- The line above the names of the columns. -/
def heading (t : Table) : String :=
  pad t.stateWidth "State" ++ " | " ++
    pad (groupWidth (t.terminals.map t.columnWidth)) "ACTION" ++ " | GOTO"

/-- All lines, with the blanks at their ends. -/
def lines (t : Table) : List String :=
  t.heading :: t.line "" Symbol.name ::
    t.states.map fun state => t.line (toString state.toNat) (t.cellText state)

/-- The table as text. -/
def text (t : Table) : String := String.join (t.lines.map fun l => Text.trimEnd l ++ "\n")

end Table

end ParseLens
