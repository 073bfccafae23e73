import ParseLens.Text.Blank
import ParseLens.Text.Quoted

set_option autoImplicit false

/-!
# Automaton: items and item sets

An LR(1) item is a production with a mark in one of the gaps between its symbols and a terminal
to look ahead for.  A state of the automaton is a numbered set of items.

An item is shown as `A → a•A, $`: the dot takes the place of the blank between two symbols.  A dot
that lies outside the production is moved to the nearest gap, and the item is marked.
-/

namespace ParseLens

/-- The mark of the gap. -/
def dot : Char := '•'

/-- What stands between a non-terminal and its production. -/
def arrow : String := "→"

/-- An LR(1) item. -/
structure Item where
  /-- The non-terminal. -/
  nonTerminal : String
  /-- The symbols of the production, as the words of a text. -/
  production : String
  /-- The gap that the dot lies in: zero before the first symbol, the number of symbols behind
  the last.  It has a sign, so that a value out of range can be shown as it is. -/
  dotPosition : Int64
  /-- The terminal to look ahead for. -/
  lookahead : String
  deriving DecidableEq, Repr, Inhabited

/-- A state of the automaton. -/
structure ItemSet where
  /-- The number of the state. -/
  state : UInt64
  /-- Its items, in the order received. -/
  items : List Item
  deriving DecidableEq, Repr, Inhabited

/-! ## The dot -/

/-- Symbols joined by blanks, with the dot in the gap `gap`; `index` symbols stand before them. -/
def dottedFrom (gap : Nat) : Nat → List String → String
  | index, [] => if index ≤ gap then String.singleton dot else ""
  | index, symbol :: symbols =>
    (if index = gap then String.singleton dot else if 0 < index then " " else "") ++ symbol ++
      dottedFrom gap (index + 1) symbols

/-- The body of a production with a dot in one of its gaps; a gap beyond the last one counts as
the last. -/
def dottedBody (symbols : List String) (gap : Nat) : String := dottedFrom gap 0 symbols

example : dottedBody ["a", "A"] 1 = "a•A" := by decide +kernel
example : dottedBody ["A", "A"] 5 = "A A•" := by decide +kernel

/-! ## Shown items -/

/-- A dot outside the production. -/
structure DotIssue where
  /-- The item, with its production as received. -/
  item : String
  /-- Where the dot is. -/
  dotPosition : Int64
  /-- The number of symbols. -/
  length : Nat
  deriving DecidableEq, Repr, Inhabited

/-- An item as it is shown. -/
structure ItemView where
  /-- Its text. -/
  text : String
  /-- Set when the dot had to be moved. -/
  issue : Option DotIssue
  /-- Whether the dot is at the end, where it came in range. -/
  reducible : Bool
  deriving DecidableEq, Repr, Inhabited

namespace Item

/-- The symbols of the production. -/
def symbols (i : Item) : List String := Text.words i.production

/-- Whether the dot is at the end: the item calls for a reduction. -/
def isReducible (i : Item) : Bool := i.dotPosition.toInt = i.symbols.length

/-- The gap nearest to where the dot is. -/
def gap (i : Item) : Nat := min i.dotPosition.toInt.toNat i.symbols.length

/-- The issue with the dot, where it lies outside the production. -/
def issue? (i : Item) : Option DotIssue :=
  if i.dotPosition.toInt < 0 ∨ (i.symbols.length : Int) < i.dotPosition.toInt then
    some ⟨i.nonTerminal ++ " " ++ arrow ++ " " ++ i.production, i.dotPosition, i.symbols.length⟩
  else none

/-- The text of an item. -/
def text (i : Item) : String :=
  i.nonTerminal ++ " " ++ arrow ++ " " ++ dottedBody i.symbols i.gap ++ ", " ++ i.lookahead

/-- The item as it is shown. -/
def view (i : Item) : ItemView := ⟨i.text, i.issue?, i.issue?.isNone && i.isReducible⟩

end Item

/-! ## Shown states -/

/-- A state as it is shown. -/
structure StateView where
  /-- The number of the state. -/
  state : UInt64
  /-- Its items. -/
  items : List ItemView
  deriving DecidableEq, Repr, Inhabited

namespace StateView

/-- The issues with the dots of the items, in order. -/
def issues (v : StateView) : List DotIssue := v.items.filterMap ItemView.issue

/-- The text of a state: a heading, and a line for each item, marked where the dot was moved. -/
def text (v : StateView) : String :=
  "State " ++ toString v.state.toNat ++ ":\n" ++
    String.join (v.items.map fun i =>
      "  " ++ i.text ++ (if i.issue.isSome then "  (!)" else "") ++ "\n")

end StateView

/-- The state as it is shown. -/
def ItemSet.view (s : ItemSet) : StateView := ⟨s.state, s.items.map Item.view⟩

end ParseLens
