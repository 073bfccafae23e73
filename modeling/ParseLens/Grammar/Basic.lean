import ParseLens.OrderedMap

set_option autoImplicit false

/-!
# Grammar: context-free grammars

A grammar as it is edited: for each non-terminal its alternatives in the order in which they were
written, and the name of the start symbol.  An alternative is a text whose words are symbols.
Nothing is required of the names here; `ParseLens.Grammar.Check` says when a grammar is fit to be
sent to a parser generator.
-/

namespace ParseLens

/-- A context-free grammar. -/
structure Grammar where
  /-- The alternatives of each non-terminal. -/
  productions : OrderedMap (List String)
  /-- The start symbol. -/
  start : String
  deriving DecidableEq, Repr, Inhabited

namespace Grammar

/-- The grammar `S → A A`, `A → a A | b`, with which editing starts. -/
def initial : Grammar :=
  ⟨.ofList [("S", ["A A"]), ("A", ["a A", "b"])], "S"⟩

/-- All alternatives, in order. -/
def bodies (g : Grammar) : List String := g.productions.values.flatten

@[simp] theorem mem_bodies {g : Grammar} {body : String} :
    body ∈ g.bodies ↔ ∃ alternatives ∈ g.productions.values, body ∈ alternatives := by
  simp [bodies]

end Grammar

end ParseLens
