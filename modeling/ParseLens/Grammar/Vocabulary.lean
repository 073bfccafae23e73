import ParseLens.Grammar.Basic
import ParseLens.Text.Alphabetic
import ParseLens.Text.Blank
import ParseLens.Text.Uppercase

set_option autoImplicit false

/-!
# Grammar: symbols and their kinds

A parser generator answers with plain names.  Whether a name is a terminal or a non-terminal is
decided once, by a vocabulary: the names that a grammar defines are non-terminals, the other names
in its alternatives are terminals, and a name that the grammar does not mention is judged by its
letters.
-/

namespace ParseLens

/-- The terminal that stands for the end of the input. -/
def endMarker : String := "$"

/-- The kind of a symbol. -/
inductive SymbolKind where
  | terminal
  | nonTerminal
  deriving DecidableEq, Repr, Inhabited

/-- A symbol of a grammar. -/
structure Symbol where
  /-- Its name. -/
  name : String
  /-- Its kind. -/
  kind : SymbolKind
  deriving DecidableEq, Repr, Inhabited

namespace Symbol

/-- The terminal with the given name. -/
def terminal (name : String) : Symbol := ⟨name, .terminal⟩

/-- The non-terminal with the given name. -/
def nonTerminal (name : String) : Symbol := ⟨name, .nonTerminal⟩

/-- Whether a symbol is a terminal. -/
def isTerminal (s : Symbol) : Bool := s.kind = .terminal

end Symbol

/-- The custom by which non-terminals are named: at least one letter, and every letter a
capital. -/
def looksLikeNonTerminal (name : String) : Bool :=
  let letters := name.toList.filter Text.isAlphabetic
  !letters.isEmpty && letters.all Text.isUppercase

theorem looksLikeNonTerminal_iff {name : String} :
    looksLikeNonTerminal name = true ↔
      (∃ c ∈ name.toList, Text.isAlphabetic c = true) ∧
        ∀ c ∈ name.toList, Text.isAlphabetic c = true → Text.isUppercase c = true := by
  simp only [looksLikeNonTerminal, Bool.and_eq_true, Bool.not_eq_true', List.isEmpty_eq_false_iff,
    List.all_eq_true, List.mem_filter, and_imp, ne_eq, List.filter_eq_nil_iff]
  exact and_congr_left fun _ => by simp

/-- The names that are known to be symbols of either kind. -/
structure Vocabulary where
  /-- Names of non-terminals. -/
  nonTerminals : List String
  /-- Names of terminals. -/
  terminals : List String
  deriving DecidableEq, Repr, Inhabited

namespace Vocabulary

/-- The vocabulary of a grammar. -/
def ofGrammar (g : Grammar) : Vocabulary where
  nonTerminals := g.productions.names
  terminals := (g.bodies.flatMap Text.words).filter fun name => !g.productions.contains name

/-- The vocabulary that knows no name. -/
def unknown : Vocabulary := ⟨[], []⟩

/-- Whether no name is known. -/
def isEmpty (v : Vocabulary) : Bool := v.nonTerminals.isEmpty && v.terminals.isEmpty

/-- The kind of the symbol with the given name. -/
def kindOf (v : Vocabulary) (name : String) : SymbolKind :=
  if name = endMarker ∨ name ∈ v.terminals then .terminal
  else if name ∈ v.nonTerminals ∨ looksLikeNonTerminal name = true then .nonTerminal
  else .terminal

/-- The symbol with the given name. -/
def classify (v : Vocabulary) (name : String) : Symbol := ⟨name, v.kindOf name⟩

@[simp] theorem kindOf_endMarker (v : Vocabulary) : v.kindOf endMarker = .terminal := by
  simp [kindOf]

theorem mem_terminals_ofGrammar {g : Grammar} {name : String} :
    name ∈ (ofGrammar g).terminals ↔
      (∃ body ∈ g.bodies, name ∈ Text.words body) ∧ name ∉ g.productions.names := by
  simp [ofGrammar, List.mem_filter, List.mem_flatMap, OrderedMap.contains]

end Vocabulary

end ParseLens
