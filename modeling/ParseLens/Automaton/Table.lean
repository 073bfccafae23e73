import ParseLens.Automaton.Action
import ParseLens.Automaton.TableKey
import ParseLens.Grammar.Vocabulary

set_option autoImplicit false

/-!
# Automaton: parsing tables

The ACTION/GOTO table of an LR parser, put together from the flat map in which it arrives.  Keys are
taken in order.  A key that names no cell, or a cell that is there already, is skipped and noted;
it does not spoil the rest of the table.  States are listed in ascending order, symbols in the
order in which they first occur, and the end marker is always one of the terminals.
-/

namespace ParseLens

/-- Put a number into an ascending list, unless it is there. -/
def insertState (n : StateId) : List StateId → List StateId
  | [] => [n]
  | m :: ms => if n < m then n :: m :: ms else if n = m then m :: ms else m :: insertState n ms

theorem mem_insertState {n m : StateId} {l : List StateId} :
    m ∈ insertState n l ↔ m = n ∨ m ∈ l := by
  induction l with
  | nil => simp [insertState]
  | cons k l ih =>
    unfold insertState
    split
    · simp
    · split
      · rename_i h
        subst h
        simp
      · simp only [List.mem_cons, ih]
        exact or_left_comm

/-- Add a symbol at the end of a list, unless it is there. -/
def addSymbol (s : Symbol) (l : List Symbol) : List Symbol := if s ∈ l then l else l ++ [s]

theorem mem_addSymbol {s t : Symbol} {l : List Symbol} : t ∈ addSymbol s l ↔ t ∈ l ∨ t = s := by
  unfold addSymbol
  split
  · rename_i h
    exact ⟨.inl, fun ht => ht.elim id fun e => e ▸ h⟩
  · simp

/-- A parsing table. -/
structure Table where
  /-- The states, ascending. -/
  states : List StateId
  /-- The columns of the ACTION part. -/
  terminals : List Symbol
  /-- The columns of the GOTO part. -/
  nonTerminals : List Symbol
  /-- The cells that have an entry. -/
  cells : List ((StateId × Symbol) × Entry)
  /-- The keys that were skipped, each with the reason. -/
  skipped : List (String × TableKey.Flaw)
  deriving DecidableEq, Repr, Inhabited

namespace Table

/-- The table without cells. -/
def empty : Table := ⟨[], [], [], [], []⟩

/-- The entry of a cell, if it has one. -/
def lookup (t : Table) (state : StateId) (symbol : Symbol) : Option Entry :=
  t.cells.lookup (state, symbol)

/-- Fill a cell that has no entry. -/
def fill (t : Table) (state : StateId) (symbol : Symbol) (entry : Entry) : Table :=
  { t with
    states := insertState state t.states
    terminals := if symbol.isTerminal then addSymbol symbol t.terminals else t.terminals
    nonTerminals := if symbol.isTerminal then t.nonTerminals else addSymbol symbol t.nonTerminals
    cells := t.cells ++ [((state, symbol), entry)] }

/-- Note a key that is skipped. -/
def skip (t : Table) (key : String) (flaw : TableKey.Flaw) : Table :=
  { t with skipped := t.skipped ++ [(key, flaw)] }

/-- Take in one key with its entry. -/
def add (v : Vocabulary) (t : Table) (key : String) (entry : Entry) : Table :=
  match TableKey.split key with
  | .error flaw => t.skip key flaw
  | .ok (state, name) =>
    let symbol := v.classify name
    if (t.lookup state symbol).isSome then t.skip key .duplicate
    else t.fill state symbol entry

/-- The table with the end marker among its terminals. -/
def close (t : Table) : Table :=
  { t with terminals := addSymbol (.terminal endMarker) t.terminals }

/-- Put together the table that arrives as a flat map. -/
def ofEntries (raw : OrderedMap Entry) (v : Vocabulary) : Table :=
  (raw.entries.foldl (fun t e => t.add v e.1 e.2) empty).close

/-- All columns: those of the ACTION part, then those of the GOTO part. -/
def columns (t : Table) : List Symbol := t.terminals ++ t.nonTerminals

/-- The column with the given name. -/
def symbol? (t : Table) (name : String) : Option Symbol := t.columns.find? fun s => s.name = name

/-- The entry in the column with the given name. -/
def lookupName (t : Table) (state : StateId) (name : String) : Option Entry :=
  match t.symbol? name with
  | none => none
  | some symbol => t.lookup state symbol

/-- What is shown for a cell without an entry. -/
def noAction : String := "-"

/-- The text of a cell. -/
def cellText (t : Table) (state : StateId) (symbol : Symbol) : String :=
  match t.lookup state symbol with
  | some entry => entry.text
  | none => noAction

/-- The texts of the cells of one state. -/
def row (t : Table) (state : StateId) : List String := t.columns.map (t.cellText state)

theorem endMarker_mem_terminals_close (t : Table) :
    Symbol.terminal endMarker ∈ t.close.terminals :=
  mem_addSymbol.2 (.inr rfl)

end Table

end ParseLens
