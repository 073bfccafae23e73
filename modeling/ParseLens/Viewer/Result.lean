import ParseLens.Automaton.Grid
import ParseLens.Exchange.Response
import ParseLens.Problem

set_option autoImplicit false

/-!
# Viewer: results

One answer of the parser generator, prepared once for the three views: the states with their
items, the parsing table, and the recorded parse.
-/

namespace ParseLens

/-- The views. -/
inductive Tab where
  | sets
  | table
  | simulation
  deriving DecidableEq, Repr, Inhabited

namespace Tab

/-- All views, in their order. -/
def all : List Tab := [.sets, .table, .simulation]

/-- The heading of a view. -/
def title : Tab → String
  | .sets => "LR(1) Sets"
  | .table => "Parsing Table"
  | .simulation => "Simulation"

/-- The line above a view. -/
def banner (t : Tab) : String := "== " ++ t.title ++ " ==\n"

end Tab

/-- A prepared answer. -/
structure ResultView where
  /-- The answer. -/
  response : Response
  /-- Its states as they are shown. -/
  sets : List StateView
  /-- Its parsing table. -/
  table : Table
  deriving DecidableEq, Repr, Inhabited

namespace ResultView

/-- Prepare an answer; the vocabulary decides the kinds of its symbols. -/
def ofResponse (r : Response) (v : Vocabulary) : ResultView :=
  ⟨r, r.sets.map ItemSet.view, .ofEntries r.table v⟩

/-- A replay of the recorded parse, on its first step. -/
def replay (r : ResultView) : Replay := .ofSteps r.response.steps

/-- Everything that was moved or skipped: dots of items, then keys of the table. -/
def problems (r : ResultView) : List Problem :=
  (r.sets.flatMap StateView.issues).map .dot ++ r.table.skipped.map fun s => .key s.1 s.2

/-- The text of a view.  The simulation shows the selected step. -/
def text (r : ResultView) (tab : Tab) (replay : Replay) : String :=
  match tab with
  | .sets => "\n".intercalate (r.sets.map StateView.text)
  | .table => r.table.text
  | .simulation =>
    match replay.current? with
    | some step =>
      step.text ++ "(step " ++ toString (step.index + 1) ++ " of " ++ toString replay.length ++ ")\n"
    | none => "No parsing steps.\n"

end ResultView

end ParseLens
