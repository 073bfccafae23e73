import ParseLens.Automaton.Item
import ParseLens.Automaton.Table
import ParseLens.Automaton.Trace

set_option autoImplicit false

/-!
# Viewer: expectations

Comparing what is shown with what was expected: the rows of a table, the items of a state, the steps
of a parse.  A comparison names the first thing that differs; lists of different lengths are
reported as such before any element is looked at.
-/

namespace ParseLens

/-- What differs from an expectation. -/
inductive Mismatch where
  /-- The number of rows; there may be none at all. -/
  | rowCount (noRows : Bool)
  /-- A row of the table. -/
  | row (index : Nat)
  /-- The items of a state. -/
  | items (state : UInt64)
  /-- The number of steps. -/
  | stepCount
  /-- The stack of a step. -/
  | stack (index : Nat)
  /-- The input of a step. -/
  | input (index : Nat)
  /-- The action of a step. -/
  | action (index : Nat)
  deriving DecidableEq, Repr, Inhabited

namespace Mismatch

/-- The first line of the report of a mismatch. -/
def label : Mismatch → String
  | .rowCount true => "row count; got []"
  | .rowCount false => "row count; got ["
  | .row index => "row " ++ toString index
  | .items state => "state " ++ toString state.toNat
  | .stepCount => ""
  | .stack index => "stack at step " ++ toString index
  | .input index => "input at step " ++ toString index
  | .action index => "action at step " ++ toString index

end Mismatch

/-- The first place where two lists differ, up to the end of the shorter one; `index` elements stand
before them. -/
def firstDifference {α β : Type} (differ : Nat → α → β → Option Mismatch) :
    Nat → List α → List β → Option Mismatch
  | index, a :: as, b :: bs =>
    match differ index a b with
    | some m => some m
    | none => firstDifference differ (index + 1) as bs
  | _, _, _ => none

namespace Table

/-- A row with the number of its state in front. -/
def rowText (t : Table) (state : StateId) : String :=
  " | ".intercalate (toString state.toNat :: t.row state)

/-- Compare the rows of a table with expected texts. -/
def compareRows (t : Table) (expected : List String) : Option Mismatch :=
  let rows := t.states.map t.rowText
  if rows.length ≠ expected.length then some (.rowCount rows.isEmpty)
  else
    firstDifference (fun index got want => if got = want then none else some (.row index)) 0 rows
      expected

end Table

/-- Compare the items of a state with expected texts. -/
def StateView.compareItems (v : StateView) (expected : List String) : Option Mismatch :=
  if v.items.map ItemView.text = expected then none else some (.items v.state)

/-- Compare a step with an expected stack, input and action, in this order. -/
def StepView.compare (v : StepView) (stack input action : String) : Option Mismatch :=
  if v.stack ≠ stack then some (.stack v.index)
  else if v.input ≠ input then some (.input v.index)
  else if v.action ≠ action then some (.action v.index)
  else none

/-- Compare the steps of a parse with expected stacks, inputs and actions. -/
def Replay.compareSteps (r : Replay) (expected : List (String × String × String)) :
    Option Mismatch :=
  if r.length ≠ expected.length then some .stepCount
  else
    firstDifference (fun _ (v : StepView) (want : String × String × String) =>
      v.compare want.1 want.2.1 want.2.2) 0 r.views expected

end ParseLens
