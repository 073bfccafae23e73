import ParseLens.Automaton.Action
import ParseLens.Text.Blank

set_option autoImplicit false

/-!
# Automaton: recorded parses

The steps of a parse as they were recorded, and a replay: the steps with a cursor on one of them.
A replay never changes its steps, and its cursor stays on a step; requests beyond either end land
on the nearest step.  Nothing here checks that consecutive steps agree.
-/

namespace ParseLens

/-- One recorded configuration of the parser, with the action it takes. -/
structure Step where
  /-- The stack from the bottom, as states with the symbols they were entered by. -/
  stack : List (UInt64 × String)
  /-- The input that is left, end marker included. -/
  input : List String
  /-- The action. -/
  action : Action
  /-- Its value; empty when there is none. -/
  value : String
  deriving DecidableEq, Repr, Inhabited

/-- A step as it is shown. -/
structure StepView where
  /-- Its number, from zero. -/
  index : Nat
  /-- The stack. -/
  stack : String
  /-- The input that is left. -/
  input : String
  /-- The action. -/
  action : String
  deriving DecidableEq, Repr, Inhabited

/-- The text of a stack: each state with its symbol, and a blank behind it. -/
def stackText (stack : List (UInt64 × String)) : String :=
  String.join (stack.map fun entry => toString entry.1.toNat ++ entry.2 ++ " ")

namespace StepView

/-- A step as it is shown. -/
def ofStep (index : Nat) (s : Step) : StepView :=
  ⟨index, stackText s.stack, " ".intercalate s.input, s.action.text s.value⟩

/-- The text of a step; here steps are numbered from one. -/
def text (v : StepView) : String :=
  "Step " ++ toString (v.index + 1) ++ "\n  Stack:  " ++ Text.trimEnd v.stack ++
    "\n  Input:  " ++ v.input ++ "\n  Action: " ++ v.action ++ "\n"

end StepView

/-- Recorded steps with a cursor. -/
structure Replay where
  /-- The steps. -/
  steps : List Step
  /-- The number of the selected step; none only when there are no steps. -/
  cursor : Option Nat
  deriving DecidableEq, Repr, Inhabited

namespace Replay

/-- A replay of some steps, on the first one. -/
def ofSteps (steps : List Step) : Replay := ⟨steps, if steps.isEmpty then none else some 0⟩

/-- The number of steps. -/
def length (r : Replay) : Nat := r.steps.length

/-- The step with the given number, as it is shown. -/
def step? (r : Replay) (index : Nat) : Option StepView :=
  r.steps[index]?.map (StepView.ofStep index)

/-- The selected step, as it is shown. -/
def current? (r : Replay) : Option StepView :=
  match r.cursor with
  | none => none
  | some index => r.step? index

/-- Select the step with the given number, or the last one. -/
def select (r : Replay) (index : Nat) : Replay :=
  if r.steps.isEmpty then r else { r with cursor := some (min index (r.steps.length - 1)) }

/-- Go to the next step. -/
def forward (r : Replay) : Replay :=
  match r.cursor with
  | none => r
  | some index => r.select (index + 1)

/-- Go to the step before. -/
def back (r : Replay) : Replay :=
  match r.cursor with
  | none => r
  | some index => r.select (index - 1)

/-- Go to the first step. -/
def rewind (r : Replay) : Replay := r.select 0

/-- Go to the last step. -/
def last (r : Replay) : Replay := r.select (r.steps.length - 1)

/-- A way to move the cursor. -/
inductive Move where
  /-- Select the step with the given number. -/
  | select (index : UInt64)
  /-- Go to the next step. -/
  | forward
  /-- Go to the step before. -/
  | back
  /-- Go to the first step. -/
  | rewind
  /-- Go to the last step. -/
  | last
  deriving DecidableEq, Repr, Inhabited

/-- Move the cursor. -/
def move (r : Replay) : Move → Replay
  | .select index => r.select index.toNat
  | .forward => r.forward
  | .back => r.back
  | .rewind => r.rewind
  | .last => r.last

/-- Move the cursor again and again. -/
def run (r : Replay) (moves : List Move) : Replay := moves.foldl move r

/-- The largest number that a step can have in a word of 64 bits. -/
def maxIndex : Nat := UInt64.size - 1

/-- Select a step, and answer where the cursor is then. -/
def answerSelect (r : Replay) (index : Nat) : Option Nat × Replay :=
  ((r.select index).cursor, r.select index)

/-- Move the cursor with numbers in words of 64 bits, which stop at either end, and answer where the
cursor is then. -/
def answer (r : Replay) : Move → Option Nat × Replay
  | .select index => r.answerSelect index.toNat
  | .forward =>
    match r.cursor with
    | none => (none, r)
    | some index => r.answerSelect (min (index + 1) maxIndex)
  | .back =>
    match r.cursor with
    | none => (none, r)
    | some index => r.answerSelect (index - 1)
  | .rewind => r.answerSelect 0
  | .last => r.answerSelect maxIndex

/-- All steps as they are shown. -/
def views (r : Replay) : List StepView := r.steps.mapIdx StepView.ofStep

/-- The texts of all steps. -/
def text (r : Replay) : String := String.join (r.views.map StepView.text)

@[simp] theorem steps_select (r : Replay) (index : Nat) : (r.select index).steps = r.steps := by
  unfold select
  split <;> rfl

@[simp] theorem steps_forward (r : Replay) : r.forward.steps = r.steps := by
  unfold forward
  split <;> simp

@[simp] theorem steps_back (r : Replay) : r.back.steps = r.steps := by
  unfold back
  split <;> simp

@[simp] theorem steps_move (r : Replay) (m : Move) : (r.move m).steps = r.steps := by
  cases m <;> simp [move, rewind, last]

theorem cursor_select {r : Replay} (h : r.steps ≠ []) (index : Nat) :
    (r.select index).cursor = some (min index (r.steps.length - 1)) := by
  simp [select, h]

end Replay

end ParseLens
