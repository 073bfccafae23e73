set_option autoImplicit false

/-!
# Automaton: actions

What an LR parser does in a step, and what a cell of its table holds.  Actions arrive under long
names and under short codes; a code that is neither is kept as it came and shown as it came.
-/

namespace ParseLens

/-- What a parser does. -/
inductive Action where
  | shift
  | reduce
  | goto
  | accept
  | other (code : String)
  deriving DecidableEq, Repr, Inhabited

namespace Action

/-- The action with the given code. -/
def ofCode (code : String) : Action :=
  if code = "shift" ∨ code = "s" then .shift
  else if code = "reduce" ∨ code = "r" then .reduce
  else if code = "goto" ∨ code = "g" then .goto
  else if code = "accept" ∨ code = "acc" ∨ code = "a" then .accept
  else .other code

/-- The long name of an action. -/
def code : Action → String
  | .shift => "shift"
  | .reduce => "reduce"
  | .goto => "goto"
  | .accept => "accept"
  | .other code => code

/-- The long name of the action with some code stands for the same action. -/
@[simp] theorem ofCode_code_ofCode (s : String) : ofCode (ofCode s).code = ofCode s := by
  unfold ofCode
  split
  · decide
  · split
    · decide
    · split
      · decide
      · split
        · decide
        · simp_all [code]

/-- The text of an action with its value: the target state of a shift or goto, or the number of
the production to reduce by.  Acceptance has no value, and an empty one is not shown. -/
def text (a : Action) (value : String) : String :=
  if a = .accept ∨ value = "" then a.code else a.code ++ " " ++ value

end Action

/-- What a cell of a parsing table holds. -/
structure Entry where
  /-- The action. -/
  action : Action
  /-- Its value; empty when there is none. -/
  value : String
  deriving DecidableEq, Repr, Inhabited

/-- The text of a cell. -/
def Entry.text (e : Entry) : String := e.action.text e.value

end ParseLens
