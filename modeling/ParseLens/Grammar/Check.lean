import ParseLens.Grammar.Basic
import ParseLens.Text.Blank
import ParseLens.Text.Quoted

set_option autoImplicit false

/-!
# Grammar: structural checks

A grammar can be sent when its start symbol has productions, no non-terminal has a blank name and
no alternative is blank.  The first offence in that order is reported, production by production,
the name before the alternatives.  Whether the grammar has any LR(1) property is for the parser
generator to say.
-/

namespace ParseLens.Grammar

/-- Why a grammar cannot be used.  What is shown is the message alone, and it does not tell all flaws
apart: a text may be unreadable with the very words of another flaw. -/
inductive Flaw where
  /-- The text of the grammar is not one; the message says why. -/
  | unreadable (message : String)
  /-- The start symbol has no productions. -/
  | undefinedStart (start : String)
  /-- A non-terminal has a blank name. -/
  | blankName
  /-- An alternative is blank; they are counted from zero. -/
  | blankBody (index : Nat) (name : String)
  deriving DecidableEq, Repr, Inhabited

/-- The message for a flaw. -/
def Flaw.message : Flaw → String
  | .unreadable message => message
  | .undefinedStart start => "start symbol " ++ Text.quoted start ++ " has no productions"
  | .blankName => "empty non-terminal name"
  | .blankBody index name =>
    "production #" ++ toString index ++ " of " ++ Text.quoted name ++ " is empty"

/-- The first offence of one non-terminal and its alternatives. -/
def productionFlaw? (name : String) (alternatives : List String) : Option Flaw :=
  if Text.isBlankText name then some .blankName
  else (alternatives.findIdx? Text.isBlankText).map fun index => .blankBody index name

/-- The first offence of a grammar. -/
def flaw? (g : Grammar) : Option Flaw :=
  if g.productions.contains g.start then
    g.productions.entries.findSome? fun entry => productionFlaw? entry.1 entry.2
  else some (.undefinedStart g.start)

/-- Accept a grammar, or report its first offence. -/
def check (g : Grammar) : Except Flaw Unit :=
  match g.flaw? with
  | none => .ok ()
  | some flaw => .error flaw

theorem check_eq_ok_iff {g : Grammar} : g.check = .ok () ↔ g.flaw? = none := by
  unfold check
  split <;> simp_all

theorem check_eq_error_iff {g : Grammar} {flaw : Flaw} :
    g.check = .error flaw ↔ g.flaw? = some flaw := by
  unfold check
  split <;> simp_all

example : initial.flaw? = none := by decide +kernel

end ParseLens.Grammar
