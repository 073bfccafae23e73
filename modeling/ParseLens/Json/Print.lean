import ParseLens.Json.Blank
import ParseLens.Json.Value

set_option autoImplicit false

/-!
# JSON: written values

The written form of a value.  There are two, which differ only in the white space between the
parts: the compact one has none, the indented one puts every element and member on a line of its
own.  White space is therefore a parameter, a `Spacing`, which carries the proof that it holds
white space only; whatever is said about reading back a printed value is said for every spacing.
-/

namespace ParseLens.Json

/-! ## Strings -/

/-- One character inside a string literal.  The quote, the backslash and the control characters
below the space are escaped, and nothing else. -/
def escapeChar (c : Char) : List Char :=
  if c = '"' then ['\\', '"']
  else if c = '\\' then ['\\', '\\']
  else if c = '\x08' then ['\\', 'b']
  else if c = '\x0c' then ['\\', 'f']
  else if c = '\n' then ['\\', 'n']
  else if c = '\r' then ['\\', 'r']
  else if c = '\t' then ['\\', 't']
  else if c.toNat < 0x20 then
    ['\\', 'u', '0', '0', Nat.digitChar (c.toNat / 16), Nat.digitChar (c.toNat % 16)]
  else [c]

/-- A string literal. -/
def literal (s : String) : List Char := '"' :: s.toList.flatMap escapeChar ++ ['"']

/-! ## White space between the parts -/

/-- Where white space stands in a written value. -/
structure Spacing where
  /-- In front of an element, a member or a closing bracket at the given depth. -/
  lineBreak : Nat → List Char
  /-- In front of the value of a member. -/
  afterColon : List Char
  /-- Line breaks are white space. -/
  isBlank_lineBreak : ∀ depth, ∀ c ∈ lineBreak depth, isBlank c = true
  /-- So is what follows a colon. -/
  isBlank_afterColon : ∀ c ∈ afterColon, isBlank c = true

namespace Spacing

/-- No white space at all. -/
def compact : Spacing := ⟨fun _ => [], [], by simp, by simp⟩

/-- One line for each part, two spaces for each level, one space after a colon. -/
def indented : Spacing where
  lineBreak depth := '\n' :: List.replicate (2 * depth) ' '
  afterColon := [' ']
  isBlank_lineBreak depth c h := by
    rcases List.mem_cons.1 h with h | h
    · rw [h]; rfl
    · rw [List.eq_of_mem_replicate h]; rfl
  isBlank_afterColon c h := by
    rw [List.mem_singleton.1 h]; rfl

end Spacing

/-! ## Values -/

namespace Value

mutual

/-- The written form of a value inside `depth` brackets. -/
def print (sp : Spacing) (depth : Nat) : Value → List Char
  | .null => ['n', 'u', 'l', 'l']
  | .bool true => ['t', 'r', 'u', 'e']
  | .bool false => ['f', 'a', 'l', 's', 'e']
  | .number n => n.text
  | .string s => literal s
  | .array [] => ['[', ']']
  | .array vs => '[' :: printElements sp (depth + 1) true vs ++ sp.lineBreak depth ++ [']']
  | .object [] => ['{', '}']
  | .object ms => '{' :: printMembers sp (depth + 1) true ms ++ sp.lineBreak depth ++ ['}']

/-- Elements inside `depth` brackets, each but the first of the array after a comma. -/
def printElements (sp : Spacing) (depth : Nat) (first : Bool) : List Value → List Char
  | [] => []
  | v :: vs =>
    (if first then [] else [',']) ++ sp.lineBreak depth ++ v.print sp depth ++
      printElements sp depth false vs

/-- Members inside `depth` brackets, each but the first of the object after a comma. -/
def printMembers (sp : Spacing) (depth : Nat) (first : Bool) : List (String × Value) → List Char
  | [] => []
  | (name, v) :: ms =>
    (if first then [] else [',']) ++ sp.lineBreak depth ++ literal name ++ ':' :: sp.afterColon ++
      v.print sp depth ++ printMembers sp depth false ms

end

/-- The compact text of a value. -/
def compact (v : Value) : String := String.ofList (v.print .compact 0)

/-- The indented text of a value. -/
def indented (v : Value) : String := String.ofList (v.print .indented 0)

end Value

end ParseLens.Json
