import ParseLens.Decimal.Shortest
import ParseLens.OrderedMap

set_option autoImplicit false

/-!
# JSON: values

The tree of a JSON text.  The members of an object stand in the order of the text, a name that
occurs twice included: readers of the tree decide what a repeated name means.  `Value.settled` is
the usual decision, by which a name keeps its first place and its last value.
-/

namespace ParseLens.Json

/-- A number: an integer of at most 64 bits, or a floating point number. -/
inductive Number where
  | int (n : Int)
  | real (negative : Bool) (magnitude : Decimal.Magnitude)
  deriving DecidableEq, Repr, Inhabited

/-- Floating point numbers are written without a power of ten from 0.00001 up to sixteen digits
before the point. -/
def Number.layout : Decimal.Layout := ⟨-5, 15⟩

/-- The text of a number: an integer as it is, any other number by its shortest digits, always
with a point or a power of ten. -/
def Number.text : Number → List Char
  | .int n => (if n < 0 then ['-'] else []) ++ Nat.toDigits 10 n.natAbs
  | .real negative x => (if negative then ['-'] else []) ++ Number.layout.text x.shortest

/-- The tree of a JSON text. -/
inductive Value where
  | null
  | bool (b : Bool)
  | number (n : Number)
  | string (s : String)
  | array (elements : List Value)
  | object (members : List (String × Value))
  deriving Repr, Inhabited

namespace Value

mutual

/-- The value with every name of an object written once: at its first place, with its last
value. -/
def settled : Value → Value
  | .array vs => .array (settledElements vs)
  | .object ms => .object (OrderedMap.ofList (settledMembers ms)).entries
  | v => v

/-- The elements, each settled. -/
def settledElements : List Value → List Value
  | [] => []
  | v :: vs => v.settled :: settledElements vs

/-- The members, each with its value settled; repeated names are still there. -/
def settledMembers : List (String × Value) → List (String × Value)
  | [] => []
  | (name, v) :: ms => (name, v.settled) :: settledMembers ms

end

/-- A list of texts. -/
def texts (ss : List String) : Value := .array (ss.map .string)

end Value

end ParseLens.Json
