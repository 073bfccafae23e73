set_option autoImplicit false

/-!
# Text: spans of code points

A set of code points is given as the ascending list of the places where membership changes: the
first member, the first non-member after it, the next member, and so on.  The tables of this
folder (letters, capital letters, printable characters) are such lists.
-/

namespace ParseLens.Text

/-- Whether `n` lies in the set whose membership changes at the listed places. -/
def inSpans : List Nat → Nat → Bool
  | [], _ => false
  | [start], n => start ≤ n
  | start :: stop :: more, n => if n < start then false else n < stop || inSpans more n

@[simp] theorem inSpans_nil (n : Nat) : inSpans [] n = false := rfl

end ParseLens.Text
