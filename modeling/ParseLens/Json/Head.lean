import ParseLens.Json.NumberLiteral
import ParseLens.Json.StringLiteral

set_option autoImplicit false

/-!
# JSON: the head of a value

The first thing that is seen of a value: a word, a number or a string as a whole, or the bracket
that opens an array or object.  A reader that expects one kind and sees the head of another still
reads the head, so a word or literal that is not well formed is reported as such, before the kind
is.
-/

namespace ParseLens.Json

/-- The head of a value. -/
inductive Head where
  | null
  | bool (b : Bool)
  | number (n : Number)
  | string (s : String)
  | openList
  | openObject
  deriving Repr, Inhabited

namespace Head

/-- What a message calls the value with this head. -/
def found : Head → Found
  | .null => .null
  | .bool b => .bool b
  | .number n => .number n
  | .string s => .string s
  | .openList => .list
  | .openObject => .map

/-- Whether a bracket opens. -/
def isBracket : Head → Bool
  | .openList | .openObject => true
  | _ => false

end Head

/-- Read the given letters. -/
def readWord : List Char → List Char → Except Fault (List Char)
  | [], s => .ok s
  | _ :: _, [] => .error ⟨.endInValue, [], 0⟩
  | w :: ws, c :: s => if c = w then readWord ws s else .error ⟨.wordExpected, c :: s, 1⟩

theorem readWord_append (ws s : List Char) : readWord ws (ws ++ s) = .ok s := by
  induction ws with
  | nil => rfl
  | cons w ws ih => simp [readWord, ih]

theorem readWord_le {ws s rest : List Char} (h : readWord ws s = .ok rest) :
    rest.length ≤ s.length := by
  fun_induction readWord ws s with
  | case1 s =>
    simp only [Except.ok.injEq] at h
    simp [h]
  | case2 => simp at h
  | case3 w ws s ih => exact Nat.le_succ_of_le (ih h)
  | case4 => simp at h

/-- Read a word whose first letter has been read. -/
def readKeyword (letters : List Char) (head : Head) (s : List Char) : Outcome Head :=
  match readWord letters s with
  | .error e => .error e
  | .ok rest => .ok (head, rest)

/-- Read the head of the value that starts at the front of a text; white space has been passed
over. -/
def readHead : List Char → Outcome Head
  | [] => .error ⟨.endInValue, [], 0⟩
  | 'n' :: s => readKeyword ['u', 'l', 'l'] .null s
  | 't' :: s => readKeyword ['r', 'u', 'e'] (.bool true) s
  | 'f' :: s => readKeyword ['a', 'l', 's', 'e'] (.bool false) s
  | '[' :: s => .ok (.openList, s)
  | '{' :: s => .ok (.openObject, s)
  | '"' :: s =>
    match readString s with
    | .error e => .error e
    | .ok (cs, rest) => .ok (.string (String.ofList cs), rest)
  | c :: s =>
    if c = '-' ∨ c.isDigit = true then
      match readNumber (c :: s) with
      | .error e => .error e
      | .ok (n, rest) => .ok (.number n, rest)
    else .error ⟨.valueExpected, c :: s, 1⟩

theorem readKeyword_shorter {ws s rest : List Char} {c : Char} {x y : Head}
    (h : readKeyword ws x s = .ok (y, rest)) : rest.length < (c :: s).length := by
  unfold readKeyword at h
  split at h
  · simp at h
  · rename_i hw
    simp only [Except.ok.injEq, Prod.mk.injEq] at h
    rw [← h.2]
    exact Nat.lt_succ_of_le (readWord_le hw)

theorem readHead_shorter {s rest : List Char} {x : Head} (h : readHead s = .ok (x, rest)) :
    rest.length < s.length := by
  unfold readHead at h
  split at h
  · simp at h
  · exact readKeyword_shorter h
  · exact readKeyword_shorter h
  · exact readKeyword_shorter h
  · simp only [Except.ok.injEq, Prod.mk.injEq] at h
    simp [h.2]
  · simp only [Except.ok.injEq, Prod.mk.injEq] at h
    simp [h.2]
  · split at h
    · simp at h
    · rename_i hs
      simp only [Except.ok.injEq, Prod.mk.injEq] at h
      rw [← h.2]
      exact Nat.lt_succ_of_lt (readString_shorter hs)
  · split at h
    · split at h
      · simp at h
      · rename_i hn
        simp only [Except.ok.injEq, Prod.mk.injEq] at h
        rw [← h.2]
        exact readNumber_shorter hn
    · simp at h

/-! ## Readers for one kind of value -/

/-- The fault of a value of another kind than expected.  Its place is behind the value where that
has been read, and in front of the bracket where only that has been seen. -/
def wrongKind (head : Head) (expected : String) (start rest : List Char) : Fault :=
  ⟨.wrongKind head.found expected, if head.isBracket then start else rest, 0⟩

namespace Reader

variable {α : Type}

/-- Read a value that is told by its head alone; `pick` gives the value, or the cause to refuse
it. -/
def ofHead (pick : Head → Except Cause α) : Reader α where
  run s :=
    match readHead (skipBlank s) with
    | .error e => .error e
    | .ok (head, rest) =>
      match pick head with
      | .ok a => .ok (a, rest)
      | .error cause => .error ⟨cause, if head.isBracket then skipBlank s else rest, 0⟩
  shorter {s a rest} h := by
    split at h
    · simp at h
    · rename_i hh
      have h1 := readHead_shorter hh
      have h2 := length_skipBlank_le s
      split at h
      · simp only [Except.ok.injEq, Prod.mk.injEq] at h
        rw [← h.2]
        omega
      · simp at h

/-- Read a value between brackets: `list` reads what follows an opening bracket of an array,
`object` what follows one of an object, each with the closing bracket; where there is none, that
kind of value is not expected. -/
def ofBrackets (expected : String) (list object : Option (Reader α)) : Reader α where
  run s :=
    match readHead (skipBlank s) with
    | .error e => .error e
    | .ok (.openList, rest) =>
      match list with
      | some body => body.run rest
      | none => .error (wrongKind .openList expected (skipBlank s) rest)
    | .ok (.openObject, rest) =>
      match object with
      | some body => body.run rest
      | none => .error (wrongKind .openObject expected (skipBlank s) rest)
    | .ok (head, rest) => .error (wrongKind head expected (skipBlank s) rest)
  shorter {s a rest} h := by
    have h2 := length_skipBlank_le s
    split at h
    · simp at h
    · rename_i hh
      have h1 := readHead_shorter hh
      split at h
      · rename_i body
        have := body.shorter h
        omega
      · simp at h
    · rename_i hh
      have h1 := readHead_shorter hh
      split at h
      · rename_i body
        have := body.shorter h
        omega
      · simp at h
    · simp at h

end Reader

end ParseLens.Json
