import ParseLens.Json.Sequence

set_option autoImplicit false

/-!
# JSON: reading any value

Arrays and objects are read with a bound on the brackets that may still open.  The whole of a
document may have `maxDepth` brackets inside each other; one more is refused where it opens.
-/

namespace ParseLens.Json

/-- How many brackets may stand inside each other. -/
def maxDepth : Nat := 127

/-- A reader that is told how many brackets may still open. -/
abbrev Decoder (α : Type) : Type := Nat → Reader α

namespace Decoder

variable {α : Type}

/-- Read what stands inside a bracket that has been read, if that bracket may open. -/
def inside (body : Decoder α) : Decoder α
  | 0 => .refuse .tooDeep
  | room + 1 => body room

@[simp] theorem inside_zero (body : Decoder α) : inside body 0 = .refuse .tooDeep := rfl

@[simp] theorem inside_succ (body : Decoder α) (room : Nat) :
    inside body (room + 1) = body room := rfl

end Decoder

namespace Value

/-- Read a value, where `list` and `object` read what follows an opening bracket. -/
def readerWith (list : Reader (List Value)) (object : Reader (List (String × Value))) :
    Reader Value where
  run s :=
    match readHead (skipBlank s) with
    | .error e => .error e
    | .ok (.null, rest) => .ok (.null, rest)
    | .ok (.bool b, rest) => .ok (.bool b, rest)
    | .ok (.number n, rest) => .ok (.number n, rest)
    | .ok (.string t, rest) => .ok (.string t, rest)
    | .ok (.openList, rest) => (list.map Value.array).run rest
    | .ok (.openObject, rest) => (object.map Value.object).run rest
  shorter {s v rest} h := by
    have h2 := length_skipBlank_le s
    split at h
    · simp at h
    all_goals
      rename_i hh
      have h1 := readHead_shorter hh
    · simp only [Except.ok.injEq, Prod.mk.injEq] at h; rw [← h.2]; omega
    · simp only [Except.ok.injEq, Prod.mk.injEq] at h; rw [← h.2]; omega
    · simp only [Except.ok.injEq, Prod.mk.injEq] at h; rw [← h.2]; omega
    · simp only [Except.ok.injEq, Prod.mk.injEq] at h; rw [← h.2]; omega
    · have := (list.map Value.array).shorter h
      omega
    · have := (object.map Value.object).shorter h
      omega

/-- Read any value, in which at most `room` brackets stand inside each other. -/
def decoder : Decoder Value
  | 0 => readerWith (.refuse .tooDeep) (.refuse .tooDeep)
  | room + 1 => readerWith (decoder room).elements (decoder room).members

end Value

end ParseLens.Json
