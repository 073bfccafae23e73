import ParseLens.Json.Blank
import ParseLens.Json.Fault

set_option autoImplicit false

/-!
# JSON: readers

A reader takes a value off the front of a text, or says what is wrong.  It always takes at least
one character, and this is part of the type: loops over elements and members end because the text
gets shorter, whatever reads the elements.
-/

namespace ParseLens.Json

/-- What reading gives: a value and the text after it, or a fault. -/
abbrev Outcome (α : Type) : Type := Except Fault (α × List Char)

/-- A function that takes a value off the front of a text. -/
structure Reader (α : Type) where
  /-- Read one value. -/
  run : List Char → Outcome α
  /-- A value takes at least one character. -/
  shorter : ∀ {s a rest}, run s = .ok (a, rest) → rest.length < s.length

namespace Reader

variable {α β : Type}

/-- The reader that always fails, for the given cause, at the place where it starts. -/
def refuse (cause : Cause) : Reader α where
  run s := .error ⟨cause, s, 0⟩
  shorter h := by simp at h

/-- Change the value that was read. -/
def map (f : α → β) (r : Reader α) : Reader β where
  run s :=
    match r.run s with
    | .error e => .error e
    | .ok (a, rest) => .ok (f a, rest)
  shorter {s b rest} h := by
    split at h
    · simp at h
    · rename_i a rest' hr
      simp only [Except.ok.injEq, Prod.mk.injEq] at h
      exact h.2 ▸ r.shorter hr

theorem run_map_of_ok {f : α → β} {r : Reader α} {s rest : List Char} {a : α}
    (h : r.run s = .ok (a, rest)) : (r.map f).run s = .ok (f a, rest) := by
  simp [map, h]

theorem exists_of_run_map {f : α → β} {r : Reader α} {s rest : List Char} {b : β}
    (h : (r.map f).run s = .ok (b, rest)) : ∃ a, r.run s = .ok (a, rest) ∧ b = f a := by
  simp only [map] at h
  split at h
  · simp at h
  · rename_i a t hr
    simp only [Except.ok.injEq, Prod.mk.injEq] at h
    obtain ⟨rfl, rfl⟩ := h
    exact ⟨a, hr, rfl⟩

/-- Change the value that was read, or refuse it at the place behind it. -/
def mapOrRefuse (f : α → Except Cause β) (r : Reader α) : Reader β where
  run s :=
    match r.run s with
    | .error e => .error e
    | .ok (a, rest) =>
      match f a with
      | .error cause => .error ⟨cause, rest, 0⟩
      | .ok b => .ok (b, rest)
  shorter {s b rest} h := by
    split at h
    · simp at h
    · rename_i a rest' hr
      split at h
      · simp at h
      · simp only [Except.ok.injEq, Prod.mk.injEq] at h
        exact h.2 ▸ r.shorter hr

theorem run_mapOrRefuse_of_ok {f : α → Except Cause β} {r : Reader α} {s rest : List Char} {a : α}
    {b : β} (h : r.run s = .ok (a, rest)) (hf : f a = .ok b) :
    (r.mapOrRefuse f).run s = .ok (b, rest) := by
  simp [mapOrRefuse, h, hf]

end Reader

end ParseLens.Json
