import ParseLens.Automaton.Trace

set_option autoImplicit false

/-!
# Automaton: the cursor of a replay

A replay starts on its first step, and moving its cursor never leaves the steps: the cursor is
missing exactly when there is no step, and it is the number of a step otherwise.  This is
`Replay.OnStep`, which every way to move the cursor preserves.
-/

namespace ParseLens.Replay

variable {r : Replay}

/-- The cursor is on a step, unless there is none. -/
structure OnStep (r : Replay) : Prop where
  none_iff : r.cursor = none ↔ r.steps = []
  lt_length : ∀ index, r.cursor = some index → index < r.steps.length

theorem cursor_ofSteps (steps : List Step) :
    (ofSteps steps).cursor = if steps = [] then none else some 0 := by
  cases steps with
  | nil => rfl
  | cons step steps => rfl

theorem onStep_ofSteps (steps : List Step) : (ofSteps steps).OnStep := by
  cases steps with
  | nil => exact ⟨by simp [ofSteps], by simp [ofSteps]⟩
  | cons step steps => exact ⟨by simp [ofSteps], by simp [ofSteps]⟩

/-- A replay of no steps has nothing selected. -/
theorem OnStep.eq_of_steps_eq_nil (h : r.OnStep) (hsteps : r.steps = []) : r = ofSteps [] := by
  obtain ⟨steps, cursor⟩ := r
  obtain rfl : steps = [] := hsteps
  obtain rfl : cursor = none := h.none_iff.2 rfl
  rfl

/-- Selecting a step, however large its number, lands on a step. -/
theorem OnStep.select (h : r.OnStep) (index : Nat) : (r.select index).OnStep := by
  by_cases hnil : r.steps = []
  · have hsame : r.select index = r := by simp [Replay.select, hnil]
    rw [hsame]
    exact h
  · have hcursor := cursor_select hnil index
    have hpos : 0 < r.steps.length := List.length_pos_iff.2 hnil
    refine ⟨?_, ?_⟩
    · simp [hcursor, hnil]
    · intro i hi
      rw [hcursor] at hi
      rw [steps_select, ← Option.some.inj hi]
      omega

theorem OnStep.forward (h : r.OnStep) : r.forward.OnStep := by
  unfold Replay.forward
  split
  · exact h
  · exact h.select _

theorem OnStep.back (h : r.OnStep) : r.back.OnStep := by
  unfold Replay.back
  split
  · exact h
  · exact h.select _

/-- What is selected is the step under the cursor. -/
theorem OnStep.current?_eq (h : r.OnStep) (hsteps : r.steps ≠ []) :
    ∃ index step, r.cursor = some index ∧ r.steps[index]? = some step ∧
      r.current? = some (.ofStep index step) := by
  cases hcursor : r.cursor with
  | none => exact absurd (h.none_iff.1 hcursor) hsteps
  | some index =>
    have hget := List.getElem?_eq_getElem (h.lt_length index hcursor)
    exact ⟨index, _, rfl, hget, by simp [current?, hcursor, step?, hget]⟩

theorem OnStep.current?_eq_none (h : r.OnStep) (hsteps : r.steps = []) : r.current? = none := by
  simp [current?, h.none_iff.2 hsteps]

end ParseLens.Replay
