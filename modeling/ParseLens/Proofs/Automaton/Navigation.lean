import ParseLens.Proofs.Automaton.Cursor

set_option autoImplicit false

/-!
# Automaton: moving through a recorded parse

However the cursor of a replay was moved, the steps are those it was made of and the cursor is on one
of them, unless there is none.  Where it goes is arithmetic that stops at either end: on the numbers
of the steps, and as well on words of 64 bits.  Reading a step before each move forward reads all
steps in their order, so that walking gives the text that the replay gives at once.

* `Replay.answer_eq` says that words are wide enough, and that the answer to a move is the cursor.
* `Replay.cursor_forward_back` is about moves forward and back.
* `Replay.readAlong_eq` is about walking.
* `Replay.moves_stay_on_steps` is the main statement.
-/

namespace ParseLens.Replay

variable {r : Replay}

/-! ## Any moves -/

theorem OnStep.move (h : r.OnStep) (m : Move) : (r.move m).OnStep := by
  cases m with
  | select index => exact h.select index.toNat
  | forward => exact h.forward
  | back => exact h.back
  | rewind => exact h.select 0
  | last => exact h.select _

@[simp] theorem steps_run (r : Replay) (moves : List Move) : (r.run moves).steps = r.steps := by
  induction moves generalizing r with
  | nil => rfl
  | cons m moves ih => exact (ih (r.move m)).trans (steps_move r m)

theorem OnStep.run (h : r.OnStep) (moves : List Move) : (r.run moves).OnStep := by
  induction moves generalizing r with
  | nil => exact h
  | cons m moves ih => exact ih (h.move m)

theorem run_append (r : Replay) (moves moves' : List Move) :
    r.run (moves ++ moves') = (r.run moves).run moves' :=
  List.foldl_append

/-! ## Arithmetic -/

/-- Beyond the last step all numbers select the last step. -/
theorem select_eq_of_le (r : Replay) {index index' : Nat} (h : r.steps.length - 1 ≤ index)
    (h' : r.steps.length - 1 ≤ index') : r.select index = r.select index' := by
  rw [select, select, Nat.min_eq_right h, Nat.min_eq_right h']

/-- Where no step has a number beyond 64 bits, a move in words of 64 bits is the move, and its answer
is the cursor that it leaves. -/
theorem OnStep.answer_eq (h : r.OnStep) (hlength : r.steps.length ≤ UInt64.size) (m : Move) :
    r.answer m = ((r.move m).cursor, r.move m) := by
  have hmax : r.steps.length - 1 ≤ maxIndex := Nat.sub_le_sub_right hlength 1
  cases m with
  | select index => rfl
  | forward =>
    rw [answer, Replay.move, Replay.forward]
    cases hcursor : r.cursor with
    | none => simp [hcursor]
    | some index =>
      have hlt := h.lt_length index hcursor
      have hmin : min (index + 1) maxIndex = index + 1 ∨ r.steps.length - 1 ≤ index := by omega
      rcases hmin with hfits | hlast
      · simp only [hfits, answerSelect]
      · -- the cursor is on the last step, where every move forward leaves it
        have hsame : r.select (min (index + 1) maxIndex) = r.select (index + 1) :=
          r.select_eq_of_le (by omega) (by omega)
        simp only [answerSelect, hsame]
  | back =>
    rw [answer, Replay.move, Replay.back]
    cases hcursor : r.cursor with
    | none => simp [hcursor]
    | some index => rfl
  | rewind => rfl
  | last =>
    have hsame : r.select maxIndex = r.last := r.select_eq_of_le hmax (Nat.le_refl _)
    simp only [answer, answerSelect, Replay.move, hsame]

theorem OnStep.cursor_forward (h : r.OnStep) {c : Nat} (hc : r.cursor = some c) :
    r.forward.cursor = some (min (c + 1) (r.steps.length - 1)) := by
  have hne : r.steps ≠ [] := fun hnil => by simp [h.none_iff.2 hnil] at hc
  simp only [Replay.forward, hc, cursor_select hne]

theorem OnStep.cursor_back (h : r.OnStep) {c : Nat} (hc : r.cursor = some c) :
    r.back.cursor = some (c - 1) := by
  have hlt := h.lt_length c hc
  have hne : r.steps ≠ [] := List.ne_nil_of_length_pos (Nat.zero_lt_of_lt hlt)
  simp only [Replay.back, hc, cursor_select hne, Option.some.injEq]
  omega

theorem OnStep.cursor_forwards (h : r.OnStep) {c : Nat} (hc : r.cursor = some c) (k : Nat) :
    (r.run (List.replicate k .forward)).cursor = some (min (c + k) (r.steps.length - 1)) := by
  induction k with
  | zero =>
    have hlt := h.lt_length c hc
    rw [List.replicate_zero, Nat.add_zero, Nat.min_eq_left (Nat.le_sub_one_of_lt hlt)]
    exact hc
  | succ k ih =>
    have hforward := (h.run _).cursor_forward ih
    rw [List.replicate_succ', run_append]
    refine hforward.trans ?_
    rw [steps_run, Option.some.injEq]
    omega

theorem OnStep.cursor_backs (h : r.OnStep) {c : Nat} (hc : r.cursor = some c) (j : Nat) :
    (r.run (List.replicate j .back)).cursor = some (c - j) := by
  induction j with
  | zero => exact hc
  | succ j ih =>
    rw [List.replicate_succ', run_append]
    exact (h.run _).cursor_back ih

/-- Moves forward and then back stop at the last step, and after that at the first. -/
theorem OnStep.cursor_forward_back (h : r.OnStep) {c : Nat} (hc : r.cursor = some c) (k j : Nat) :
    (r.run (List.replicate k .forward ++ List.replicate j .back)).cursor =
      some (min (c + k) (r.steps.length - 1) - j) := by
  rw [run_append]
  exact (h.run _).cursor_backs (h.cursor_forwards hc k) j

/-! ## Walking -/

theorem getElem?_views (r : Replay) (index : Nat) : r.views[index]? = r.step? index := by
  rw [views, List.getElem?_mapIdx, step?]

theorem current?_eq_bind (r : Replay) : r.current? = r.cursor.bind r.step? := by
  unfold current?
  cases r.cursor with
  | none => rfl
  | some index => rfl

/-- What is read when `n` times the selected step is read and the cursor then goes forward. -/
def readAlong (r : Replay) : Nat → List (Option StepView)
  | 0 => []
  | n + 1 => r.current? :: r.forward.readAlong n

/-- Walking reads the steps from the selected one on. -/
theorem OnStep.readAlong_eq (h : r.OnStep) {c n : Nat} (hc : 0 < n → r.cursor = some c)
    (hn : c + n ≤ r.steps.length) : r.readAlong n = ((r.views.drop c).take n).map some := by
  induction n generalizing r c with
  | zero => rw [readAlong, List.take_zero, List.map_nil]
  | succ n ih =>
    have hcursor := hc (Nat.succ_pos n)
    have hlength : r.views.length = r.steps.length := List.length_mapIdx
    have hlt : c < r.views.length := by omega
    have hcurrent : r.current? = some r.views[c] := by
      rw [current?_eq_bind, hcursor, Option.bind_some, ← getElem?_views, List.getElem?_eq_getElem hlt]
    -- the last reading leaves the cursor where it is, and nothing is read after it
    have hnext : 0 < n → r.forward.cursor = some (c + 1) := by
      intro hpos
      rw [h.cursor_forward hcursor, Nat.min_eq_left (by omega)]
    have hviews : r.forward.views = r.views := by simp [views]
    have hrest := ih h.forward hnext (by rw [steps_forward]; omega)
    rw [readAlong, hcurrent, hrest, hviews, List.drop_eq_getElem_cons hlt, List.take_succ_cons,
      List.map_cons]

/-- From the first step on, walking reads all steps. -/
theorem OnStep.readAlong_rewind (h : r.OnStep) :
    r.rewind.readAlong r.steps.length = r.views.map some := by
  have hviews : r.rewind.views = r.views := by simp [rewind, views]
  have hcursor : 0 < r.steps.length → r.rewind.cursor = some 0 := by
    intro hpos
    rw [rewind, cursor_select (List.ne_nil_of_length_pos hpos), Nat.zero_min]
  have hall := (h.select 0).readAlong_eq hcursor (by simp)
  have hlength : r.views.length = r.steps.length := List.length_mapIdx
  rw [rewind] at hviews ⊢
  rw [hall, hviews, List.drop_zero, List.take_of_length_le (Nat.le_of_eq hlength)]

/-! ## Everything together -/

/-- However a replay of some steps was moved, its steps are the same, and its cursor is the number of
one of them, or missing if there is none.  Every move answers with the cursor that it leaves, and
words of 64 bits are as good as numbers without a bound: selecting lands on the step with the given
number or else on the last one, and moves forward and back stop at either end.  The selected step is
the one under the cursor, whether it is asked for by its number or taken from all of them.  Walking
from the first step on reads every step once, and what is read makes up the text of the replay. -/
theorem moves_stay_on_steps (steps : List Step) (moves : List Move) :
    let r := (ofSteps steps).run moves
    r.steps = steps ∧
    (steps = [] → r.cursor = none) ∧
    (steps ≠ [] → ∃ c, r.cursor = some c ∧ c < steps.length) ∧
    (steps.length ≤ UInt64.size → ∀ m, r.answer m = ((r.move m).cursor, r.move m)) ∧
    (steps ≠ [] → ∀ index : UInt64,
      (r.move (.select index)).cursor = some (min index.toNat (steps.length - 1))) ∧
    (∀ c k j, r.cursor = some c →
      (r.run (List.replicate k .forward ++ List.replicate j .back)).cursor =
        some (min (c + k) (steps.length - 1) - j)) ∧
    (r.current? = r.cursor.bind r.step? ∧ r.current? = r.cursor.bind fun c => r.views[c]?) ∧
    ((r.move .rewind).readAlong steps.length = r.views.map some ∧
      String.join (((r.move .rewind).readAlong steps.length).map
        fun v => (v.map StepView.text).getD "") = r.text) := by
  intro r
  have hon : r.OnStep := (onStep_ofSteps steps).run moves
  have hsteps : r.steps = steps := steps_run _ moves
  refine ⟨hsteps, fun hnil => hon.none_iff.2 (hsteps.trans hnil), fun hne => ?_, fun hlength m => ?_,
    fun hne index => ?_, fun c k j hc => ?_, ⟨r.current?_eq_bind, ?_⟩, ?_⟩
  · rw [← hsteps] at hne
    obtain ⟨c, -, hc, -, -⟩ := hon.current?_eq hne
    exact ⟨c, hc, hsteps ▸ hon.lt_length c hc⟩
  · exact hon.answer_eq (hsteps.symm ▸ hlength) m
  · rw [← hsteps] at hne ⊢
    exact cursor_select hne index.toNat
  · rw [← hsteps]
    exact hon.cursor_forward_back hc k j
  · simp only [getElem?_views, current?_eq_bind]
  · have hread : (r.move .rewind).readAlong steps.length = r.views.map some :=
      hsteps ▸ hon.readAlong_rewind
    refine ⟨hread, ?_⟩
    rw [hread, List.map_map, text]
    rfl

/-- Three steps, the cursor sent far behind the last one, and then moved beyond both ends. -/
theorem moves_stay_on_steps_of_three :
    let step (state : UInt64) : Step := ⟨[(state, "a")], ["$"], .shift, "7"⟩
    let steps := [step 0, step 1, step 2]
    let r := (ofSteps steps).run [.back, .select 18446744073709551615]
    steps ≠ [] ∧ steps.length ≤ UInt64.size ∧ r.cursor = some 2 ∧
    (∃ c, r.cursor = some c ∧ c < steps.length) ∧
    r.answer .forward = ((r.move .forward).cursor, r.move .forward) ∧
    (r.move (.select 1)).cursor = some 1 ∧
    (r.run (List.replicate 5 .forward ++ List.replicate 4 .back)).cursor = some 0 ∧
    ((ofSteps []).run [.forward, .last]).cursor = none := by
  intro step steps r
  have hne : steps ≠ [] := List.cons_ne_nil _ _
  have hlength : steps.length ≤ UInt64.size := by decide
  have hcursor : r.cursor = some 2 := by decide +kernel
  obtain ⟨-, -, hvalid, hanswer, hselect, hmoves, -⟩ :=
    moves_stay_on_steps steps [.back, .select 18446744073709551615]
  obtain ⟨-, hempty, -⟩ := moves_stay_on_steps [] [.forward, .last]
  exact ⟨hne, hlength, hcursor, hvalid hne, hanswer hlength .forward, hselect hne 1,
    hmoves 2 5 4 hcursor, hempty rfl⟩

end ParseLens.Replay
