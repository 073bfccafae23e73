import Mathlib.Data.List.Basic
import ParseLens.Viewer.Expectation
import ParseLens.Viewer.Sample
import ParseLens.Proofs.Automaton.Navigation

set_option autoImplicit false

/-!
# Viewer: a comparison finds every difference

Two lists are walked along together, which ends with the shorter one; so a list that is only the
front of what was expected would pass, if the lengths were not compared first.  They are: what passes
has the expected length, and then the walk sees every element.

* `DiffersFirst` is the first place where two lists differ, and `Step.Deviates` the first part of a
  step that is not the expected one.
* `firstDifference_eq_none_iff_eq` and `firstDifference_eq_some_iff_differsFirst` are about the walk.
* `Mismatch.comparison_finds_first_difference` is the main statement.
-/

namespace ParseLens

/-- The lists differ at this place, and not before. -/
def DiffersFirst {α : Type} (as bs : List α) (i : Nat) : Prop :=
  as[i]? ≠ bs[i]? ∧ ∀ j < i, as[j]? = bs[j]?

namespace Step

/-- What a comparison looks at: the texts of the stack, of the input and of the action. -/
def shown (step : Step) : String × String × String :=
  (stackText step.stack, " ".intercalate step.input, step.action.text step.value)

/-- What is reported of the step with this number when it is not the expected stack, input and action:
the first of the three that differs. -/
inductive Deviates (index : Nat) (step : Step) : String × String × String → Mismatch → Prop
  | stack {stack input action : String} (hstack : stackText step.stack ≠ stack) :
    Deviates index step (stack, input, action) (.stack index)
  | input {stack input action : String} (hstack : stackText step.stack = stack)
      (hinput : " ".intercalate step.input ≠ input) :
    Deviates index step (stack, input, action) (.input index)
  | action {stack input action : String} (hstack : stackText step.stack = stack)
      (hinput : " ".intercalate step.input = input)
      (haction : step.action.text step.value ≠ action) :
    Deviates index step (stack, input, action) (.action index)

end Step

/-! ## Walking along two lists -/

section Walk

variable {α β : Type} {differ : Nat → α → β → Option Mismatch} {as : List α} {bs : List β}
  {m : Mismatch}

theorem firstDifference_succ (index : Nat) : firstDifference differ (index + 1) as bs =
    firstDifference (fun i => differ (i + 1)) index as bs := by
  induction as generalizing bs index with
  | nil => rfl
  | cons a as ih =>
    cases bs with
    | nil => rfl
    | cons b bs => simp only [firstDifference, ih]

/-- The first elements come first; behind them the walk counts one more. -/
theorem firstDifference_cons (a : α) (b : β) : firstDifference differ 0 (a :: as) (b :: bs) =
    (differ 0 a b).or (firstDifference (fun i => differ (i + 1)) 0 as bs) := by
  rw [firstDifference, firstDifference_succ]
  cases differ 0 a b <;> rfl

theorem firstDifference_mapIdx {α' : Type} (f : Nat → α' → α) (as : List α') :
    firstDifference differ 0 (as.mapIdx f) bs =
      firstDifference (fun i a => differ i (f i a)) 0 as bs := by
  induction as generalizing differ f bs with
  | nil => rfl
  | cons a as ih =>
    cases bs with
    | nil => simp [firstDifference]
    | cons b bs => rw [List.mapIdx_cons, firstDifference_cons, firstDifference_cons, ih]

/-- Nothing is found exactly if the elements agree wherever both lists have one. -/
theorem firstDifference_eq_none_iff : firstDifference differ 0 as bs = none ↔
    ∀ i a b, as[i]? = some a → bs[i]? = some b → differ i a b = none := by
  induction as generalizing bs differ with
  | nil => simp [firstDifference]
  | cons a as ih =>
    cases bs with
    | nil => simp [firstDifference]
    | cons b bs =>
      rw [firstDifference_cons, Option.or_eq_none_iff, ih]
      refine Iff.trans ?_ Nat.and_forall_add_one
      simp

/-- What is found is found at the first place where the elements do not agree. -/
theorem firstDifference_eq_some_iff : firstDifference differ 0 as bs = some m ↔
    ∃ i a b, as[i]? = some a ∧ bs[i]? = some b ∧ differ i a b = some m ∧
      ∀ j < i, ∀ c d, as[j]? = some c → bs[j]? = some d → differ j c d = none := by
  induction as generalizing bs differ with
  | nil => simp [firstDifference]
  | cons a as ih =>
    cases bs with
    | nil => simp [firstDifference]
    | cons b bs =>
      rw [firstDifference_cons, Option.or_eq_some_iff, ih]
      refine Iff.trans ?_ Nat.or_exists_add_one
      simp only [Nat.forall_lt_succ_left]
      refine or_congr (by simp) ⟨?_, ?_⟩
      · rintro ⟨hfirst, i, c, d, hc, hd, hfound, hfront⟩
        exact ⟨i, c, d, hc, hd, hfound, by simpa using hfirst, hfront⟩
      · rintro ⟨i, c, d, hc, hd, hfound, hfirst, hfront⟩
        exact ⟨hfirst a b rfl rfl, i, c, d, hc, hd, hfound, hfront⟩

variable {f : α → β}

/-- At a place that both lists have, the elements agree if what is compared of them is the same. -/
theorem getElem?_map_eq_iff (hlength : as.length = bs.length) (i : Nat) :
    (as.map f)[i]? = bs[i]? ↔ ∀ a b, as[i]? = some a → bs[i]? = some b → f a = b := by
  rw [List.getElem?_map]
  by_cases hi : i < as.length
  · rw [List.getElem?_eq_getElem hi, List.getElem?_eq_getElem (hlength ▸ hi)]
    simp
  · rw [List.getElem?_eq_none (Nat.not_lt.1 hi),
      List.getElem?_eq_none (hlength ▸ Nat.not_lt.1 hi)]
    simp

/-- Where lists of one length differ, both have an element. -/
theorem DiffersFirst.exists_ne {as bs : List α} {i : Nat} (h : DiffersFirst as bs i)
    (hlength : as.length = bs.length) : ∃ a b, as[i]? = some a ∧ bs[i]? = some b ∧ a ≠ b := by
  obtain ⟨hne, -⟩ := h
  have hnot := (getElem?_map_eq_iff (f := id) hlength i).not.1 (by rwa [List.map_id])
  push Not at hnot
  exact hnot

section Lengths

variable (hlength : as.length = bs.length) (hdiffer : ∀ i a b, differ i a b = none ↔ f a = b)
include hlength hdiffer

/-- Of lists of one length, nothing is found exactly if they are equal. -/
theorem firstDifference_eq_none_iff_eq :
    firstDifference differ 0 as bs = none ↔ as.map f = bs := by
  rw [firstDifference_eq_none_iff, List.ext_getElem?_iff]
  simp only [hdiffer, getElem?_map_eq_iff hlength]

/-- Of lists of one length, the first difference is found. -/
theorem firstDifference_eq_some_iff_differsFirst : firstDifference differ 0 as bs = some m ↔
    ∃ i a b, DiffersFirst (as.map f) bs i ∧ as[i]? = some a ∧ bs[i]? = some b ∧
      differ i a b = some m := by
  rw [firstDifference_eq_some_iff]
  simp only [DiffersFirst, ne_eq, hdiffer, getElem?_map_eq_iff hlength]
  constructor
  · rintro ⟨i, a, b, ha, hb, hfound, hfront⟩
    refine ⟨i, a, b, ⟨fun hall => ?_, hfront⟩, ha, hb, hfound⟩
    rw [(hdiffer i a b).2 (hall a b ha hb)] at hfound
    simp at hfound
  · rintro ⟨i, a, b, ⟨-, hfront⟩, ha, hb, hfound⟩
    exact ⟨i, a, b, ha, hb, hfound, hfront⟩

end Lengths

end Walk

/-! ## Rows, items and steps -/

variable {m : Mismatch}

namespace Table

variable {t : Table} {expected : List String}

theorem compareRows_of_length_ne (h : expected.length ≠ t.states.length) :
    t.compareRows expected = some (.rowCount t.states.isEmpty) := by
  simp [compareRows, h.symm]

theorem compareRows_of_length_eq (h : expected.length = t.states.length) :
    t.compareRows expected = firstDifference
      (fun index got want => if got = want then none else some (.row index)) 0
      (t.states.map t.rowText) expected := by
  simp [compareRows, h]

/-- The rows pass exactly if they are the expected ones, none missing and none left over. -/
theorem compareRows_eq_none_iff :
    t.compareRows expected = none ↔ t.states.map t.rowText = expected := by
  by_cases hlength : expected.length = t.states.length
  · have hrows : (t.states.map t.rowText).length = expected.length := by simp [hlength]
    rw [compareRows_of_length_eq hlength, firstDifference_eq_none_iff_eq hrows (f := id) (by simp),
      List.map_id]
  · rw [compareRows_of_length_ne hlength]
    refine iff_of_false (by simp) ?_
    rintro rfl
    simp at hlength

/-- What is reported of as many rows as were expected is the first row that differs. -/
theorem compareRows_eq_some_iff (h : expected.length = t.states.length) :
    t.compareRows expected = some m ↔
      ∃ i, DiffersFirst (t.states.map t.rowText) expected i ∧ m = .row i := by
  have hrows : (t.states.map t.rowText).length = expected.length := by simp [h]
  rw [compareRows_of_length_eq h,
    firstDifference_eq_some_iff_differsFirst hrows (f := id) (by simp), List.map_id]
  constructor
  · rintro ⟨i, a, b, hfirst, -, -, hfound⟩
    split at hfound
    · simp at hfound
    · exact ⟨i, hfirst, (Option.some.inj hfound).symm⟩
  · rintro ⟨i, hfirst, rfl⟩
    obtain ⟨a, b, ha, hb, hne⟩ := hfirst.exists_ne hrows
    exact ⟨i, a, b, hfirst, ha, hb, if_neg hne⟩

end Table

theorem StateView.compareItems_eq_none_iff {v : StateView} {expected : List String} :
    v.compareItems expected = none ↔ v.items.map ItemView.text = expected := by
  simp [compareItems]

theorem StateView.compareItems_eq_some_iff {v : StateView} {expected : List String} :
    v.compareItems expected = some m ↔
      v.items.map ItemView.text ≠ expected ∧ m = .items v.state := by
  simp [compareItems, eq_comm]

namespace Step

variable (index : Nat) (step : Step)

theorem compare_ofStep (stack input action : String) :
    (StepView.ofStep index step).compare stack input action =
      if stackText step.stack ≠ stack then some (.stack index)
      else if " ".intercalate step.input ≠ input then some (.input index)
      else if step.action.text step.value ≠ action then some (.action index)
      else none := rfl

theorem compare_eq_none_iff (want : String × String × String) :
    (StepView.ofStep index step).compare want.1 want.2.1 want.2.2 = none ↔ step.shown = want := by
  obtain ⟨stack, input, action⟩ := want
  rw [compare_ofStep, shown, Prod.mk.injEq, Prod.mk.injEq]
  split_ifs with hstack hinput haction
  · simp [hstack]
  · simp [hinput]
  · simp [haction]
  · simp [not_not.1 hstack, not_not.1 hinput, not_not.1 haction]

theorem compare_eq_some_iff (want : String × String × String) :
    (StepView.ofStep index step).compare want.1 want.2.1 want.2.2 = some m ↔
      step.Deviates index want m := by
  obtain ⟨stack, input, action⟩ := want
  rw [compare_ofStep]
  constructor
  · intro h
    split at h
    · rename_i hstack
      obtain rfl := Option.some.inj h
      exact .stack hstack
    · rename_i hstack
      split at h
      · rename_i hinput
        obtain rfl := Option.some.inj h
        exact .input (not_not.1 hstack) hinput
      · rename_i hinput
        split at h
        · rename_i haction
          obtain rfl := Option.some.inj h
          exact .action (not_not.1 hstack) (not_not.1 hinput) haction
        · simp at h
  · intro h
    cases h with
    | stack hstack => rw [if_pos hstack]
    | input hstack hinput => rw [if_neg (not_not.2 hstack), if_pos hinput]
    | action hstack hinput haction =>
      rw [if_neg (not_not.2 hstack), if_neg (not_not.2 hinput), if_pos haction]

end Step

namespace Replay

variable {r : Replay} {expected : List (String × String × String)}

theorem compareSteps_of_length_ne (h : expected.length ≠ r.length) :
    r.compareSteps expected = some .stepCount := by
  simp [compareSteps, h.symm]

theorem compareSteps_of_length_eq (h : expected.length = r.length) :
    r.compareSteps expected = firstDifference (fun index (step : Step) want =>
      (StepView.ofStep index step).compare want.1 want.2.1 want.2.2) 0 r.steps expected := by
  simp [compareSteps, h, views, firstDifference_mapIdx]

/-- The steps pass exactly if they are the expected ones, none missing and none left over. -/
theorem compareSteps_eq_none_iff :
    r.compareSteps expected = none ↔ r.steps.map Step.shown = expected := by
  by_cases hlength : expected.length = r.length
  · have hsteps : r.steps.length = expected.length := hlength.symm
    rw [compareSteps_of_length_eq hlength]
    exact firstDifference_eq_none_iff_eq hsteps Step.compare_eq_none_iff
  · rw [compareSteps_of_length_ne hlength]
    refine iff_of_false (by simp) ?_
    rintro rfl
    simp [length] at hlength

/-- What is reported of as many steps as were expected is the first step that differs, and of it the
first part that does. -/
theorem compareSteps_eq_some_iff (h : expected.length = r.length) :
    r.compareSteps expected = some m ↔
      ∃ i step want, DiffersFirst (r.steps.map Step.shown) expected i ∧
        r.steps[i]? = some step ∧ expected[i]? = some want ∧ step.Deviates i want m := by
  have hsteps : r.steps.length = expected.length := h.symm
  rw [compareSteps_of_length_eq h,
    firstDifference_eq_some_iff_differsFirst hsteps Step.compare_eq_none_iff]
  simp only [Step.compare_eq_some_iff]

end Replay

/-! ## Everything together -/

/-- A list is made of another one by a function exactly if it has its length and each element in its
place. -/
theorem map_eq_iff_getElem? {α β : Type} {as : List α} {bs : List β} {f : α → β} :
    as.map f = bs ↔
      bs.length = as.length ∧ ∀ (i : Nat) (a : α), as[i]? = some a → bs[i]? = some (f a) := by
  constructor
  · rintro rfl
    exact ⟨List.length_map f, fun i a ha => by rw [List.getElem?_map, ha, Option.map_some]⟩
  · rintro ⟨hlength, h⟩
    rw [List.ext_getElem?_iff]
    intro i
    rw [getElem?_map_eq_iff hlength.symm]
    intro a b ha hb
    exact Option.some.inj ((h i a ha).symm.trans hb)

namespace Mismatch

/-- A comparison passes what was expected and nothing else, however long the lists are: of a table one
text for each state, which is the state and the texts of its row with bars between them; of a state
the texts of its items in their order; of a parse one triple for each step, which is its stack, its
input and its action.  A list of another length is reported for its length, whatever it starts with.
Of a list of the right length the least place that differs is reported, and of a step the first part
that does; the label says which. -/
theorem comparison_finds_first_difference :
    (∀ (t : Table) (expected : List String),
      (t.compareRows expected = none ↔ expected.length = t.states.length ∧
        ∀ (i : Nat) (state : StateId), t.states[i]? = some state →
          expected[i]? = some (" | ".intercalate (toString state.toNat :: t.row state))) ∧
      (expected.length ≠ t.states.length →
        t.compareRows expected = some (.rowCount t.states.isEmpty)) ∧
      (expected.length = t.states.length → ∀ m, t.compareRows expected = some m ↔
        ∃ i, DiffersFirst (t.states.map t.rowText) expected i ∧ m = .row i)) ∧
    (∀ (v : StateView) (expected : List String),
      (v.compareItems expected = none ↔ expected = v.items.map ItemView.text) ∧
      ∀ m, v.compareItems expected = some m ↔
        expected ≠ v.items.map ItemView.text ∧ m = .items v.state) ∧
    (∀ (r : Replay) (expected : List (String × String × String)),
      (r.compareSteps expected = none ↔ expected.length = r.length ∧
        ∀ (i : Nat) (step : Step), r.steps[i]? = some step → expected[i]? =
          some (stackText step.stack, " ".intercalate step.input, step.action.text step.value)) ∧
      (expected.length ≠ r.length → r.compareSteps expected = some .stepCount) ∧
      (expected.length = r.length → ∀ m, r.compareSteps expected = some m ↔
        ∃ i step want, DiffersFirst (r.steps.map Step.shown) expected i ∧
          r.steps[i]? = some step ∧ expected[i]? = some want ∧ step.Deviates i want m)) ∧
    ∀ i : Nat, (row i).label = "row " ++ toString i ∧
      (stack i).label = "stack at step " ++ toString i ∧
      (input i).label = "input at step " ++ toString i ∧
      (action i).label = "action at step " ++ toString i ∧
      ∀ noRows, (rowCount noRows).label =
        if noRows then "row count; got []" else "row count; got [" := by
  refine ⟨fun t expected => ⟨?_, Table.compareRows_of_length_ne, fun h m => ?_⟩,
    fun v expected => ⟨?_, fun m => ?_⟩,
    fun r expected => ⟨?_, Replay.compareSteps_of_length_ne, fun h m => ?_⟩, fun i => ?_⟩
  · rw [Table.compareRows_eq_none_iff, map_eq_iff_getElem?]
    rfl
  · exact Table.compareRows_eq_some_iff h
  · rw [StateView.compareItems_eq_none_iff, eq_comm]
  · rw [StateView.compareItems_eq_some_iff, ne_comm]
  · rw [Replay.compareSteps_eq_none_iff, map_eq_iff_getElem?]
    rfl
  · exact Replay.compareSteps_eq_some_iff h
  · refine ⟨rfl, rfl, rfl, rfl, fun noRows => ?_⟩
    cases noRows <;> rfl

/-- The front of a recorded parse is reported for its length.  Of two steps that are not the expected
ones the first is reported, and of its input and action the input.  It is the same with the rows of a
table. -/
theorem comparison_finds_first_difference_of_wrong_step :
    let r := Replay.ofSteps (Sample.steps.take 3)
    let front := [("0 ", "a b b $", "shift 3"), ("0 3a ", "b b $", "shift 4")]
    let wrong := [("0 ", "a b b $", "shift 3"), ("0 3a ", "b b", "accept"), ("0 ", "b $", "reduce 3")]
    let t := Table.ofEntries (.ofList [("0_a", ⟨.shift, "3"⟩), ("2_S", ⟨.goto, "1"⟩)])
      (.ofGrammar Sample.grammar)
    (front.length ≠ r.length ∧ r.compareSteps front = some .stepCount) ∧
    (wrong.length = r.length ∧ r.compareSteps wrong = some (.input 1)) ∧
    (["0 | shift 3 | - | -"].length ≠ t.states.length ∧
      t.compareRows ["0 | shift 3 | - | -"] = some (.rowCount false)) ∧
    (["0 | shift 3 | - | -", "2"].length = t.states.length ∧
      t.compareRows ["0 | shift 3 | - | -", "2"] = some (.row 1)) := by
  intro r front wrong t
  have hstates : t.states = [0, 2] := by decide +kernel
  have hrows : t.states.map t.rowText = ["0 | shift 3 | - | -", "2 | - | - | goto 1"] := by
    decide +kernel
  have hshown : r.steps.map Step.shown = [("0 ", "a b b $", "shift 3"),
      ("0 3a ", "b b $", "shift 4"), ("0 3a 4b ", "b $", "reduce 3")] := by decide +kernel
  obtain ⟨htable, -, hreplay, -⟩ := comparison_finds_first_difference
  obtain ⟨-, hfewer, -⟩ := hreplay r front
  obtain ⟨-, -, hsteps⟩ := hreplay r wrong
  obtain ⟨-, hfewerRows, -⟩ := htable t ["0 | shift 3 | - | -"]
  obtain ⟨-, -, hrow⟩ := htable t ["0 | shift 3 | - | -", "2"]
  have hfront : front.length ≠ r.length := by decide
  have hwrong : wrong.length = r.length := by decide
  have hone : ["0 | shift 3 | - | -"].length ≠ t.states.length := by rw [hstates]; decide
  have htwo : ["0 | shift 3 | - | -", "2"].length = t.states.length := by rw [hstates]; decide
  refine ⟨⟨hfront, hfewer hfront⟩, ⟨hwrong, (hsteps hwrong _).2 ?_⟩, ⟨hone, ?_⟩,
    ⟨htwo, (hrow htwo _).2 ?_⟩⟩
  · refine ⟨1, _, _, ⟨?_, ?_⟩, rfl, rfl, .input (by decide +kernel) (by decide +kernel)⟩
    · rw [hshown]
      decide
    · rw [hshown]
      decide
  · rw [hfewerRows hone, hstates]
    rfl
  · refine ⟨1, ⟨?_, ?_⟩, rfl⟩
    · rw [hrows]
      decide
    · rw [hrows]
      decide

end Mismatch

end ParseLens
