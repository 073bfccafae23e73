import ParseLens.Proofs.Automaton.Cursor
import ParseLens.Proofs.Viewer.Submission

set_option autoImplicit false

/-!
# Viewer: the parse on screen

The result and the replay are fields of their own, and the steps of the replay are a second copy of
those of the result.  Nothing but showing an answer changes either copy, and that changes both at
once and starts the replay from its first step; so the simulation never shows a step of one answer
against the length of another.

* `ViewState.Replaying` is the invariant, with a lemma for each way to change a viewer.
* `ViewState.complete_frame` says which fields each way to settle a request may touch.
* `ResultView.text_simulation` says which step of how many the simulation shows.
* `Session.AppliedOrKept` says what doing anything means for the parse on screen.
-/

namespace ParseLens

/-! ## The simulation -/

/-- The simulation shows a step and its number, which is counted from one, or that there is none. -/
theorem ResultView.text_simulation (view : ResultView) {replay : Replay} (h : replay.OnStep) :
    (replay.steps = [] ∧ view.text .simulation replay = "No parsing steps.\n") ∨
    ∃ i step, 1 ≤ i ∧ i ≤ replay.steps.length ∧ replay.cursor = some (i - 1) ∧
      replay.steps[i - 1]? = some step ∧
      view.text .simulation replay = (StepView.ofStep (i - 1) step).text ++
        "(step " ++ toString i ++ " of " ++ toString replay.steps.length ++ ")\n" := by
  by_cases hsteps : replay.steps = []
  · refine .inl ⟨hsteps, ?_⟩
    simp only [text, h.current?_eq_none hsteps]
  · obtain ⟨index, step, hcursor, hstep, hcurrent⟩ := h.current?_eq hsteps
    refine .inr ⟨index + 1, step, Nat.le_add_left 1 index, h.lt_length index hcursor, hcursor,
      hstep, ?_⟩
    simp only [text, hcurrent]
    rfl

namespace ViewState

/-! ## The invariant -/

/-- The steps on screen are those of the result, if there is one, and the cursor is on one of them,
if there is one. -/
structure Replaying (v : ViewState) : Prop where
  steps : v.replay.steps = (v.result.map fun view => view.response.steps).getD []
  onStep : v.replay.OnStep

theorem replaying_new (log : Log) : (new log).Replaying := ⟨rfl, Replay.onStep_ofSteps []⟩

/-- Showing an answer starts anew. -/
theorem replaying_showAnswer (v : ViewState) (t : Ticket) (r : Response) (took : String) :
    (v.showAnswer t r took).Replaying := ⟨rfl, Replay.onStep_ofSteps r.steps⟩

variable {v v' : ViewState}

/-- What touches neither the result nor the replay changes none of it. -/
theorem Replaying.of_eq (h : v.Replaying) (hresult : v'.result = v.result)
    (hreplay : v'.replay = v.replay) : v'.Replaying :=
  ⟨by rw [hresult, hreplay]; exact h.steps, by rw [hreplay]; exact h.onStep⟩

/-- Nor does what only moves the cursor. -/
theorem Replaying.of_steps_eq (h : v.Replaying) {replay : Replay}
    (hsteps : replay.steps = v.replay.steps) (honStep : replay.OnStep) :
    Replaying { v with replay } :=
  ⟨hsteps.trans h.steps, honStep⟩

/-- What each way to settle a request may touch.  One that is dropped goes to the log.  A failure
also sets the problem and the number of the last settled request.  An answer brings its own result
and its own steps.  None selects another view. -/
theorem complete_frame (v : ViewState) (t : Ticket) (outcome : Except Problem Response)
    (took : String) :
    let completion := (v.complete t outcome took).1
    let v' := (v.complete t outcome took).2
    (completion = .stale → ∃ log, v' = { v with log }) ∧
    (∀ p, completion = .failed p →
      ∃ settled log, v' = { v with error := some p, settled, log }) ∧
    (completion = .applied → ∃ r, outcome = .ok r ∧
      v'.result = some (.ofResponse r t.vocabulary) ∧ v'.replay.steps = r.steps ∧
      v'.replay.cursor = if r.steps = [] then none else some 0) ∧
    v'.tab = v.tab := by
  obtain ⟨_, log, _, _, h⟩ | ⟨r, rfl, _, h⟩ | ⟨p, rfl, _, h⟩ := v.complete_cases t outcome took
  · rw [h]
    exact ⟨fun _ => ⟨log, rfl⟩, fun _ hp => by simp at hp, fun hr => by simp at hr, rfl⟩
  · rw [h]
    refine ⟨fun hs => by simp at hs, fun _ hp => by simp at hp, fun _ => ?_, rfl⟩
    exact ⟨r, rfl, rfl, rfl, Replay.cursor_ofSteps r.steps⟩
  · rw [h]
    refine ⟨fun hs => by simp at hs, fun q hq => ?_, fun hr => by simp at hr, rfl⟩
    obtain rfl := Completion.failed.inj hq
    exact ⟨_, _, rfl⟩

theorem Replaying.complete (h : v.Replaying) (t : Ticket)
    (outcome : Except Problem Response) (took : String) :
    (v.complete t outcome took).2.Replaying := by
  obtain ⟨_, _, _, _, hc⟩ | ⟨r, _, _, hc⟩ | ⟨p, _, _, hc⟩ := v.complete_cases t outcome took
  · rw [hc]
    exact h.of_eq rfl rfl
  · rw [hc]
    exact v.replaying_showAnswer t r took
  · rw [hc]
    exact h.of_eq rfl rfl

/-- Submitting selects no other view. -/
theorem tab_submit {σ : Type} (v : ViewState) (c : Client) (backend : Backend σ) (e : Editor)
    (b : σ) (took : String) : (v.submit c backend e b took).viewer.tab = v.tab := by
  obtain ⟨p, h⟩ | ⟨g, _, h⟩ := e.request_cases
  · rw [submit_of_error h]
  · rw [submit_of_ok h]
    exact (complete_frame _ _ _ took).2.2.2

end ViewState

namespace Session

open ViewState

/-- Every move leaves the steps on screen those of the result. -/
theorem replaying_move {s : Session} (h : s.viewer.Replaying) (m : Move) :
    (s.move m).viewer.Replaying := by
  cases m with
  | request r => exact h.of_eq rfl rfl
  | settle index outcome took =>
    simp only [move]
    split
    · exact h
    · exact h.complete _ outcome took
  | selectTab tab => exact h.of_eq rfl rfl
  | selectStep index => exact h.of_steps_eq (Replay.steps_select _ index) (h.onStep.select index)
  | stepForward => exact h.of_steps_eq (Replay.steps_forward _) h.onStep.forward
  | stepBack => exact h.of_steps_eq (Replay.steps_back _) h.onStep.back
  | copy => exact h.of_eq rfl rfl

variable {σ : Type}

theorem replaying_run (log : Log) (acts : List (Act σ)) :
    ((start log).run acts).viewer.Replaying := by
  obtain ⟨moves, hrun⟩ := (start log).exists_play_eq_run acts
  rw [hrun]
  exact play_invariant (P := fun s => s.viewer.Replaying) (fun _ m h => replaying_move h m)
    (replaying_new log) moves

/-! ## What changes the parse on screen -/

/-- A session goes on with an answer that is shown from its first step, or with the result and the
steps as they are. -/
def AppliedOrKept (s s' : Session) : Prop :=
  (∃ x, s'.settlements = s.settlements ++ [x] ∧ x.completion = .applied ∧
    s'.viewer.replay.cursor = if s'.viewer.replay.steps = [] then none else some 0) ∨
  (s'.viewer.result = s.viewer.result ∧ s'.viewer.replay.steps = s.viewer.replay.steps)

theorem appliedOrKept_handIn (s : Session) (t : Ticket) (outcome : Except Problem Response)
    (took : String) : s.AppliedOrKept (s.handIn t outcome took) := by
  obtain ⟨_, _, _, _, hc⟩ | ⟨r, _, _, hc⟩ | ⟨p, _, _, hc⟩ := s.viewer.complete_cases t outcome took
  · refine .inr ?_
    rw [viewer_handIn, hc]
    exact ⟨rfl, rfl⟩
  · refine .inl ⟨_, settlements_handIn s t outcome took, ?_, ?_⟩
    · rw [hc]
    · rw [viewer_handIn, hc]
      exact Replay.cursor_ofSteps r.steps
  · refine .inr ?_
    rw [viewer_handIn, hc]
    exact ⟨rfl, rfl⟩

theorem appliedOrKept_move (s : Session) (m : Move) : s.AppliedOrKept (s.move m) := by
  cases m with
  | settle index outcome took =>
    simp only [move]
    split
    · exact .inr ⟨rfl, rfl⟩
    · exact s.appliedOrKept_handIn _ outcome took
  | selectStep index => exact .inr ⟨rfl, Replay.steps_select _ index⟩
  | stepForward => exact .inr ⟨rfl, Replay.steps_forward _⟩
  | stepBack => exact .inr ⟨rfl, Replay.steps_back _⟩
  | request r => exact .inr ⟨rfl, rfl⟩
  | selectTab tab => exact .inr ⟨rfl, rfl⟩
  | copy => exact .inr ⟨rfl, rfl⟩

theorem appliedOrKept_act (s : Session) (a : Act σ) : s.AppliedOrKept (s.act a) := by
  cases a with
  | move m => exact s.appliedOrKept_move m
  | submit c backend e b took =>
    obtain ⟨p, h⟩ | ⟨g, _, h⟩ := e.request_cases
    · have hsame : s.act (.submit c backend e b took) = s := submit_of_error h c backend b took
      rw [hsame]
      exact .inr ⟨rfl, rfl⟩
    · have hsubmit : s.act (.submit c backend e b took) = _ := submit_of_ok h c backend b took
      rw [hsubmit]
      exact (s.begin ⟨g, e.input⟩).appliedOrKept_handIn _ _ took

/-- After every run without a result there is nothing to replay.  With a result its steps are
replayed, the cursor is on one of them unless there are none, and the simulation shows that step as
one of so many.  Doing anything leaves the result and the steps as they are or shows an answer from
its first step; what settling a request may touch depends on what becomes of it, and neither that
nor a submission selects another view. -/
theorem simulation_follows_result (log : Log) (acts : List (Act σ)) :
    let s := (start log).run acts
    let v := s.viewer
    (v.result = none → v.replay = ⟨[], none⟩) ∧
    (∀ view, v.result = some view →
      let steps := view.response.steps
      v.replay.steps = steps ∧ (v.replay.cursor = none ↔ steps = []) ∧
      (∀ index, v.replay.cursor = some index → index < steps.length) ∧
      ((steps = [] ∧ view.text .simulation v.replay = "No parsing steps.\n") ∨
        ∃ i step, 1 ≤ i ∧ i ≤ steps.length ∧ v.replay.cursor = some (i - 1) ∧
          steps[i - 1]? = some step ∧
          view.text .simulation v.replay = (StepView.ofStep (i - 1) step).text ++
            "(step " ++ toString i ++ " of " ++ toString steps.length ++ ")\n")) ∧
    (∀ a : Act σ, s.AppliedOrKept (s.act a)) ∧
    (∀ t outcome took,
      let completion := (v.complete t outcome took).1
      let v' := (v.complete t outcome took).2
      (completion = .stale → ∃ log, v' = { v with log }) ∧
      (∀ p, completion = .failed p →
        ∃ settled log, v' = { v with error := some p, settled, log }) ∧
      (completion = .applied → ∃ r, outcome = .ok r ∧
        v'.result = some (.ofResponse r t.vocabulary) ∧ v'.replay.steps = r.steps ∧
        v'.replay.cursor = if r.steps = [] then none else some 0) ∧
      v'.tab = v.tab) ∧
    ∀ (c : Client) (backend : Backend σ) e b took,
      (v.submit c backend e b took).viewer.tab = v.tab := by
  intro s v
  have h : v.Replaying := replaying_run log acts
  refine ⟨?_, ?_, s.appliedOrKept_act, v.complete_frame, v.tab_submit⟩
  · intro hnone
    have hsteps : v.replay.steps = [] := by rw [h.steps, hnone]; rfl
    exact h.onStep.eq_of_steps_eq_nil hsteps
  · intro view hview steps
    have hsteps : v.replay.steps = steps := by rw [h.steps, hview]; rfl
    rw [← hsteps]
    exact ⟨rfl, h.onStep.none_iff, h.onStep.lt_length, view.text_simulation h.onStep⟩

/-- The second of two requests is answered with a parse of two steps, and one goes on three times:
the second step is shown.  The first request comes back after that and is dropped. -/
theorem simulation_follows_result_of_two_steps :
    let r : ParseRequest := ⟨.initial, "b"⟩
    let answer : Response := ⟨[], .empty,
      [⟨[(0, "")], ["b", "$"], .shift, "4"⟩, ⟨[(0, ""), (4, "b")], ["$"], .reduce, "3"⟩]⟩
    let acts : List (Act Script) := [.move (.request r), .move (.request r),
      .move (.settle 1 (.ok answer) ""), .move .stepForward, .move .stepForward,
      .move .stepForward]
    let v := ((start .quiet).run acts).viewer
    let view := ResultView.ofResponse answer (.ofGrammar .initial)
    let late := v.complete ⟨1, .ofGrammar .initial⟩ (.ok answer) "9ms"
    v.result = some view ∧ v.replay.steps = answer.steps ∧ v.replay.cursor = some 1 ∧
      1 < answer.steps.length ∧ late.1 = .stale ∧ ∃ log, late.2 = { v with log } := by
  intro r answer acts v view late
  have hresult : v.result = some view := rfl
  have hcursor : v.replay.cursor = some 1 := rfl
  have hstale : late.1 = .stale := rfl
  obtain ⟨-, hshown, -, hframe, -⟩ := simulation_follows_result .quiet acts
  obtain ⟨hsteps, -, hlt, -⟩ := hshown view hresult
  exact ⟨hresult, hsteps, hcursor, hlt 1 hcursor, hstale, (hframe _ _ _).1 hstale⟩

end Session

end ParseLens
