import ParseLens.Proofs.CommandLine.Agreement
import ParseLens.Proofs.Exchange.Rereading
import ParseLens.Viewer.State

set_option autoImplicit false

/-!
# Command line: what is printed is what a viewer shows

A recorded answer can be printed by a command, and it can be handed to a viewer.  The command
prepares the answer, positions a replay of its own and prints several views in a row.  The viewer
prepares the answer when its request is settled, keeps the replay between moves and shows one view
at a time.  Both lead to the same text.

* `ViewState.text_answered` says what a viewer shows of one answer, in the words of the command.
* `run_render` says that the command goes to the prepared answer, and `renderViews_append` that it
  prints views one behind the other.
* `render_agrees_with_viewer` is the main statement, about commands; `parse_showArguments` says
  which arguments they have.
-/

namespace ParseLens

theorem Replay.text_ofSteps (steps : List Step) : (ofSteps steps).text =
    String.join (steps.mapIdx fun index step => (StepView.ofStep index step).text) := by
  simp only [text, views, ofSteps, List.mapIdx_eq_zipIdx_map, List.map_map]
  rfl

/-! ## One answer in a viewer -/

namespace ViewState

/-- A new viewer in which one request was made and answered, and then a view was selected. -/
def answered (log : Log) (request : ParseRequest) (r : Response) (took : String) (tab : Tab) :
    ViewState :=
  let (ticket, v) := (new log).beginRequest request
  (v.complete ticket (.ok r) took).2.selectTab tab

variable (log : Log) (request : ParseRequest) (r : Response) (took : String) (tab : Tab)

/-- The first answer is never dropped. -/
theorem answered_eq_showAnswer : answered log request r took tab =
    (((new log).beginRequest request).2.showAnswer ⟨1, .ofGrammar request.grammar⟩ r took).selectTab
      tab := rfl

/-- A view has the same text in a viewer as it has when it is printed for one step. -/
theorem text_answered : (answered log request r took tab).text =
    let view := ResultView.ofResponse r (.ofGrammar request.grammar)
    CommandLine.viewText view view.replay true tab := by
  simp [answered_eq_showAnswer, showAnswer, selectTab, text, CommandLine.viewText]

/-- So it has with another step selected. -/
theorem text_selectStep_answered (index : Nat) :
    ((answered log request r took tab).selectStep index).text =
      let view := ResultView.ofResponse r (.ofGrammar request.grammar)
      CommandLine.viewText view (view.replay.select index) true tab := by
  simp [answered_eq_showAnswer, showAnswer, selectTab, selectStep, text, CommandLine.viewText]

end ViewState

namespace CommandLine

/-! ## Printed views -/

/-- Only the simulation depends on the selected step, and on whether all steps are printed. -/
theorem viewText_eq_of_ne_simulation (view : ResultView) {tab : Tab} (h : tab ≠ .simulation)
    (replay replay' : Replay) (oneStep oneStep' : Bool) :
    viewText view replay oneStep tab = viewText view replay' oneStep' tab := by
  cases tab with
  | sets => rfl
  | table => rfl
  | simulation => exact absurd rfl h

section Views

variable (log : Log) (view : ResultView)

/-- Views are printed one behind the other, after the same warnings. -/
theorem renderViews_append (tabs tabs' : List Tab) (step : Option UInt64) :
    renderViews log view (tabs ++ tabs') step =
      { renderViews log view tabs step with
        stdout := (renderViews log view tabs step).stdout ++
          (renderViews log view tabs' step).stdout } := by
  cases step with
  | none => simp [renderViews, Output.success, String.join_append]
  | some n =>
    by_cases hn : n = 0
    · simp [renderViews, hn, Output.failure]
    · simp [renderViews, hn, Output.success, String.join_append]

theorem stdout_renderViews_none (tab : Tab) :
    (renderViews log view [tab] none).stdout = viewText view view.replay false tab := by
  simp [renderViews, Output.success]

theorem stdout_renderViews_some (tab : Tab) {n : UInt64} (hn : n ≠ 0) :
    (renderViews log view [tab] (some n)).stdout =
      viewText view (view.replay.select (n.toNat - 1)) true tab := by
  simp [renderViews, Output.success, hn]

/-- Only the number of a step can be refused. -/
theorem code_renderViews_eq_zero_iff (tabs : List Tab) (step : Option UInt64) :
    (renderViews log view tabs step).code = 0 ↔ step ≠ some 0 := by
  cases step with
  | none => simp [renderViews, Output.success]
  | some n =>
    by_cases hn : n = 0
    · simp [renderViews, hn, Output.failure]
    · simp [renderViews, hn, Output.success]

end Views

/-! ## Arguments -/

section Arguments

/-- The arguments that ask for a view of an answer, perhaps for one step. -/
def showArguments (response grammar view : String) (step : Option UInt64) : List String :=
  ["show", response, "--grammar", grammar, "--view", view] ++
    (step.map fun n => ["--step", String.ofList (Nat.toDigits 10 n.toNat)]).getD []

variable {specs : List OptionSpec}

theorem readArguments_nil : readArguments specs [] = some ([], []) := by
  rw [readArguments]

theorem readArguments_file {arg : String} (h : classify arg = .plain) (rest : List String) :
    readArguments specs (arg :: rest) =
      (readArguments specs rest).map fun r => (r.1, arg :: r.2) := by
  rw [readArguments]
  simp only [h]

/-- An option takes the next argument for its value. -/
theorem readArguments_option {arg name value : String} {spec : OptionSpec}
    (harg : classify arg = .long name none)
    (hspec : findOption specs (.long name none) = some (spec, none))
    (hvalued : spec.valued = true) (hvalue : classify value = .plain) (rest : List String) :
    readArguments specs (arg :: value :: rest) =
      (readArguments specs rest).map fun r => ((spec.long, value) :: r.1, r.2) := by
  have hread : readValue spec none (value :: rest) = some (value, rest) := by
    simp [readValue, hvalued, hvalue]
  rw [readArguments]
  simp only [harg, hspec]
  split <;> simp_all

/-- A number is not taken for an option. -/
theorem classify_toDigits (n : Nat) : classify (String.ofList (Nat.toDigits 10 n)) = .plain := by
  have hdash : '-' ∉ Nat.toDigits 10 n := Text.not_mem_toDigits (by decide) n
  unfold classify
  rw [String.toList_ofList]
  split <;> simp_all

/-- Nor is the name of a view. -/
theorem classify_of_tabsNamed {name : String} {tabs : List Tab} (h : tabsNamed name = some tabs) :
    classify name = .plain := by
  unfold tabsNamed at h
  split at h
  · decide
  · decide
  · decide
  · decide
  · simp at h

/-- What the arguments ask for, when no file has a name that is taken for an option. -/
theorem parse_showArguments {response grammar view : String} {tabs : List Tab}
    (hresponse : response ≠ "" ∧ classify response = .plain)
    (hgrammar : grammar ≠ "" ∧ classify grammar = .plain) (hview : tabsNamed view = some tabs)
    (step : Option UInt64) : Invocation.parse (showArguments response grammar view step) =
      some ⟨none, .render response (some grammar) tabs step⟩ := by
  have hcommand : classify "show" = .plain := by decide
  have hgrammarOption : classify "--grammar" = .long "grammar" none := by decide
  have hviewOption : classify "--view" = .long "view" none := by decide
  have hstepOption : classify "--step" = .long "step" none := by decide
  have hname := classify_of_tabsNamed hview
  simp only [Invocation.parse, showArguments, List.cons_append, List.nil_append, readCommand, hcommand,
    if_true, Option.bind_eq_bind, Option.bind_some, commandOptions]
  rw [readArguments_file hresponse.2, readArguments_option hgrammarOption rfl rfl hgrammar.2,
    readArguments_option hviewOption rfl rfl hname]
  cases step with
  | none =>
    simp only [Option.map_none, Option.getD_none, readArguments_nil]
    simp [distinct, fileOption, Command.ofArguments, hview, hresponse.1, hgrammar.1, List.lookup_cons]
  | some n =>
    simp only [Option.map_some, Option.getD_some]
    rw [readArguments_option hstepOption rfl rfl (classify_toDigits n.toNat), readArguments_nil]
    simp [distinct, fileOption, Command.ofArguments, hview, hresponse.1, hgrammar.1, List.lookup_cons,
      Text.word?_toDigits]

end Arguments

/-! ## The command -/

variable {files : Files}

theorem loadResponse_of_text {path text : String} {r : Response} (h : files path = .ok text)
    (hr : Response.decode text = .ok r) : loadResponse files path = .ok r := by
  simp only [loadResponse, readFile, h, hr]

theorem loadVocabulary_of_grammar {path : String} {g : Grammar}
    (h : loadGrammar files path = .ok g) :
    loadVocabulary files (some path) = .ok (.ofGrammar g) := by
  simp only [loadVocabulary, h]

theorem run_render {config : Option String} {s : Settings} {response grammar : String}
    {r : Response} {g : Grammar} (hs : loadSettings files config = .ok s)
    (hr : loadResponse files response = .ok r) (hg : loadGrammar files grammar = .ok g)
    (tabs : List Tab) (step : Option UInt64) :
    Invocation.run files ⟨config, .render response (some grammar) tabs step⟩ =
      renderViews (.new s.bufferLevel s.stderrLevel) (.ofResponse r (.ofGrammar g)) tabs step := by
  simp only [Invocation.run, hs, runRender, hr, loadVocabulary_of_grammar hg]

/-- For one step, counted from one, a view is printed as a viewer shows it that was asked for the
same answer with the same grammar.  For all steps this holds of the views that have none, and the
simulation is printed with every step in its turn.  All views together are what the single ones
are, one behind the other. -/
theorem render_agrees_with_viewer {config : Option String} {s : Settings}
    {response grammar rtext gtext : String} {r : Response} {g : Grammar}
    (hs : loadSettings files config = .ok s)
    (hresponse : files response = .ok rtext) (hr : Response.decode rtext = .ok r)
    (hgrammar : files grammar = .ok gtext) (hg : Grammar.validate gtext = .ok g)
    (log : Log) (input took : String) :
    let printed tabs step := Invocation.run files ⟨config, .render response (some grammar) tabs step⟩
    let viewer tab := ViewState.answered log ⟨g, input⟩ r took tab
    (∀ tabs step, (printed tabs step).code = 0 ↔ step ≠ some 0) ∧
    (∀ (tab : Tab) (n : UInt64), n ≠ 0 →
      (printed [tab] (some n)).stdout = ((viewer tab).selectStep (n.toNat - 1)).text) ∧
    (∀ tab, tab ≠ .simulation → (printed [tab] none).stdout = (viewer tab).text ∧
      ∀ index, (printed [tab] none).stdout = ((viewer tab).selectStep index).text) ∧
    (printed [.simulation] none).stdout = Tab.simulation.banner ++
      String.join (r.steps.mapIdx fun index step => (StepView.ofStep index step).text) ∧
    ∀ step, (printed Tab.all step).stdout = (printed [.sets] step).stdout ++
      (printed [.table] step).stdout ++ (printed [.simulation] step).stdout := by
  intro printed viewer
  have hload := loadGrammar_eq_ok_iff.2 ⟨gtext, hgrammar, hg⟩
  have hrun (tabs : List Tab) (step : Option UInt64) : printed tabs step =
      renderViews (.new s.bufferLevel s.stderrLevel) (.ofResponse r (.ofGrammar g)) tabs step :=
    run_render hs (loadResponse_of_text hresponse hr) hload tabs step
  refine ⟨fun tabs step => ?_, fun tab n hn => ?_, fun tab htab => ⟨?_, fun index => ?_⟩, ?_,
    fun step => ?_⟩
  · rw [hrun]
    exact code_renderViews_eq_zero_iff _ _ tabs step
  · rw [hrun, stdout_renderViews_some _ _ tab hn, ViewState.text_selectStep_answered]
  · rw [hrun, stdout_renderViews_none, ViewState.text_answered]
    exact viewText_eq_of_ne_simulation _ htab _ _ _ _
  · rw [hrun, stdout_renderViews_none, ViewState.text_selectStep_answered]
    exact viewText_eq_of_ne_simulation _ htab _ _ _ _
  · rw [hrun, stdout_renderViews_none]
    simp only [viewText, true_and, if_true]
    exact congrArg _ (Replay.text_ofSteps r.steps)
  · have hall : Tab.all = [.sets] ++ [.table] ++ [.simulation] := rfl
    rw [hrun, hrun, hrun, hrun, hall, renderViews_append, renderViews_append]

/-- An answer with one step, whose states have a dot that is moved, is printed with a step that it
does not have. -/
theorem render_agrees_with_viewer_of_understood :
    let files : Files := fun path =>
      if path = "r.json" then .ok Response.understood.text
      else if path = "g.json" then .ok Grammar.initial.toJson.compact
      else .error .missing
    let printed tabs step := Invocation.run files ⟨none, .render "r.json" (some "g.json") tabs step⟩
    let viewer tab := ViewState.answered .quiet ⟨.initial, "a"⟩ .understood "1ms" tab
    Invocation.parse (showArguments "r.json" "g.json" "simulation" (some 9)) =
      some ⟨none, .render "r.json" (some "g.json") [.simulation] (some 9)⟩ ∧
    loadSettings files none = .ok .default ∧
    (Response.decode Response.understood.text = .ok .understood ∧
      Grammar.validate Grammar.initial.toJson.compact = .ok .initial) ∧
    (printed [.simulation] (some 9)).stdout = ((viewer .simulation).selectStep 8).text ∧
    ((viewer .simulation).selectStep 8).text =
      "== Simulation ==\nStep 1\n  Stack:  4a\n  Input:  $\n  Action: reduce 1.5\n(step 1 of 1)\n" ∧
    (printed [.table] none).stdout = (viewer .table).text ∧
    (printed Tab.all (some 9)).stdout = (printed [.sets] (some 9)).stdout ++
      (printed [.table] (some 9)).stdout ++ (printed [.simulation] (some 9)).stdout := by
  intro files printed viewer
  have hs : loadSettings files none = .ok .default := rfl
  have hnormal : Response.understood.normal = .understood := by decide +kernel
  have hdecode : Response.decode Response.understood.text = .ok .understood :=
    Response.understood.decode_text.trans (by rw [hnormal])
  have hvalidate : Grammar.validate Grammar.initial.toJson.compact = .ok .initial :=
    Grammar.validate_print_of_ok Editing.check_initial .compact
  have hresponse : files "r.json" = .ok Response.understood.text := rfl
  have hgrammar : files "g.json" = .ok Grammar.initial.toJson.compact := rfl
  obtain ⟨-, hstep, hstill, -, hall⟩ :=
    render_agrees_with_viewer hs hresponse hdecode hgrammar hvalidate .quiet "a" "1ms"
  have hview : tabsNamed "simulation" = some [.simulation] := rfl
  have hparse := parse_showArguments (by decide : "r.json" ≠ "" ∧ classify "r.json" = .plain)
    (by decide : "g.json" ≠ "" ∧ classify "g.json" = .plain) hview (some 9)
  refine ⟨hparse, hs, ⟨hdecode, hvalidate⟩, hstep .simulation 9 (by decide), ?_,
    (hstill .table (by decide)).1, hall (some 9)⟩
  decide +kernel

end CommandLine
end ParseLens
