import ParseLens.Proofs.CommandLine.Agreement
import ParseLens.Proofs.CommandLine.Process
import ParseLens.Proofs.Text.Lines
import ParseLens.Proofs.Viewer.Warnings

set_option autoImplicit false

/-!
# Command line: all or nothing

A command may fail at many points: its settings, their address, each of two files, what is in them,
the number of a step.  Wherever it fails it has printed nothing by then, so whoever reads the
standard output gets a whole result or none.  Only warnings may come before the report of a failure,
and only printing an answer gives any.

A command is retold here as a process, which writes piece by piece.

* `Invocation.program_atomic` says that this process has printed nothing when it fails: what can
  fail is silent, and what prints cannot fail.
* `Invocation.ending_program` says that the process ends as the command does.
* `run_all_or_nothing` is the main statement.
-/

namespace ParseLens

/-! ## Warnings on the error stream -/

namespace Log

variable {l : Log}

theorem printed_writeAt (l : Log) (level : UInt32) (s : String) :
    (l.writeAt level s).printed = l.printed ++ if level ≤ l.stderrLevel then s else "" := by
  simp only [writeAt]
  split <;> simp

/-- A warning goes to the error stream as a whole, as far as the level of that goes. -/
theorem Coherent.printed_warn (h : l.Coherent) (s : String) :
    (l.warn s).printed = l.printed ++ if 1 ≤ l.stderrLevel then warningLine s else "" := by
  by_cases hgate : l.enabled warningLevel = true
  · rw [Log.warn, if_pos hgate, writeAt_writeAt, writeAt_writeAt, printed_writeAt]
    rfl
  · have hoff : ¬ 1 ≤ l.stderrLevel := fun hle => hgate (h.enabled_iff.2 (.inr hle))
    rw [Log.warn, if_neg hgate, if_neg hoff, String.append_empty]

theorem Coherent.printed_foldl_report (h : l.Coherent) (problems : List Problem) :
    (problems.foldl report l).printed = l.printed ++
      if 1 ≤ l.stderrLevel then String.join (problems.map fun p => warningLine p.message)
      else "" := by
  induction problems generalizing l with
  | nil => simp
  | cons p problems ih =>
    have hlevel : (l.warn p.message).stderrLevel = l.stderrLevel :=
      (Levels.mk.inj (l.levels_warn p.message)).2
    rw [List.foldl_cons, report, ih (h.warn p.message), h.printed_warn, hlevel]
    split <;> simp [String.append_assoc]

end Log

/-! ## A warning is one line -/

/-- A quoted text has no line break: that is written as an escape. -/
theorem Text.lineFeed_not_mem_quoted (s : String) : '\n' ∉ (quoted s).toList := by
  have hchar (c : Char) : '\n' ∉ quoteChar c := by
    have hcode : '\n' ∉ Nat.toDigits 16 c.toNat :=
      (Json.unbroken_toDigits_base (by decide) (by decide) _).lineFeed_not_mem
    unfold quoteChar
    split_ifs with hnull htab hfeed hreturn hquote hslash hprintable
    · decide
    · decide
    · decide
    · decide
    · decide
    · decide
    · simpa using Ne.symm hfeed
    · simp [hcode]
  simp [quoted, hchar]

theorem DotIssue.lineFeed_not_mem_message (d : DotIssue) :
    '\n' ∉ (Problem.dot d).message.toList := by
  have hmessage : (Problem.dot d).message = "Item " ++ Text.quoted d.item ++ " has dot position " ++
      toString d.dotPosition.toInt ++ ", expected 0..=" ++ toString d.length := rfl
  have hnumber (n : Nat) : '\n' ∉ (toString n).toList := by
    simpa using (Json.unbroken_toDigits n).lineFeed_not_mem
  have hposition : '\n' ∉ (toString d.dotPosition.toInt).toList := by
    cases d.dotPosition.toInt with
    | ofNat n => exact hnumber n
    | negSucc n =>
      have hminus : toString (Int.negSucc n) = "-" ++ toString (n + 1) := rfl
      rw [hminus, String.toList_append, List.mem_append, not_or]
      exact ⟨by decide, hnumber (n + 1)⟩
  simp only [hmessage, String.toList_append, List.mem_append, not_or]
  exact ⟨⟨⟨⟨⟨by decide, Text.lineFeed_not_mem_quoted d.item⟩, by decide⟩, hposition⟩, by decide⟩,
    hnumber d.length⟩

theorem TableKey.lineFeed_not_mem_message (key : String) (flaw : Flaw) :
    '\n' ∉ (Problem.key key flaw).message.toList := by
  have hmessage : (Problem.key key flaw).message =
      "Malformed table key " ++ Text.quoted key ++ ": " ++ flaw.reason := rfl
  have hreason : '\n' ∉ flaw.reason.toList := by cases flaw <;> decide
  simp only [hmessage, String.toList_append, List.mem_append, not_or]
  exact ⟨⟨⟨by decide, Text.lineFeed_not_mem_quoted key⟩, by decide⟩, hreason⟩

/-- What is moved or skipped is told in one line each. -/
theorem ResultView.lineFeed_not_mem_message (view : ResultView) :
    ∀ p ∈ view.problems, '\n' ∉ p.message.toList := by
  intro p hp
  obtain hdot | hkey := List.mem_append.1 hp
  · obtain ⟨d, -, rfl⟩ := List.mem_map.1 hdot
    exact d.lineFeed_not_mem_message
  · obtain ⟨s, -, rfl⟩ := List.mem_map.1 hkey
    exact TableKey.lineFeed_not_mem_message s.1 s.2

namespace CommandLine

/-! ## Commands as processes -/

section Programs

open Process

variable (files : Files) (s : Settings)

/-- Write a text at a level, as far as it goes to the error stream. -/
def writeAt (log : Log) (level : UInt32) (text : String) : Process Unit :=
  if level ≤ log.stderrLevel then complain text else pure ()

/-- Warn of a problem. -/
def warn (log : Log) (p : Problem) : Process Unit :=
  if log.enabled Log.warningLevel then do
    writeAt log Log.warningLevel "Warning: "
    writeAt log Log.warningLevel p.message
    writeAt log Log.warningLevel "\n"
  else pure ()

/-- Check a grammar and print its canonical text. -/
def checkProgram (grammar : String) : Process Unit := do
  let g ← take (loadGrammar files grammar)
  print (g.canonicalText ++ "\n")

/-- Print the body of a request, which is made in a form. -/
def requestProgram (grammar input : String) (flat : Bool) : Process Unit := do
  let text ← take (readFile files grammar)
  let (applied, editor) := (Editor.initial.setText text).applyText
  let _ ← take (applied.mapError .ofProblem)
  let (made, _) := (editor.setInput input).request
  let r ← take (made.mapError .ofProblem)
  print (r.body (if flat then .flat else s.requestShape) ++ "\n")

/-- Print one view below its banner. -/
def showTab (view : ResultView) (replay : Replay) (step : Option UInt64) (tab : Tab) :
    Process Unit := do
  print tab.banner
  if tab = .simulation ∧ step = none then print replay.text else print (view.text tab replay)

/-- The replay on the step that is asked for.  Steps are counted from one. -/
def selectedReplay (replay : Replay) : Option UInt64 → Except Failure Replay
  | none => .ok replay
  | some n =>
    if n = 0 then .error ⟨"steps are numbered from 1", none⟩
    else .ok (replay.select (n.toNat - 1))

/-- Print views of a recorded answer, after a warning for each problem with it. -/
def renderProgram (response : String) (grammar : Option String) (tabs : List Tab)
    (step : Option UInt64) : Process Unit := do
  let r ← take (loadResponse files response)
  let v ← take (loadVocabulary files grammar)
  let view := ResultView.ofResponse r v
  forM view.problems (warn (.new s.bufferLevel s.stderrLevel))
  let replay ← take (selectedReplay view.replay step)
  forM tabs (showTab view replay step)

/-- Carry a command out. -/
def Invocation.program (i : Invocation) : Process Unit := do
  let s ← take (loadSettings files i.config)
  match i.command with
  | .check grammar => checkProgram files grammar
  | .request grammar input flat => requestProgram files s grammar input flat
  | .render response grammar tabs step => renderProgram files s response grammar tabs step

/-! ## A failed command has printed nothing -/

theorem silent_warn (log : Log) (p : Problem) : (warn log p).Silent := by
  have hwrite (text : String) : (writeAt log Log.warningLevel text).Silent := by
    unfold writeAt
    split
    · exact silent_complain text
    · exact silent_pure ()
  unfold warn
  split
  · exact (hwrite _).bind fun _ => (hwrite _).bind fun _ => hwrite _
  · exact silent_pure ()

theorem sure_showTab (view : ResultView) (replay : Replay) (step : Option UInt64) (tab : Tab) :
    (showTab view replay step tab).Sure := by
  refine (sure_print _).bind fun _ => ?_
  split
  · exact sure_print _
  · exact sure_print _

theorem checkProgram_atomic (grammar : String) : (checkProgram files grammar).Atomic :=
  (silent_take _).bind_atomic fun _ => (sure_print _).atomic

theorem requestProgram_atomic (grammar input : String) (flat : Bool) :
    (requestProgram files s grammar input flat).Atomic := by
  refine (silent_take _).bind_atomic fun text => ?_
  refine (silent_take _).bind_atomic fun _ => ?_
  refine (silent_take _).bind_atomic fun r => ?_
  exact (sure_print _).atomic

theorem renderProgram_atomic (response : String) (grammar : Option String) (tabs : List Tab)
    (step : Option UInt64) : (renderProgram files s response grammar tabs step).Atomic := by
  refine (silent_take _).bind_atomic fun r => ?_
  refine (silent_take _).bind_atomic fun v => ?_
  refine (Silent.forM (silent_warn _) _).bind_atomic fun _ => ?_
  refine (silent_take _).bind_atomic fun replay => ?_
  exact (Sure.forM (sure_showTab _ replay step) tabs).atomic

/-- Whatever makes a command fail, it has printed nothing by then. -/
theorem Invocation.program_atomic (i : Invocation) : (i.program files).Atomic := by
  refine (silent_take _).bind_atomic fun s => ?_
  cases i.command with
  | check grammar => exact checkProgram_atomic files grammar
  | request grammar input flat => exact requestProgram_atomic files s grammar input flat
  | render response grammar tabs step =>
    exact renderProgram_atomic files s response grammar tabs step

/-! ## Commands are carried out so -/

theorem exec_warn {log : Log} (h : log.Coherent) (p : Problem) (w : Streams) :
    (warn log p).exec w = (.ok (), ⟨w.stdout ++ "",
      w.stderr ++ if 1 ≤ log.stderrLevel then warningLine p.message else ""⟩) := by
  have hlevel : Log.warningLevel = 1 := rfl
  by_cases hon : 1 ≤ log.stderrLevel
  · have hgate : log.enabled 1 = true := h.enabled_iff.2 (.inr hon)
    simp [warn, writeAt, hlevel, hgate, hon, exec_bind, warningLine, String.append_assoc]
  · simp [warn, writeAt, hlevel, hon]

/-- All warnings go to the error stream, or none does. -/
theorem exec_warnings {log : Log} (h : log.Coherent) (problems : List Problem) (w : Streams) :
    (forM problems (warn log)).exec w = (.ok (), ⟨w.stdout, w.stderr ++
      if 1 ≤ log.stderrLevel then String.join (problems.map fun p => warningLine p.message)
      else ""⟩) := by
  rw [exec_forM (exec_warn h)]
  split <;> simp [join_replicate_empty]

theorem exec_showTab (view : ResultView) (replay : Replay) (step : Option UInt64) (tab : Tab)
    (w : Streams) : (showTab view replay step tab).exec w =
      (.ok (), ⟨w.stdout ++ viewText view replay step.isSome tab, w.stderr ++ ""⟩) := by
  have hstep : step = none ↔ step.isSome = false := by simp
  simp only [showTab, viewText, exec_bind, exec_print, hstep]
  split <;> simp [String.append_assoc]

theorem exec_showTabs (view : ResultView) (replay : Replay) (step : Option UInt64)
    (tabs : List Tab) (w : Streams) : (forM tabs (showTab view replay step)).exec w =
      (.ok (), ⟨w.stdout ++ String.join (tabs.map (viewText view replay step.isSome)),
        w.stderr⟩) := by
  rw [exec_forM (exec_showTab view replay step)]
  simp [join_replicate_empty]

/-- The warnings come first, then the step is looked for, and then the views are printed. -/
theorem ending_shown (bufferLevel stderrLevel : UInt32) (view : ResultView) (tabs : List Tab)
    (step : Option UInt64) : ending (do
      forM view.problems (warn (.new bufferLevel stderrLevel))
      let replay ← take (selectedReplay view.replay step)
      forM tabs (showTab view replay step)) =
      renderViews (.new bufferLevel stderrLevel) view tabs step := by
  have hlog := Log.coherent_new bufferLevel stderrLevel
  have hprinted := hlog.printed_foldl_report view.problems
  rw [ending, exec_bind, exec_warnings hlog]
  simp only [exec_bind, exec_take, exec_showTabs, renderViews, hprinted]
  cases step with
  | none => rfl
  | some n =>
    by_cases hn : n = 0
    · simp only [selectedReplay, hn, if_true]
      rfl
    · simp only [selectedReplay, hn, if_false]
      rfl

theorem ending_checkProgram (grammar : String) :
    (checkProgram files grammar).ending = runCheck files grammar := by
  rw [checkProgram, ending_take_bind, runCheck]
  cases loadGrammar files grammar with
  | error f => rfl
  | ok g => simp [ending, Output.success]

theorem ending_requestProgram (grammar input : String) (flat : Bool) :
    (requestProgram files s grammar input flat).ending =
      runRequest files s grammar input flat := by
  rw [requestProgram, ending_take_bind, runRequest]
  cases readFile files grammar with
  | error f => rfl
  | ok text =>
    simp only
    obtain ⟨p | g, editor⟩ := (Editor.initial.setText text).applyText
    · rfl
    · simp only [ending_take_bind, Except.mapError]
      obtain ⟨p | r, editor'⟩ := (editor.setInput input).request
      · rfl
      · simp [ending, Output.success]

theorem ending_renderProgram (response : String) (grammar : Option String) (tabs : List Tab)
    (step : Option UInt64) : (renderProgram files s response grammar tabs step).ending =
      runRender files s response grammar tabs step := by
  rw [renderProgram, ending_take_bind, runRender]
  cases loadResponse files response with
  | error f => rfl
  | ok r =>
    simp only [ending_take_bind]
    cases loadVocabulary files grammar with
    | error f => rfl
    | ok v => exact ending_shown s.bufferLevel s.stderrLevel (.ofResponse r v) tabs step

theorem Invocation.ending_program (i : Invocation) :
    (i.program files).ending = i.run files := by
  rw [program, ending_take_bind, run]
  cases loadSettings files i.config with
  | error f => rfl
  | ok s =>
    cases i.command with
    | check grammar => exact ending_checkProgram files grammar
    | request grammar input flat => exact ending_requestProgram files s grammar input flat
    | render response grammar tabs step =>
      exact ending_renderProgram files s response grammar tabs step

end Programs

/-! ## How commands end -/

/-- What goes to the error stream of the problems with an answer. -/
def warned (s : Settings) (r : Response) : String :=
  if 1 ≤ s.stderrLevel then String.join r.warnings else ""

/-- A command fails, after some warnings. -/
inductive FailsWith (files : Files) : Invocation → Failure → String → Prop where
  /-- Its settings cannot be had. -/
  | settings {config : Option String} {f : Failure} (command : Command)
      (hs : loadSettings files config = .error f) : FailsWith files ⟨config, command⟩ f ""
  /-- There is no grammar to check. -/
  | check {config : Option String} {s : Settings} {path : String} {f : Failure}
      (hs : loadSettings files config = .ok s) (hg : loadGrammar files path = .error f) :
      FailsWith files ⟨config, .check path⟩ f ""
  /-- There is no grammar to make a request of. -/
  | request {config : Option String} {s : Settings} {path : String} {f : Failure}
      (input : String) (flat : Bool) (hs : loadSettings files config = .ok s)
      (hg : loadGrammar files path = .error f) :
      FailsWith files ⟨config, .request path input flat⟩ f ""
  /-- There is no answer to print. -/
  | response {config : Option String} {s : Settings} {response : String} {f : Failure}
      (grammar : Option String) (tabs : List Tab) (step : Option UInt64)
      (hs : loadSettings files config = .ok s) (hr : loadResponse files response = .error f) :
      FailsWith files ⟨config, .render response grammar tabs step⟩ f ""
  /-- There is no grammar that tells the kinds of its symbols. -/
  | vocabulary {config : Option String} {s : Settings} {response : String} {r : Response}
      {grammar : Option String} {f : Failure} (tabs : List Tab) (step : Option UInt64)
      (hs : loadSettings files config = .ok s) (hr : loadResponse files response = .ok r)
      (hv : loadVocabulary files grammar = .error f) :
      FailsWith files ⟨config, .render response grammar tabs step⟩ f ""
  /-- There is no step with the number zero.  By then there were warnings. -/
  | step {config : Option String} {s : Settings} {response : String} {r : Response}
      {grammar : Option String} {v : Vocabulary} (tabs : List Tab)
      (hs : loadSettings files config = .ok s) (hr : loadResponse files response = .ok r)
      (hv : loadVocabulary files grammar = .ok v) :
      FailsWith files ⟨config, .render response grammar tabs (some 0)⟩
        ⟨"steps are numbered from 1", none⟩ (warned s r)

/-- A command succeeds, with some warnings. -/
inductive SucceedsWith (files : Files) : Invocation → String → Prop where
  | check {config : Option String} {s : Settings} {path : String} {g : Grammar}
      (hs : loadSettings files config = .ok s) (hg : loadGrammar files path = .ok g) :
      SucceedsWith files ⟨config, .check path⟩ ""
  | request {config : Option String} {s : Settings} {path : String} {g : Grammar}
      (input : String) (flat : Bool) (hs : loadSettings files config = .ok s)
      (hg : loadGrammar files path = .ok g) :
      SucceedsWith files ⟨config, .request path input flat⟩ ""
  | render {config : Option String} {s : Settings} {response : String} {r : Response}
      {grammar : Option String} {v : Vocabulary} {step : Option UInt64} (tabs : List Tab)
      (hs : loadSettings files config = .ok s) (hr : loadResponse files response = .ok r)
      (hv : loadVocabulary files grammar = .ok v) (hstep : step ≠ some 0) :
      SucceedsWith files ⟨config, .render response grammar tabs step⟩ (warned s r)

variable {files : Files} {i : Invocation}

theorem printed_problems (s : Settings) (r : Response) (v : Vocabulary) :
    ((ResultView.ofResponse r v).problems.foldl Log.report
      (.new s.bufferLevel s.stderrLevel)).printed = warned s r := by
  rw [(Log.coherent_new _ _).printed_foldl_report, r.map_problems_ofResponse, warned]
  exact String.empty_append

theorem run_of_failsWith {f : Failure} {written : String} (h : FailsWith files i f written) :
    i.run files = .failure f written := by
  cases h with
  | settings command hs => simp only [Invocation.run, hs]
  | check hs hg => exact run_check_of_error hs hg
  | request input flat hs hg => exact run_request_of_error hs hg input flat
  | response grammar tabs step hs hr => simp only [Invocation.run, hs, runRender, hr]
  | vocabulary tabs step hs hr hv => simp only [Invocation.run, hs, runRender, hr, hv]
  | step tabs hs hr hv =>
    simp only [Invocation.run, hs, runRender, hr, hv, renderViews, if_true, printed_problems]

theorem run_of_succeedsWith {written : String} (h : SucceedsWith files i written) :
    (i.run files).code = 0 ∧ (i.run files).stderr = written := by
  cases h with
  | check hs hg =>
    rw [run_check_of_ok hs hg]
    exact ⟨rfl, rfl⟩
  | request input flat hs hg =>
    rw [run_request_of_ok hs hg input flat]
    exact ⟨rfl, rfl⟩
  | @render _ _ _ _ _ _ step tabs hs hr hv hstep =>
    simp only [Invocation.run, hs, runRender, hr, hv]
    cases step with
    | none => exact ⟨rfl, printed_problems _ _ _⟩
    | some n =>
      have hn : n ≠ 0 := fun h => hstep (by rw [h])
      simp only [renderViews, hn, if_false]
      exact ⟨rfl, printed_problems _ _ _⟩

/-- There is no other way to end. -/
theorem failsWith_or_succeedsWith (files : Files) (i : Invocation) :
    (∃ f written, FailsWith files i f written) ∨ ∃ written, SucceedsWith files i written := by
  obtain ⟨config, command⟩ := i
  cases hs : loadSettings files config with
  | error f => exact .inl ⟨f, "", .settings command hs⟩
  | ok s =>
    cases command with
    | check path =>
      cases hg : loadGrammar files path with
      | error f => exact .inl ⟨f, "", .check hs hg⟩
      | ok g => exact .inr ⟨"", .check hs hg⟩
    | request path input flat =>
      cases hg : loadGrammar files path with
      | error f => exact .inl ⟨f, "", .request input flat hs hg⟩
      | ok g => exact .inr ⟨"", .request input flat hs hg⟩
    | render response grammar tabs step =>
      cases hr : loadResponse files response with
      | error f => exact .inl ⟨f, "", .response grammar tabs step hs hr⟩
      | ok r =>
        cases hv : loadVocabulary files grammar with
        | error f => exact .inl ⟨f, "", .vocabulary tabs step hs hr hv⟩
        | ok v =>
          by_cases hstep : step = some 0
          · subst hstep
            exact .inl ⟨_, _, .step tabs hs hr hv⟩
          · exact .inr ⟨_, .render tabs hs hr hv hstep⟩

/-- Warnings are lines, one for each problem with the answer. -/
theorem lines_warned (s : Settings) (r : Response) : Text.lines (warned s r) =
    if 1 ≤ s.stderrLevel then r.problems.map fun p => "Warning: " ++ p.message else [] := by
  have hone : ∀ l ∈ r.problems.map fun p => "Warning: " ++ p.message, '\n' ∉ l.toList := by
    intro l hl
    obtain ⟨p, hp, rfl⟩ := List.mem_map.1 hl
    rw [← r.problems_ofResponse .unknown] at hp
    rw [String.toList_append, List.mem_append, not_or]
    exact ⟨by decide, ResultView.lineFeed_not_mem_message _ p hp⟩
  have hwarnings : r.warnings =
      (r.problems.map fun p => "Warning: " ++ p.message).map fun l => l ++ "\n" := by
    rw [← r.map_problems_ofResponse .unknown, r.problems_ofResponse, List.map_map]
    rfl
  rw [warned, hwarnings]
  split
  · exact Text.lines_join hone
  · rfl

/-- A command ends with the code zero or one.  With one it has printed nothing, and the report of
its failure stands at the end of the error stream.  With zero the error stream is empty if a grammar
was checked or a request made; if an answer was printed, it has one line for each problem with that,
first of its items and then of the keys of its table, unless the level of the error stream is zero.
These lines stand before the report if it is only the number of the step that is refused. -/
theorem run_all_or_nothing (files : Files) (i : Invocation) :
    let output := i.run files
    (i.program files).ending = output ∧
    (output.code = 0 ∨ output.code = 1) ∧
    (output.code = 1 → output.stdout = "" ∧
      ∃ f written, FailsWith files i f written ∧ output.stderr = written ++ f.report) ∧
    (∀ f written, FailsWith files i f written → output.code = 1) ∧
    (output.code = 0 → (∃ path, i.command = .check path) ∨
      (∃ path input flat, i.command = .request path input flat) → output.stderr = "") ∧
    ∀ response grammar tabs step, i.command = .render response grammar tabs step →
      (output.code = 0 → ∃ s r v, loadSettings files i.config = .ok s ∧
        loadResponse files response = .ok r ∧ loadVocabulary files grammar = .ok v ∧
        step ≠ some 0 ∧ output.stderr = warned s r) ∧
      ∀ s r v, loadSettings files i.config = .ok s → loadResponse files response = .ok r →
        loadVocabulary files grammar = .ok v →
          (ResultView.ofResponse r v).problems = r.problems ∧
          Text.lines (warned s r) = (if 1 ≤ s.stderrLevel then
            r.problems.map fun p => "Warning: " ++ p.message else []) ∧
          (step = some 0 →
            output = ⟨1, "", warned s r ++ "Error: steps are numbered from 1\n"⟩) := by
  intro output
  have hoff : (1 : UInt32) ≠ 0 := by decide
  have hsucceeds (hcode : output.code = 0) : ∃ written, SucceedsWith files i written := by
    refine (failsWith_or_succeedsWith files i).resolve_left ?_
    rintro ⟨f, written, h⟩
    have hrun : output = .failure f written := run_of_failsWith h
    rw [hrun] at hcode
    exact hoff hcode
  refine ⟨i.ending_program files, ?_, ?_, ?_, ?_, ?_⟩
  · obtain ⟨f, written, h⟩ | ⟨written, h⟩ := failsWith_or_succeedsWith files i
    · exact .inr (congrArg Output.code (run_of_failsWith h))
    · exact .inl (run_of_succeedsWith h).1
  · intro hcode
    refine ⟨?_, ?_⟩
    · have hout : (i.program files).ending = output := i.ending_program files
      rw [← hout] at hcode ⊢
      exact (i.program_atomic files).stdout_of_code hcode
    · obtain ⟨f, written, h⟩ | ⟨written, h⟩ := failsWith_or_succeedsWith files i
      · exact ⟨f, written, h, congrArg Output.stderr (run_of_failsWith h)⟩
      · exact absurd ((run_of_succeedsWith h).1.symm.trans hcode) hoff.symm
  · intro f written h
    exact congrArg Output.code (run_of_failsWith h)
  · intro hcode hcommand
    obtain ⟨written, h⟩ := hsucceeds hcode
    have hstderr : output.stderr = written := (run_of_succeedsWith h).2
    cases h with
    | check hs hg => exact hstderr
    | request input flat hs hg => exact hstderr
    | render tabs hs hr hv hstep => simp at hcommand
  · intro response grammar tabs step hcommand
    refine ⟨fun hcode => ?_, fun s r v hs hr hv => ⟨r.problems_ofResponse v, lines_warned s r, ?_⟩⟩
    · obtain ⟨written, h⟩ := hsucceeds hcode
      have hstderr : output.stderr = written := (run_of_succeedsWith h).2
      cases h with
      | check hs hg => simp at hcommand
      | request input flat hs hg => simp at hcommand
      | render tabs hs hr hv hstep =>
        simp only [Command.render.injEq] at hcommand
        obtain ⟨rfl, rfl, rfl, rfl⟩ := hcommand
        exact ⟨_, _, _, hs, hr, hv, hstep, hstderr⟩
    · rintro rfl
      obtain ⟨config, command⟩ := i
      simp only at hcommand hs
      subst hcommand
      exact run_of_failsWith (.step tabs hs hr hv)

/-- An answer with a dot that is moved and a key that is skipped: the warnings stand alone, or before
the report if the step zero is asked for.  If the grammar is no text there are none. -/
theorem run_all_or_nothing_of_bad_answer :
    let files : Files := fun path =>
      if path = "r.json" then .ok <|
        "\x7b\"lr1_sets\":[[1,[[\"A\",\"b\",2,\"$\"]]]]," ++
          "\"parsing_table\":\x7b\"1a\":[\"accept\"]\x7d,\"parsing_steps\":[]\x7d"
      else if path = "g.json" then .error .notText
      else .error .missing
    let printed grammar step :=
      Invocation.run files ⟨none, .render "r.json" grammar [.simulation] step⟩
    let lines := ["Warning: Item \"A → b\" has dot position 2, expected 0..=1",
      "Warning: Malformed table key \"1a\": missing '_' separator"]
    ((printed none none).code = 0 ∧ Text.lines (printed none none).stderr = lines) ∧
    (∃ warnings, Text.lines warnings = lines ∧ printed none (some 0) =
      ⟨1, "", warnings ++ "Error: steps are numbered from 1\n"⟩) ∧
    (printed (some "g.json") (some 0)).stdout = "" ∧
    (printed (some "g.json") (some 0)).stderr =
      "Error: can't read g.json\n\nCaused by:\n    stream did not contain valid UTF-8\n" := by
  intro files printed lines
  let s : Settings := .default
  let r : Response :=
    ⟨[⟨1, [⟨"A", "b", 2, "$"⟩]⟩], .ofList [("1a", ⟨.accept, ""⟩)], []⟩
  have hs : loadSettings files none = .ok s := rfl
  have hr : loadResponse files "r.json" = .ok r := by decide +kernel
  have hv : loadVocabulary files none = .ok .unknown := rfl
  have hproblems : (r.problems.map fun p => "Warning: " ++ p.message) = lines := by decide +kernel
  have hcode : (printed none none).code = 0 := by decide +kernel
  obtain ⟨-, -, -, -, -, hall⟩ :=
    run_all_or_nothing files ⟨none, .render "r.json" none [.simulation] none⟩
  obtain ⟨-, -, -, -, -, hzero⟩ :=
    run_all_or_nothing files ⟨none, .render "r.json" none [.simulation] (some 0)⟩
  obtain ⟨-, -, hfailed, hcodes, -, -⟩ :=
    run_all_or_nothing files ⟨none, .render "r.json" (some "g.json") [.simulation] (some 0)⟩
  obtain ⟨hsucceeds, hwarns⟩ := hall _ _ _ _ rfl
  have hlines : Text.lines (warned s r) = lines := (hwarns s r _ hs hr hv).2.1.trans hproblems
  have hbad : loadVocabulary files (some "g.json") = .error (.unreadable "g.json" .notText) := rfl
  refine ⟨⟨hcode, ?_⟩, ⟨warned s r, hlines, ?_⟩, ?_, ?_⟩
  · obtain ⟨s', r', v', hs', hr', -, -, hstderr⟩ := hsucceeds hcode
    obtain rfl : s = s' := Except.ok.inj (hs.symm.trans hs')
    obtain rfl : r = r' := Except.ok.inj (hr.symm.trans hr')
    exact (congrArg Text.lines hstderr).trans hlines
  · exact ((hzero _ _ _ _ rfl).2 s r _ hs hr hv).2.2 rfl
  · exact (hfailed (hcodes _ _ (.vocabulary [.simulation] (some 0) hs hr hbad))).1
  · decide +kernel

end CommandLine
end ParseLens
