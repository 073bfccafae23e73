import ParseLens.CommandLine.Run
import ParseLens.Proofs.Exchange.Layouts
import ParseLens.Proofs.Json.Line
import ParseLens.Proofs.Viewer.Editing

set_option autoImplicit false

/-!
# Command line: checking and requesting agree

Two commands read a grammar file.  One checks the grammar and prints its canonical text.  The other
puts the text into a form, applies it, replaces the input and makes a request, so that the
canonical text is read and checked a second time.  Both accept the same files, refuse the others
with the same report, and mean the same grammar.

* `runRequest_eq` says where the second route ends, in terms of the first.
* `loadGrammar_canonical` says that what the first command prints is a grammar file again.
* `request_agrees_with_check` is the main statement.
-/

namespace ParseLens.CommandLine

open Json (Value)

variable {files : Files} {path : String}

/-! ## Grammar files -/

theorem loadGrammar_of_text {text : String} (h : files path = .ok text) :
    loadGrammar files path = (Grammar.validate text).mapError Failure.ofProblem := by
  simp only [loadGrammar, readFile, h]
  cases Grammar.validate text <;> rfl

theorem loadGrammar_of_fault {fault : ReadFault} (h : files path = .error fault) :
    loadGrammar files path = .error (.unreadable path fault) := by
  simp only [loadGrammar, readFile, h]

theorem loadGrammar_eq_ok_iff {g : Grammar} :
    loadGrammar files path = .ok g ↔
      ∃ text, files path = .ok text ∧ Grammar.validate text = .ok g := by
  cases hfile : files path with
  | error fault => simp [loadGrammar_of_fault hfile]
  | ok text =>
    rw [loadGrammar_of_text hfile]
    cases hvalidate : Grammar.validate text with
    | ok g' => simp [hvalidate, Except.mapError]
    | error p => simp [hvalidate, Except.mapError]

/-- The canonical text of an accepted grammar, as a program prints it, is a file of this grammar. -/
theorem loadGrammar_canonical {g : Grammar} (hcheck : g.check = .ok ())
    (h : files path = .ok (g.canonicalText ++ "\n")) : loadGrammar files path = .ok g := by
  refine loadGrammar_eq_ok_iff.2 ⟨_, h, ?_⟩
  rw [Grammar.validate_canonicalText_lines]
  exact Grammar.validate_canonicalText_of_ok hcheck

/-! ## The two commands -/

/-- The layout that a request is printed in. -/
def printedShape (s : Settings) (flat : Bool) : RequestShape :=
  if flat then .flat else s.requestShape

theorem printedShape_eq_flat_iff {s : Settings} {flat : Bool} :
    printedShape s flat = .flat ↔ flat = true ∨ s.requestShape = .flat := by
  cases flat <;> simp [printedShape]

/-- The form changes nothing about the grammar: the canonical text that it holds once the file is
applied is accepted again, as the same grammar. -/
theorem runRequest_eq (files : Files) (s : Settings) (path input : String) (flat : Bool) :
    runRequest files s path input flat = match loadGrammar files path with
      | .error f => .failure f ""
      | .ok g =>
        .success ((⟨g, input⟩ : ParseRequest).body (printedShape s flat) ++ "\n") "" := by
  cases hfile : files path with
  | error fault =>
    rw [loadGrammar_of_fault hfile]
    simp only [runRequest, readFile, hfile]
  | ok text =>
    rw [loadGrammar_of_text hfile]
    simp only [runRequest, readFile, hfile]
    -- which form the text was put into does not matter
    generalize hform : Editor.initial.setText text = form
    have htext : form.text = text := by rw [← hform, Editor.setText]
    rw [← htext]
    cases hvalidate : Grammar.validate form.text with
    | error p =>
      rw [Editor.applyText_of_error hvalidate]
      simp only [Except.mapError]
    | ok g =>
      have hcheck := Grammar.check_of_validate hvalidate
      have hrequest := (Editor.accepted_again hcheck input).2
      rw [Editor.applyText_of_ok hvalidate]
      -- once applied, it is one that was filled in with the grammar
      have hinput : (⟨g.canonicalText, some g, form.input, none⟩ : Editor).setInput input =
          .ofGrammar g input := rfl
      simp only [hinput, hrequest, printedShape, Except.mapError]

variable {config : Option String} {s : Settings}

theorem run_check_of_error {f : Failure} (hs : loadSettings files config = .ok s)
    (h : loadGrammar files path = .error f) :
    Invocation.run files ⟨config, .check path⟩ = .failure f "" := by
  simp only [Invocation.run, hs, runCheck, h]

theorem run_check_of_ok {g : Grammar} (hs : loadSettings files config = .ok s)
    (h : loadGrammar files path = .ok g) :
    Invocation.run files ⟨config, .check path⟩ = .success (g.canonicalText ++ "\n") "" := by
  simp only [Invocation.run, hs, runCheck, h]

theorem run_request_of_error {f : Failure} (hs : loadSettings files config = .ok s)
    (h : loadGrammar files path = .error f) (input : String) (flat : Bool) :
    Invocation.run files ⟨config, .request path input flat⟩ = .failure f "" := by
  simp only [Invocation.run, hs, runRequest_eq, h]

theorem run_request_of_ok {g : Grammar} (hs : loadSettings files config = .ok s)
    (h : loadGrammar files path = .ok g) (input : String) (flat : Bool) :
    Invocation.run files ⟨config, .request path input flat⟩ =
      .success ((⟨g, input⟩ : ParseRequest).body (printedShape s flat) ++ "\n") "" := by
  simp only [Invocation.run, hs, runRequest_eq, h]

theorem code_check_eq_zero_iff (hs : loadSettings files config = .ok s) :
    (Invocation.run files ⟨config, .check path⟩).code = 0 ↔
      ∃ g, loadGrammar files path = .ok g := by
  cases hload : loadGrammar files path with
  | error f => simp [run_check_of_error hs hload, Output.failure]
  | ok g => simp [run_check_of_ok hs hload, Output.success]

theorem code_request_eq_zero_iff (hs : loadSettings files config = .ok s) (input : String)
    (flat : Bool) : (Invocation.run files ⟨config, .request path input flat⟩).code = 0 ↔
      ∃ g, loadGrammar files path = .ok g := by
  cases hload : loadGrammar files path with
  | error f => simp [run_request_of_error hs hload, Output.failure]
  | ok g => simp [run_request_of_ok hs hload, Output.success]

/-- With settings that are accepted both commands succeed on the same files, those of an accepted
grammar, and fail on all others in the same way.  One prints the canonical text of the grammar, the
other one line, which is read as the request of this grammar and the given input, in the flat layout
exactly when that is asked for or configured.  What the first prints is a file that both treat like
the one they were given. -/
theorem request_agrees_with_check (hs : loadSettings files config = .ok s) (path input : String)
    (flat : Bool) :
    let check := Invocation.run files ⟨config, .check path⟩
    let request := Invocation.run files ⟨config, .request path input flat⟩
    (request.code = 0 ↔ check.code = 0) ∧
    (check.code = 0 ↔ ∃ text g, files path = .ok text ∧ Grammar.validate text = .ok g) ∧
    (check.code ≠ 0 → request = check) ∧
    (∀ text p, files path = .ok text → Grammar.validate text = .error p →
      check = ⟨1, "", (Failure.ofProblem p).report⟩) ∧
    ∀ text g, files path = .ok text → Grammar.validate text = .ok g →
      check = ⟨0, g.canonicalText ++ "\n", ""⟩ ∧
      (∃ line ms, request = ⟨0, line ++ "\n", ""⟩ ∧ '\n' ∉ line.toList ∧
        ParseRequest.decoder.decode line = .ok ⟨g, input⟩ ∧
        Value.decoder.decode line = .ok (.object ms) ∧
        (ParseRequest.ofNested ms = none ↔ flat = true ∨ s.requestShape = .flat)) ∧
      ∀ (files' : Files) (config' : Option String) (path' : String),
        loadSettings files' config' = .ok s → files' path' = .ok check.stdout →
          Invocation.run files' ⟨config', .check path'⟩ = check ∧
          Invocation.run files' ⟨config', .request path' input flat⟩ = request := by
  intro check request
  refine ⟨?_, ?_, ?_, ?_, ?_⟩
  · exact (code_request_eq_zero_iff hs input flat).trans (code_check_eq_zero_iff hs).symm
  · refine (code_check_eq_zero_iff hs).trans ?_
    simp only [loadGrammar_eq_ok_iff]
    exact exists_comm
  · intro hfailed
    cases hload : loadGrammar files path with
    | error f =>
      have hcheck : check = .failure f "" := run_check_of_error hs hload
      rw [hcheck]
      exact run_request_of_error hs hload input flat
    | ok g => exact absurd ((code_check_eq_zero_iff hs).2 ⟨g, hload⟩) hfailed
  · intro text p hfile hrefused
    have hload : loadGrammar files path = .error (.ofProblem p) := by
      rw [loadGrammar_of_text hfile, hrefused]
      rfl
    exact run_check_of_error hs hload
  · intro text g hfile hvalidate
    let r : ParseRequest := ⟨g, input⟩
    let shape := printedShape s flat
    have hload := loadGrammar_eq_ok_iff.2 ⟨text, hfile, hvalidate⟩
    have hcheck : check = ⟨0, g.canonicalText ++ "\n", ""⟩ := run_check_of_ok hs hload
    have hrequest : request = ⟨0, r.body shape ++ "\n", ""⟩ :=
      run_request_of_ok hs hload input flat
    refine ⟨hcheck, ⟨r.body shape, r.members shape, hrequest, ?_, ?_, ?_, ?_⟩, ?_⟩
    · exact Value.lineFeed_not_mem_compact _
    · exact r.decode_request_body shape
    · exact r.decode_tree_body shape
    · exact (r.ofNested_members_eq_none_iff shape).trans printedShape_eq_flat_iff
    · intro files' config' path' hs' hprinted
      rw [hcheck] at hprinted
      have hagain := loadGrammar_canonical (Grammar.check_of_validate hvalidate) hprinted
      rw [run_check_of_ok hs' hagain, run_request_of_ok hs' hagain, hcheck, hrequest]
      exact ⟨rfl, rfl⟩

/-- A grammar with names that have to be escaped is requested in the flat layout, from its compact
text and from what the check of that prints.  An empty file is refused. -/
theorem request_agrees_with_check_of_escaped :
    let files : Files := fun path =>
      if path = "g.json" then .ok Grammar.escaped.toJson.compact
      else if path = "canonical.json" then .ok (Grammar.escaped.canonicalText ++ "\n")
      else if path = "empty.json" then .ok ""
      else .error .missing
    let check path := Invocation.run files ⟨none, .check path⟩
    let request path := Invocation.run files ⟨none, .request path "a\nb" true⟩
    loadSettings files none = .ok .default ∧
    check "g.json" = ⟨0, Grammar.escaped.canonicalText ++ "\n", ""⟩ ∧
    (∃ line, request "g.json" = ⟨0, line ++ "\n", ""⟩ ∧ '\n' ∉ line.toList ∧
      ParseRequest.decoder.decode line = .ok ⟨Grammar.escaped, "a\nb"⟩) ∧
    (check "canonical.json" = check "g.json" ∧ request "canonical.json" = request "g.json") ∧
    check "empty.json" =
      ⟨1, "", "Error: Invalid grammar: EOF while parsing a value at line 1 column 0\n"⟩ ∧
    request "empty.json" = check "empty.json" := by
  intro files check request
  have hs : loadSettings files none = .ok .default := rfl
  have hcheck : Grammar.escaped.check = .ok () := by decide +kernel
  have hvalidate : Grammar.validate Grammar.escaped.toJson.compact = .ok Grammar.escaped :=
    Grammar.validate_print_of_ok hcheck .compact
  have hrefused : Grammar.validate "" =
      .error (.grammar (.unreadable "EOF while parsing a value at line 1 column 0")) := by
    decide +kernel
  obtain ⟨-, -, -, -, haccepted⟩ := request_agrees_with_check hs "g.json" "a\nb" true
  obtain ⟨hstdout, ⟨line, _, hline, hone, hread, -⟩, hagain⟩ := haccepted _ _ rfl hvalidate
  obtain ⟨-, -, hsame, hreport, -⟩ := request_agrees_with_check hs "empty.json" "a\nb" true
  have hempty := hreport _ _ rfl hrefused
  refine ⟨hs, hstdout, ⟨line, hline, hone, hread⟩, ?_, hempty, hsame (by rw [hempty]; decide)⟩
  exact hagain files none "canonical.json" hs (by rw [hstdout]; rfl)

end ParseLens.CommandLine
