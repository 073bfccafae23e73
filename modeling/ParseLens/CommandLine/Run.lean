import ParseLens.CommandLine.Arguments
import ParseLens.Grammar.Text
import ParseLens.Settings.Endpoint
import ParseLens.Viewer.Editor
import ParseLens.Viewer.Log
import ParseLens.Viewer.Result

set_option autoImplicit false

/-!
# Command line: running a command

A command reads files and prints.  It prints nothing before everything that can fail has been done,
so a command that fails leaves the standard output empty; warnings may stand on the error stream
by then, in front of the report of the failure.
-/

namespace ParseLens.CommandLine

/-- Why a file cannot be read as text. -/
inductive ReadFault where
  /-- There is no such file. -/
  | missing
  /-- Its bytes are no text. -/
  | notText
  /-- Anything else. -/
  | other (message : String)
  deriving DecidableEq, Repr, Inhabited

/-- The message for a file that cannot be read. -/
def ReadFault.message : ReadFault → String
  | .missing => "No such file or directory (os error 2)"
  | .notText => "stream did not contain valid UTF-8"
  | .other message => message

/-- The text that some bytes are. -/
def textOfBytes (bytes : ByteArray) : Except ReadFault String :=
  match String.fromUTF8? bytes with
  | some s => .ok s
  | none => .error .notText

/-- The files there are, by their names. -/
abbrev Files : Type := String → Except ReadFault String

/-- A failure, perhaps with what caused it. -/
structure Failure where
  /-- What failed. -/
  message : String
  /-- Why. -/
  cause : Option String
  deriving DecidableEq, Repr, Inhabited

namespace Failure

/-- The failure to read a file. -/
def unreadable (path : String) (fault : ReadFault) : Failure :=
  ⟨"can't read " ++ path, some fault.message⟩

/-- A problem as a failure. -/
def ofProblem (p : Problem) : Failure := ⟨p.message, none⟩

/-- Refused settings as a failure. -/
def ofFlaw (flaw : Settings.Flaw) : Failure :=
  ⟨flaw.chain.headD "", flaw.chain.tail.head?⟩

/-- The lines of a text, indented behind the first. -/
def indent (s : String) : String :=
  String.ofList (s.toList.flatMap fun c => if c = '\n' then "\n    ".toList else [c])

/-- The report of a failure. -/
def report (f : Failure) : String :=
  "Error: " ++ f.message ++ "\n" ++
    match f.cause with
    | none => ""
    | some cause => "\nCaused by:\n    " ++ indent cause ++ "\n"

end Failure

/-- What a command leaves behind. -/
structure Output where
  /-- The exit code. -/
  code : UInt32
  /-- What it printed. -/
  stdout : String
  /-- What it wrote to the error stream. -/
  stderr : String
  deriving DecidableEq, Repr, Inhabited

namespace Output

/-- The output of a command that succeeds. -/
def success (stdout stderr : String) : Output := ⟨0, stdout, stderr⟩

/-- The output of a command that fails, after it wrote something to the error stream. -/
def failure (f : Failure) (written : String) : Output := ⟨1, "", written ++ f.report⟩

end Output

/-- The text of a file. -/
def readFile (files : Files) (path : String) : Except Failure String :=
  match files path with
  | .ok s => .ok s
  | .error fault => .error (.unreadable path fault)

/-- The settings in a file, or those of a program that is not configured. -/
def loadSettings (files : Files) : Option String → Except Failure Settings
  | none => .ok .default
  | some path =>
    match readFile files path with
    | .error f => .error f
    | .ok text =>
      match Settings.ofText text with
      | .ok s => .ok s
      | .error flaw => .error (.ofFlaw flaw)

/-- The grammar in a file, checked. -/
def loadGrammar (files : Files) (path : String) : Except Failure Grammar :=
  match readFile files path with
  | .error f => .error f
  | .ok text =>
    match Grammar.validate text with
    | .ok g => .ok g
    | .error p => .error (.ofProblem p)

/-- The answer in a file. -/
def loadResponse (files : Files) (path : String) : Except Failure Response :=
  match readFile files path with
  | .error f => .error f
  | .ok text =>
    match Response.decode text with
    | .ok r => .ok r
    | .error message => .error (.ofProblem (.response message))

/-- Check a grammar and print its canonical text. -/
def runCheck (files : Files) (grammar : String) : Output :=
  match loadGrammar files grammar with
  | .error f => .failure f ""
  | .ok g => .success (g.canonicalText ++ "\n") ""

/-- Print the body of a request, which is made in a form like any other. -/
def runRequest (files : Files) (s : Settings) (grammar input : String) (flat : Bool) : Output :=
  match readFile files grammar with
  | .error f => .failure f ""
  | .ok text =>
    match (Editor.initial.setText text).applyText with
    | (.error p, _) => .failure (.ofProblem p) ""
    | (.ok _, editor) =>
      match (editor.setInput input).request with
      | (.error p, _) => .failure (.ofProblem p) ""
      | (.ok r, _) => .success (r.body (if flat then .flat else s.requestShape) ++ "\n") ""

/-- The vocabulary for the symbols of an answer. -/
def loadVocabulary (files : Files) : Option String → Except Failure Vocabulary
  | none => .ok .unknown
  | some path =>
    match loadGrammar files path with
    | .error f => .error f
    | .ok g => .ok (.ofGrammar g)

/-- One view with its banner.  The simulation shows every step, unless one was selected. -/
def viewText (view : ResultView) (replay : Replay) (oneStep : Bool) (tab : Tab) : String :=
  tab.banner ++
    if tab = .simulation ∧ oneStep = false then replay.text else view.text tab replay

/-- The views of an answer, after a warning for each problem with it. -/
def renderViews (log : Log) (view : ResultView) (tabs : List Tab) (step : Option UInt64) : Output :=
  let log := view.problems.foldl Log.report log
  match step with
  | none => .success (String.join (tabs.map (viewText view view.replay false))) log.printed
  | some n =>
    if n = 0 then .failure ⟨"steps are numbered from 1", none⟩ log.printed
    else
      let replay := view.replay.select (n.toNat - 1)
      .success (String.join (tabs.map (viewText view replay true))) log.printed

/-- Print views of a recorded answer. -/
def runRender (files : Files) (s : Settings) (response : String) (grammar : Option String)
    (tabs : List Tab) (step : Option UInt64) : Output :=
  match loadResponse files response with
  | .error f => .failure f ""
  | .ok r =>
    match loadVocabulary files grammar with
    | .error f => .failure f ""
    | .ok v =>
      renderViews (.new s.bufferLevel s.stderrLevel) (.ofResponse r v) tabs step

/-- Run a command. -/
def Invocation.run (files : Files) (i : Invocation) : Output :=
  match loadSettings files i.config with
  | .error f => .failure f ""
  | .ok s =>
    match i.command with
    | .check grammar => runCheck files grammar
    | .request grammar input flat => runRequest files s grammar input flat
    | .render response grammar tabs step => runRender files s response grammar tabs step

/-- The files that a command may read. -/
def Invocation.paths (i : Invocation) : List String :=
  i.config.toList ++
    match i.command with
    | .check grammar => [grammar]
    | .request grammar _ _ => [grammar]
    | .render response grammar _ _ => response :: grammar.toList

end ParseLens.CommandLine
