import ParseLens.Viewer.Result
import ParseLens.Text.Numeral

set_option autoImplicit false

/-!
# Command line: arguments

The arguments of the program:

```
[-c FILE] check GRAMMAR
[-c FILE] request GRAMMAR [-i TEXT] [--flat]
[-c FILE] show RESPONSE [-g GRAMMAR] [-v sets|table|simulation|all] [-s STEP]
```

An option may stand before or behind the file, and `-c` also behind the name of the command.  Its
value is the next argument, or attached: `-i x`, `-ix`, `-i=x`, `--input x`, `--input=x`.  A value
that starts with a dash has to be attached.  Behind `--` every argument is a file.
-/

namespace ParseLens.CommandLine

/-! ## What arguments can be -/

/-- An option that a command knows. -/
structure OptionSpec where
  /-- Its name behind two dashes. -/
  long : String
  /-- Its letter behind one dash, if it has one. -/
  short : Option Char
  /-- Whether it has a value. -/
  valued : Bool
  deriving DecidableEq, Repr, Inhabited

/-- An argument on its own. -/
inductive Argument where
  /-- The two dashes behind which only files follow. -/
  | separator
  /-- An option by its name, perhaps with a value. -/
  | long (name : String) (value : Option String)
  /-- An option by its letter, perhaps with a value. -/
  | short (letter : Char) (value : Option String)
  /-- Anything else. -/
  | plain
  deriving DecidableEq, Repr, Inhabited

/-- Cut a text at its first equals sign, if there is one. -/
def cutValue : List Char → List Char × Option String
  | [] => ([], none)
  | c :: s =>
    if c = '=' then ([], some (String.ofList s))
    else (c :: (cutValue s).1, (cutValue s).2)

/-- What an argument is. -/
def classify (arg : String) : Argument :=
  match arg.toList with
  | ['-', '-'] => .separator
  | '-' :: '-' :: s => .long (String.ofList (cutValue s).1) (cutValue s).2
  | ['-', c] => .short c none
  | '-' :: c :: '=' :: s => .short c (some (String.ofList s))
  | '-' :: c :: s => .short c (some (String.ofList s))
  | _ => .plain

/-- Options with their values; an option without value has the empty one. -/
abbrev Options : Type := List (String × String)

/-- Read the value of an option: the attached one, or else the next argument. -/
def readValue (spec : OptionSpec) (attached : Option String) (rest : List String) :
    Option (String × List String) :=
  if spec.valued then
    match attached, rest with
    | some v, rest => some (v, rest)
    | none, v :: rest => if classify v = .plain then some (v, rest) else none
    | none, [] => none
  else
    match attached with
    | none => some ("", rest)
    | some _ => none

/-- The option that an argument names, and its attached value. -/
def findOption (specs : List OptionSpec) : Argument → Option (OptionSpec × Option String)
  | .long name value => (specs.find? fun s => s.long = name).map fun s => (s, value)
  | .short letter value => (specs.find? fun s => s.short = some letter).map fun s => (s, value)
  | _ => none

theorem length_readValue_le {spec : OptionSpec} {attached : Option String}
    {rest rest' : List String} {v : String} (h : readValue spec attached rest = some (v, rest')) :
    rest'.length ≤ rest.length := by
  unfold readValue at h
  split at h
  · split at h
    · simp only [Option.some.injEq, Prod.mk.injEq] at h
      simp [h.2]
    · split at h
      · simp only [Option.some.injEq, Prod.mk.injEq] at h
        simp [h.2]
      · simp at h
    · simp at h
  · split at h
    · simp only [Option.some.injEq, Prod.mk.injEq] at h
      simp [h.2]
    · simp at h

/-- Read options up to the first other argument, which names a command; then its arguments. -/
def readCommand (specs : List OptionSpec) (args : List String) :
    Option (Options × String × List String) :=
  match args with
  | [] => none
  | arg :: rest =>
    if classify arg = .plain then some ([], arg, rest)
    else
      match findOption specs (classify arg) with
      | none => none
      | some (spec, attached) =>
        match _h : readValue spec attached rest with
        | none => none
        | some (v, rest) =>
          (readCommand specs rest).map fun r => ((spec.long, v) :: r.1, r.2)
termination_by args.length
decreasing_by
  have := length_readValue_le _h
  simp only [List.length_cons]
  omega

/-- Read options and files to the end. -/
def readArguments (specs : List OptionSpec) (args : List String) :
    Option (Options × List String) :=
  match args with
  | [] => some ([], [])
  | arg :: rest =>
    match classify arg with
    | .plain => (readArguments specs rest).map fun r => (r.1, arg :: r.2)
    | .separator => some ([], rest)
    | argument =>
      match findOption specs argument with
      | none => none
      | some (spec, attached) =>
        match _h : readValue spec attached rest with
        | none => none
        | some (v, rest) =>
          (readArguments specs rest).map fun r => ((spec.long, v) :: r.1, r.2)
termination_by args.length
decreasing_by
  · simp
  · have := length_readValue_le _h
    simp only [List.length_cons]
    omega

/-! ## Commands -/

/-- What the program is asked to do. -/
inductive Command where
  /-- Check a grammar and print its canonical text. -/
  | check (grammar : String)
  /-- Print the body of a request. -/
  | request (grammar input : String) (flat : Bool)
  /-- Print views of a recorded answer; steps are counted from one. -/
  | render (response : String) (grammar : Option String) (tabs : List Tab) (step : Option UInt64)
  deriving DecidableEq, Repr, Inhabited

/-- A command with the file that configures it. -/
structure Invocation where
  /-- The file with the settings. -/
  config : Option String
  /-- The command. -/
  command : Command
  deriving DecidableEq, Repr, Inhabited

/-- The option for the settings. -/
def configOption : OptionSpec := ⟨"config", some 'c', true⟩

/-- The options of each command. -/
def commandOptions : String → Option (List OptionSpec)
  | "check" => some [configOption]
  | "request" => some [configOption, ⟨"input", some 'i', true⟩, ⟨"flat", none, false⟩]
  | "show" =>
    some [configOption, ⟨"grammar", some 'g', true⟩, ⟨"view", some 'v', true⟩,
      ⟨"step", some 's', true⟩]
  | _ => none

/-- The views with a name. -/
def tabsNamed : String → Option (List Tab)
  | "sets" => some [.sets]
  | "table" => some [.table]
  | "simulation" => some [.simulation]
  | "all" => some Tab.all
  | _ => none

/-- An option that is a file, which has to have a name. -/
def fileOption (options : Options) (name : String) : Option (Option String) :=
  match options.lookup name with
  | none => some none
  | some file => if file = "" then none else some (some file)

/-- The command with the given name, options and file. -/
def Command.ofArguments (name : String) (options : Options) (file : String) : Option Command :=
  match name with
  | "check" => some (.check file)
  | "request" =>
    some (.request file ((options.lookup "input").getD "") (options.lookup "flat").isSome)
  | "show" => do
    let grammar ← fileOption options "grammar"
    let tabs ← tabsNamed ((options.lookup "view").getD "all")
    match options.lookup "step" with
    | none => return .render file grammar tabs none
    | some s => return .render file grammar tabs (some (← Text.word? s.toList))
  | _ => none

/-- Whether no option is there twice. -/
def distinct (options : Options) : Bool := decide (options.map Prod.fst).Nodup

/-- What the arguments ask for, if they are well formed.  Settings that are named on both sides of
the command are those named behind it. -/
def Invocation.parse (args : List String) : Option Invocation := do
  let (before, name, rest) ← readCommand [configOption] args
  let specs ← commandOptions name
  let (options, files) ← readArguments specs rest
  if !distinct before || !distinct options then failure
  match files with
  | [file] =>
    if file = "" then failure
    let outer ← fileOption before "config"
    let inner ← fileOption options "config"
    let command ← Command.ofArguments name options file
    return ⟨inner.or outer, command⟩
  | _ => failure

end ParseLens.CommandLine
