import ParseLens.Problem

set_option autoImplicit false

/-!
# Viewer: the log

Messages have a level: warnings come first, information second.  They go to a buffer that is shown
next to the views, and to the standard error stream, each up to a level of its own; level zero
lets nothing through.

A message passes two gates.  The first compares its level with the larger of the two levels, which
the log keeps and which has to be brought up to date whenever one of the two is set; the second
compares it with the level of the buffer and that of the standard error stream, for each piece that
is written.
-/

namespace ParseLens

/-- A log, with all that was written to it. -/
structure Log where
  /-- Messages up to this level go to the buffer. -/
  bufferLevel : UInt32
  /-- Messages up to this level go to the standard error stream. -/
  stderrLevel : UInt32
  /-- The larger of the two levels. -/
  effectiveLevel : UInt32
  /-- What the buffer holds. -/
  buffer : String
  /-- What has gone to the standard error stream. -/
  printed : String
  /-- How many warnings there were.  The count has no bound: a counter of 64 bits agrees with it below
  `2 ^ 64`. -/
  warnings : Nat
  deriving DecidableEq, Repr, Inhabited

namespace Log

/-- The level of warnings. -/
def warningLevel : UInt32 := 1

/-- The level of information. -/
def infoLevel : UInt32 := 2

/-- A log to which nothing has been written. -/
def new (bufferLevel stderrLevel : UInt32) : Log :=
  ⟨bufferLevel, stderrLevel, max bufferLevel stderrLevel, "", "", 0⟩

/-- The log that is used when nothing is configured. -/
def default : Log := new 0 warningLevel

/-- A log that lets nothing through. -/
def quiet : Log := new 0 0

/-- Whether messages of a level go anywhere. -/
def enabled (l : Log) (level : UInt32) : Bool := level ≤ l.effectiveLevel

/-- Write a text at a level. -/
def writeAt (l : Log) (level : UInt32) (s : String) : Log :=
  { l with
    buffer := if level ≤ l.bufferLevel then l.buffer ++ s else l.buffer
    printed := if level ≤ l.stderrLevel then l.printed ++ s else l.printed }

/-- Write a text as part of some information.  This is for the pieces of a line, and knows the
second gate alone. -/
def write (l : Log) (s : String) : Log := l.writeAt infoLevel s

/-- Write a line of information. -/
def info (l : Log) (s : String) : Log :=
  if l.enabled infoLevel then (l.writeAt infoLevel s).writeAt infoLevel "\n" else l

/-- Write a warning, and count it if it goes anywhere. -/
def warn (l : Log) (s : String) : Log :=
  if l.enabled warningLevel then
    (({ l with warnings := l.warnings + 1 }.writeAt warningLevel "Warning: ").writeAt
      warningLevel s).writeAt warningLevel "\n"
  else l

/-- Write a line of information whose text is put together only if it goes anywhere. -/
def noteInfo (l : Log) (s : String) : Log :=
  if l.enabled infoLevel then l.write (s ++ "\n") else l

/-- Write a warning whose text is put together only if it goes anywhere. -/
def noteWarning (l : Log) (s : String) : Log := if l.enabled warningLevel then l.warn s else l

/-- Warn of a problem that work can go on after. -/
def report (l : Log) (p : Problem) : Log := l.warn p.message

/-- Set the level of the buffer. -/
def setBufferLevel (l : Log) (level : UInt32) : Log :=
  { l with bufferLevel := level, effectiveLevel := max l.stderrLevel level }

/-- Set the level of the standard error stream. -/
def setStderrLevel (l : Log) (level : UInt32) : Log :=
  { l with stderrLevel := level, effectiveLevel := max level l.bufferLevel }

/-- The log with its buffer emptied; what the buffer held is `buffer` before. -/
def clear (l : Log) : Log := { l with buffer := "" }

/-- A log of the same levels to which nothing has been written. -/
def copy (l : Log) : Log := { l with buffer := "", printed := "", warnings := 0 }

/-- The levels of a log as a text for developers. -/
def describe (l : Log) : String :=
  "Logger \x7b buffer_level: " ++ toString l.bufferLevel.toNat ++ ", stderr_level: " ++
    toString l.stderrLevel.toNat ++ " \x7d"

@[simp] theorem bufferLevel_writeAt (l : Log) (level : UInt32) (s : String) :
    (l.writeAt level s).bufferLevel = l.bufferLevel := rfl

@[simp] theorem stderrLevel_writeAt (l : Log) (level : UInt32) (s : String) :
    (l.writeAt level s).stderrLevel = l.stderrLevel := rfl

/-- What is written in two parts is written as a whole. -/
theorem writeAt_writeAt (l : Log) (level : UInt32) (s t : String) :
    (l.writeAt level s).writeAt level t = l.writeAt level (s ++ t) := by
  simp only [writeAt]
  split <;> split <;> simp [String.append_assoc]

end Log

end ParseLens
