import ParseLens.Exchange.Request

set_option autoImplicit false

/-!
# Settings: what can be configured

The settings of the viewer.  Every one has a default, so a text that states settings needs to state
only those it changes.
-/

namespace ParseLens

open Json (RecordType Value Decoder blankField)

/-- The settings. -/
structure Settings where
  /-- The base address of the parser generator. -/
  endpoint : String
  /-- How long an answer may take, in milliseconds. -/
  timeoutMs : UInt64
  /-- The layout of requests. -/
  requestShape : RequestShape
  /-- Messages up to this level go to the standard error stream. -/
  stderrLevel : UInt32
  /-- Messages up to this level are kept in memory. -/
  bufferLevel : UInt32
  deriving DecidableEq, Repr

namespace Settings

/-- The settings of a viewer that is not configured. -/
def default : Settings := ⟨"http://127.0.0.1:8001/", 30000, .nested, 1, 0⟩

instance : Inhabited Settings := ⟨default⟩

/-- How settings are read. -/
def recordType : RecordType Settings where
  name := "ViewerConfig"
  blank := default
  fields := [
    blankField "endpoint" .text fun s endpoint => { s with endpoint },
    blankField "timeout_ms" (.word64 "u64") fun s timeoutMs => { s with timeoutMs },
    blankField "request_shape" RequestShape.decoder fun s requestShape => { s with requestShape },
    blankField "stderr_log_level" .word32 fun s stderrLevel => { s with stderrLevel },
    blankField "buffer_log_level" .word32 fun s bufferLevel => { s with bufferLevel }]

/-- Read settings without looking at the address. -/
def decode (text : String) : Except String Settings := recordType.decoder.decode text

/-- Settings as a JSON value. -/
def toJson (s : Settings) : Value :=
  .object [
    ("endpoint", .string s.endpoint),
    ("timeout_ms", .number (.int s.timeoutMs.toNat)),
    ("request_shape", .string s.requestShape.name),
    ("stderr_log_level", .number (.int s.stderrLevel.toNat)),
    ("buffer_log_level", .number (.int s.bufferLevel.toNat))]

/-- The compact text of settings. -/
def text (s : Settings) : String := s.toJson.compact

end Settings

end ParseLens
