import ParseLens.Exchange.Response
import ParseLens.Problem

set_option autoImplicit false

/-!
# Exchange: replies

What comes back over the wire: a status and a body.  A status of success promises an answer in the
body.  With any other status the body may be an object that explains the failure; where it does
not, a general explanation stands in.
-/

namespace ParseLens

open Json (Decoder RecordType Value optionalField)

/-- A raw reply. -/
structure Reply where
  /-- The HTTP status. -/
  status : UInt16
  /-- The body. -/
  body : String
  deriving DecidableEq, Repr, Inhabited

/-- The body of a reply that refuses a request. -/
structure Refusal where
  /-- What went wrong. -/
  detail : Option String
  /-- The same, under the name that some producers use. -/
  error : Option String
  deriving DecidableEq, Repr, Inhabited

namespace Refusal

/-- How a refusal is read. -/
def recordType : RecordType Refusal where
  name := "ErrorReply"
  blank := ⟨none, none⟩
  fields := [
    optionalField "detail" .optionalText fun r detail => { r with detail },
    optionalField "error" .optionalText fun r error => { r with error }]

/-- An optional text as a JSON value. -/
def optionalToJson : Option String → Value
  | none => .null
  | some s => .string s

/-- A refusal as a JSON value. -/
def toJson (r : Refusal) : Value :=
  .object [("detail", optionalToJson r.detail), ("error", optionalToJson r.error)]

/-- The explanation that is shown, if there is one. -/
def message (r : Refusal) : Option String := r.detail.or r.error

/-- What stands in for an explanation. -/
def standIn : String := "Failed to parse input"

/-- The explanation that the body of a reply gives. -/
def explanation (body : String) : String :=
  match recordType.decoder.decode body with
  | .ok r => r.message.getD standIn
  | .error _ => standIn

end Refusal

namespace Reply

/-- Whether the status is one of success. -/
def isSuccess (r : Reply) : Bool := 200 ≤ r.status && r.status < 300

/-- The answer in a reply, or the problem that is shown in its place. -/
def response (r : Reply) : Except Problem Response :=
  if r.isSuccess then
    match Response.decode r.body with
    | .ok response => .ok response
    | .error message => .error (.response message)
  else .error (.refused r.status (Refusal.explanation r.body))

theorem response_of_not_isSuccess {r : Reply} (h : r.isSuccess = false) :
    r.response = .error (.refused r.status (Refusal.explanation r.body)) := by
  simp [response, h]

end Reply

end ParseLens
