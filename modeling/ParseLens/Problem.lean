import ParseLens.Automaton.Item
import ParseLens.Automaton.TableKey
import ParseLens.Grammar.Check

set_option autoImplicit false

/-!
# Problems

Everything that can go wrong between editing a grammar and looking at the answer of the parser
generator.  None of it ends the work: a problem is shown next to what caused it.
-/

namespace ParseLens

/-- Why a request did not come back with an answer.  What is shown is the message alone, and it does
not tell all faults apart: a connection may fail with the very words of `late`. -/
inductive TransportFault where
  /-- The connection failed, for the reason given. -/
  | broken (reason : String)
  /-- No answer came within the given time, in milliseconds. -/
  | late (limit : UInt64)
  deriving DecidableEq, Repr, Inhabited

/-- The message for a request that did not come back. -/
def TransportFault.message : TransportFault → String
  | .broken reason => reason
  | .late limit => "no answer within " ++ toString limit.toNat ++ "ms"

/-- What can go wrong. -/
inductive Problem where
  /-- The grammar cannot be used. -/
  | grammar (flaw : Grammar.Flaw)
  /-- The producer of the answer refused the request; the detail is shown as it is. -/
  | refused (status : UInt16) (detail : String)
  /-- The request did not come back. -/
  | transport (fault : TransportFault)
  /-- The answer cannot be read; the message says why. -/
  | response (message : String)
  /-- A cell of the parsing table has a bad key. -/
  | key (text : String) (flaw : TableKey.Flaw)
  /-- An item has its dot outside its production. -/
  | dot (issue : DotIssue)
  deriving DecidableEq, Repr, Inhabited

/-- The message for a problem. -/
def Problem.message : Problem → String
  | .grammar flaw => "Invalid grammar: " ++ flaw.message
  | .refused _ detail => detail
  | .transport fault => "Request failed: " ++ fault.message
  | .response message => "Malformed parser response: " ++ message
  | .key text flaw => "Malformed table key " ++ Text.quoted text ++ ": " ++ flaw.reason
  | .dot issue =>
    "Item " ++ Text.quoted issue.item ++ " has dot position " ++
      toString issue.dotPosition.toInt ++ ", expected 0..=" ++ toString issue.length

end ParseLens
