import ParseLens.Automaton.Item
import ParseLens.Automaton.Table
import ParseLens.Automaton.Trace
import ParseLens.Json.Print
import ParseLens.Json.Record

set_option autoImplicit false

/-!
# Exchange: responses

The answer of the parser generator: the states of the automaton, its parsing table and a recorded
parse.  The value of an action is sent as a text; numbers and other values are tolerated and taken
as the text that stands for them, and a missing one or `null` as the empty text.
-/

namespace ParseLens

open Json (Decoder RecordType Value field blankField)

/-- An answer of the parser generator. -/
structure Response where
  /-- The states of the automaton. -/
  sets : List ItemSet
  /-- The entries of the parsing table under their keys. -/
  table : OrderedMap Entry
  /-- The recorded parse. -/
  steps : List Step
  deriving DecidableEq, Repr, Inhabited

/-! ## Parts -/

/-- The text that a value of any kind stands for. -/
def looseText : Value → String
  | .null => ""
  | .string s => s
  | v => v.settled.compact

/-- How the value of an action is read. -/
def looseTextDecoder : Decoder String := Value.decoder.map looseText

/-- How an action is read. -/
def Action.decoder : Decoder Action := Decoder.text.map Action.ofCode

/-- An action as a JSON value. -/
def Action.toJson (a : Action) : Value := .string a.code

/-- How an item is read. -/
def Item.recordType : RecordType Item where
  name := "LR1Item"
  blank := default
  fields := [
    field "non_terminal" .text fun i nonTerminal => { i with nonTerminal },
    field "production" .text fun i production => { i with production },
    field "dot_position" .int64 fun i dotPosition => { i with dotPosition },
    field "lookahead" .text fun i lookahead => { i with lookahead }]

/-- An item as a JSON value. -/
def Item.toJson (i : Item) : Value :=
  .object [
    ("non_terminal", .string i.nonTerminal),
    ("production", .string i.production),
    ("dot_position", .number (.int i.dotPosition.toInt)),
    ("lookahead", .string i.lookahead)]

/-- How a state is read. -/
def ItemSet.recordType : RecordType ItemSet where
  name := "LR1State"
  blank := default
  fields := [
    field "state" (.word64 "usize") fun s state => { s with state },
    field "items" (.list Item.recordType.decoder) fun s items => { s with items }]

/-- A state as a JSON value. -/
def ItemSet.toJson (s : ItemSet) : Value :=
  .object [
    ("state", .number (.int s.state.toNat)),
    ("items", .array (s.items.map Item.toJson))]

/-- How states are read. -/
def itemSetsDecoder : Decoder (List ItemSet) := .list ItemSet.recordType.decoder

/-- How an entry is read. -/
def Entry.recordType : RecordType Entry where
  name := "ParsingTableEntry"
  blank := ⟨default, ""⟩
  fields := [
    field "action" Action.decoder fun e action => { e with action },
    blankField "value" looseTextDecoder fun e value => { e with value }]

/-- An entry as a JSON value. -/
def Entry.toJson (e : Entry) : Value :=
  .object [("action", e.action.toJson), ("value", .string e.value)]

/-- How entries are read. -/
def entriesDecoder : Decoder (OrderedMap Entry) := .orderedMap Entry.recordType.decoder

/-- How a step is read. -/
def Step.recordType : RecordType Step where
  name := "ParsingStep"
  blank := ⟨[], [], default, ""⟩
  fields := [
    field "stack" (.list (.pair (.word64 "usize") .text)) fun s stack => { s with stack },
    field "input" (.list .text) fun s input => { s with input },
    field "action" Action.decoder fun s action => { s with action },
    blankField "value" looseTextDecoder fun s value => { s with value }]

/-- A step as a JSON value. -/
def Step.toJson (s : Step) : Value :=
  .object [
    ("stack", .array (s.stack.map fun e => .array [.number (.int e.1.toNat), .string e.2])),
    ("input", .texts s.input),
    ("action", s.action.toJson),
    ("value", .string s.value)]

/-- How steps are read. -/
def stepsDecoder : Decoder (List Step) := .list Step.recordType.decoder

/-! ## Answers -/

namespace Response

/-- How an answer is read. -/
def recordType : RecordType Response where
  name := "ParserResponse"
  blank := default
  fields := [
    field "lr1_sets" itemSetsDecoder fun r sets => { r with sets },
    field "parsing_table" entriesDecoder fun r table => { r with table },
    field "parsing_steps" stepsDecoder fun r steps => { r with steps }]

/-- Read an answer. -/
def decode (text : String) : Except String Response := recordType.decoder.decode text

/-- An answer as a JSON value. -/
def toJson (r : Response) : Value :=
  .object [
    ("lr1_sets", .array (r.sets.map ItemSet.toJson)),
    ("parsing_table", .object (r.table.entries.map fun e => (e.1, e.2.toJson))),
    ("parsing_steps", .array (r.steps.map Step.toJson))]

/-- The compact text of an answer. -/
def text (r : Response) : String := r.toJson.compact

end Response

end ParseLens
