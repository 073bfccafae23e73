import ParseLens.Json.Print
import ParseLens.Json.Record
import ParseLens.Problem

set_option autoImplicit false

/-!
# Grammar: grammars as text

A grammar is edited as a JSON text with the members `productions`, an object that lists the
alternatives of each non-terminal, and `start_symbol`.  Its canonical text is indented.
-/

namespace ParseLens.Grammar

open Json (Decoder RecordType Value field)

/-- The alternatives of each non-terminal. -/
def productionsDecoder : Decoder (OrderedMap (List String)) := .orderedMap (.list .text)

/-- How a grammar is read. -/
def recordType : RecordType Grammar where
  name := "Grammar"
  blank := default
  fields := [
    field "productions" productionsDecoder fun g productions => { g with productions },
    field "start_symbol" .text fun g start => { g with start }]

/-- The alternatives of each non-terminal as a JSON value. -/
def productionsToJson (productions : OrderedMap (List String)) : Value :=
  .object (productions.entries.map fun entry => (entry.1, Value.texts entry.2))

/-- A grammar as a JSON value. -/
def toJson (g : Grammar) : Value :=
  .object [("productions", productionsToJson g.productions), ("start_symbol", .string g.start)]

/-- Read a grammar without checking it. -/
def decode (text : String) : Except String Grammar := recordType.decoder.decode text

/-- The canonical text of a grammar. -/
def canonicalText (g : Grammar) : String := g.toJson.indented

/-- Read a grammar and check it. -/
def validate (text : String) : Except Problem Grammar :=
  match decode text with
  | .error message => .error (.grammar (.unreadable message))
  | .ok g =>
    match g.flaw? with
    | some flaw => .error (.grammar flaw)
    | none => .ok g

/-- The grammars that are accepted are those without a flaw. -/
theorem validate_eq_ok_iff {text : String} {g : Grammar} :
    validate text = .ok g ↔ decode text = .ok g ∧ g.flaw? = none := by
  unfold validate
  split
  · rename_i h
    simp [h]
  · rename_i g' h
    rw [h]
    split
    · rename_i flaw hf
      simp only [reduceCtorEq, Except.ok.injEq, false_iff, not_and]
      rintro rfl
      simp [hf]
    · rename_i hf
      simp only [Except.ok.injEq]
      exact ⟨fun e => ⟨e, e ▸ hf⟩, fun e => e.1⟩

end ParseLens.Grammar
