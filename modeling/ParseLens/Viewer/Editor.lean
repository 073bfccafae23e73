import ParseLens.Exchange.Request

set_option autoImplicit false

/-!
# Viewer: the editor

The form in which a request is prepared: the text of a grammar, which is checked when it is
applied, and the input to parse.  A text that is accepted is replaced by its canonical form.  While
the last check failed nothing can be sent.
-/

namespace ParseLens

/-- The state of the form. -/
structure Editor where
  /-- The text of the grammar. -/
  text : String
  /-- The last grammar that was accepted. -/
  grammar : Option Grammar
  /-- The input to parse. -/
  input : String
  /-- Why the last check failed, until one succeeds. -/
  error : Option Problem
  deriving DecidableEq, Repr, Inhabited

namespace Editor

/-- A form filled in with a grammar and an input. -/
def ofGrammar (g : Grammar) (input : String) : Editor := ⟨g.canonicalText, some g, input, none⟩

/-- The form that editing starts with. -/
def initial : Editor := ofGrammar .initial "a a b"

/-- Replace the text, which is not checked yet. -/
def setText (e : Editor) (text : String) : Editor := { e with text }

/-- Replace the input. -/
def setInput (e : Editor) (input : String) : Editor := { e with input }

/-- Check the text.  The new state of the form comes second. -/
def applyText (e : Editor) : Except Problem Grammar × Editor :=
  match Grammar.validate e.text with
  | .ok g => (.ok g, { e with text := g.canonicalText, grammar := some g, error := none })
  | .error p => (.error p, { e with error := some p })

/-- Whether the last check did not fail. -/
def canSubmit (e : Editor) : Bool := e.error.isNone

/-- Make a request of the text and the input.  A failure of an earlier check stands until the text
is applied again. -/
def request (e : Editor) : Except Problem ParseRequest × Editor :=
  match e.error with
  | some p => (.error p, e)
  | none =>
    match e.applyText with
    | (.ok g, e) => (.ok ⟨g, e.input⟩, e)
    | (.error p, e) => (.error p, e)

/-! ## Small facts -/

variable {e : Editor} {g : Grammar} {p : Problem}

theorem applyText_of_ok (h : Grammar.validate e.text = .ok g) :
    e.applyText = (.ok g, ⟨g.canonicalText, some g, e.input, none⟩) := by
  simp only [applyText, h]

theorem applyText_of_error (h : Grammar.validate e.text = .error p) :
    e.applyText = (.error p, { e with error := some p }) := by
  simp only [applyText, h]

theorem request_of_error (h : e.error = some p) : e.request = (.error p, e) := by
  simp [request, h]

/-- A request of a form without a problem checks the text. -/
theorem request_of_none (h : e.error = none) :
    e.request = (e.applyText.1.map fun g => ⟨g, e.input⟩, e.applyText.2) := by
  cases hvalidate : Grammar.validate e.text with
  | ok g => simp only [request, h, applyText_of_ok hvalidate, Except.map]
  | error p => simp only [request, h, applyText_of_error hvalidate, Except.map]

theorem canSubmit_eq_false_iff : e.canSubmit = false ↔ ∃ p, e.error = some p := by
  rw [canSubmit, ← Option.isSome_iff_exists, ← Option.not_isNone, Bool.not_eq_true']

end Editor

end ParseLens
