import ParseLens.Proofs.Json.RecordForm
import ParseLens.Viewer.Editor

set_option autoImplicit false

/-!
# Grammar: the canonical text

The canonical text of a grammar is read as that grammar, with the productions in their order,
whatever characters its names and alternatives hold.  Checking the text is therefore checking the
grammar, and writing the text again changes nothing.
-/

namespace ParseLens

open Json (ReadsBack RecordType Value)

namespace Grammar

theorem readsBack_texts (ss : List String) : ReadsBack 1 (.list .text) (Value.texts ss) ss :=
  .list_self .text ss

theorem readsBack_productions (productions : OrderedMap (List String)) :
    ReadsBack 2 productionsDecoder (productionsToJson productions) productions :=
  .orderedMap (List.forall₂_map_left_iff.2
    (List.forall₂_same.2 fun entry _ => ⟨rfl, readsBack_texts entry.2⟩))

theorem readsBack_toJson (g : Grammar) : ReadsBack 3 recordType.decoder g.toJson g := by
  have hfills : recordType.Fills 2 [] recordType.blank
      [("productions", productionsToJson g.productions), ("start_symbol", .string g.start)]
      ["start_symbol", "productions"] g := by
    refine .field rfl (by simp) (readsBack_productions g.productions) ?_
    refine .field rfl (by simp) ((ReadsBack.text g.start).mono (Nat.zero_le 2)) ?_
    exact .done _ _
  exact RecordType.readsBack hfills rfl

/-- Reading a written grammar, with any spacing, gives back the grammar. -/
theorem decode_print (g : Grammar) (sp : Json.Spacing) :
    decode (String.ofList (g.toJson.print sp 0)) = .ok g :=
  g.readsBack_toJson.decode_print (by decide) sp

theorem decode_canonicalText (g : Grammar) : decode g.canonicalText = .ok g :=
  g.decode_print .indented

/-- A grammar without a flaw is accepted however it is written. -/
theorem validate_print_of_ok {g : Grammar} (h : g.check = .ok ()) (sp : Json.Spacing) :
    validate (String.ofList (g.toJson.print sp 0)) = .ok g :=
  validate_eq_ok_iff.2 ⟨g.decode_print sp, check_eq_ok_iff.1 h⟩

/-- The canonical text may be the lines of a file, of which the last one ends as well. -/
theorem decode_canonicalText_lines (g : Grammar) : decode (g.canonicalText ++ "\n") = .ok g := by
  have hblank : Json.Blanks ['\n'] := by simp [Json.Blanks, Json.isBlank]
  have hread := g.readsBack_toJson.decode_print_append (by decide) .indented hblank
  rw [String.ofList_append] at hread
  exact hread

/-- Whether a text is accepted depends on what is read from it. -/
theorem validate_congr {text text' : String} (h : decode text = decode text') :
    validate text = validate text' := by
  unfold validate
  rw [h]

theorem validate_canonicalText_lines (g : Grammar) :
    validate (g.canonicalText ++ "\n") = validate g.canonicalText :=
  validate_congr (by rw [decode_canonicalText_lines, decode_canonicalText])

/-- Reading and checking the canonical text is checking the grammar. -/
theorem validate_canonicalText (g : Grammar) :
    validate g.canonicalText = match g.check with
      | .ok _ => .ok g
      | .error flaw => .error (.grammar flaw) := by
  unfold validate check
  rw [decode_canonicalText]
  cases h : g.flaw? <;> simp [h]

theorem validate_canonicalText_of_ok {g : Grammar} (h : g.check = .ok ()) :
    validate g.canonicalText = .ok g := by
  rw [validate_canonicalText, h]

theorem validate_canonicalText_of_error {g : Grammar} {flaw : Flaw} (h : g.check = .error flaw) :
    validate g.canonicalText = .error (.grammar flaw) := by
  rw [validate_canonicalText, h]

/-- Only grammars without a flaw are accepted. -/
theorem check_of_validate {text : String} {g : Grammar} (h : validate text = .ok g) :
    g.check = .ok () :=
  check_eq_ok_iff.2 (validate_eq_ok_iff.1 h).2

/-- A form that was filled in with a grammar asks what the check of the grammar decides. -/
theorem request_ofGrammar (g : Grammar) (input : String) :
    (Editor.ofGrammar g input).request.1 = match g.check with
      | .ok _ => .ok ⟨g, input⟩
      | .error flaw => .error (.grammar flaw) := by
  have hvalidate := g.validate_canonicalText
  cases hcheck : g.check with
  | ok =>
    rw [hcheck] at hvalidate
    simp [Editor.request, Editor.applyText, Editor.ofGrammar, hvalidate]
  | error flaw =>
    rw [hcheck] at hvalidate
    simp [Editor.request, Editor.applyText, Editor.ofGrammar, hvalidate]

theorem request_ofGrammar_eq_ok_iff (g : Grammar) (input : String) (r : ParseRequest) :
    (Editor.ofGrammar g input).request.1 = .ok r ↔ r = ⟨g, input⟩ ∧ g.check = .ok () := by
  rw [request_ofGrammar]
  cases hcheck : g.check with
  | ok => simp [eq_comm]
  | error flaw => simp

/-- The canonical text of a grammar stands for the grammar: reading and checking it gives what the
check of the grammar gives.  The canonical text of an accepted text is therefore accepted, and is
its own canonical text; and a form that was filled in with a grammar sends this very grammar, if
the grammar can be sent at all. -/
theorem canonicalText_stable :
    (∀ g : Grammar, g.check = .ok () → validate g.canonicalText = .ok g) ∧
    (∀ (g : Grammar) (flaw : Flaw), g.check = .error flaw →
      validate g.canonicalText = .error (.grammar flaw)) ∧
    (∀ (text : String) (g : Grammar), validate text = .ok g →
      validate g.canonicalText = .ok g ∧
        (validate g.canonicalText).map canonicalText = .ok g.canonicalText) ∧
    ∀ (g : Grammar) (input : String) (r : ParseRequest),
      (Editor.ofGrammar g input).request.1 = .ok r ↔ r = ⟨g, input⟩ ∧ g.check = .ok () := by
  refine ⟨fun g => validate_canonicalText_of_ok, fun g flaw => validate_canonicalText_of_error, ?_,
    request_ofGrammar_eq_ok_iff⟩
  intro text g h
  have hagain := validate_canonicalText_of_ok (check_of_validate h)
  exact ⟨hagain, by rw [hagain]; rfl⟩

/-- A grammar with names that have to be escaped, and a non-terminal without alternatives. -/
def escaped : Grammar :=
  ⟨.ofList [("S", ["\"A\" \\", "a\tb\nc"]), ("\"A\"", []), ("\u001f é", ["/"])], "S"⟩

/-- A grammar with a blank alternative. -/
def blanked : Grammar := ⟨.ofList [("S", ["a", " \t"])], "S"⟩

theorem canonicalText_stable_of_escaped :
    (escaped.check = .ok () ∧ validate escaped.canonicalText = .ok escaped) ∧
    (blanked.check = .error (.blankBody 1 "S") ∧
      validate blanked.canonicalText = .error (.grammar (.blankBody 1 "S"))) ∧
    (validate escaped.toJson.compact = .ok escaped ∧
      (validate escaped.canonicalText).map canonicalText = .ok escaped.canonicalText) ∧
    (Editor.ofGrammar escaped "a").request.1 = .ok ⟨escaped, "a"⟩ := by
  obtain ⟨haccepted, hrefused, hagain, hrequest⟩ := canonicalText_stable
  have hok : escaped.check = .ok () := by decide +kernel
  have herror : blanked.check = .error (.blankBody 1 "S") := by decide +kernel
  have hcompact : validate escaped.toJson.compact = .ok escaped := validate_print_of_ok hok .compact
  exact ⟨⟨hok, haccepted _ hok⟩, ⟨herror, hrefused _ _ herror⟩,
    ⟨hcompact, (hagain _ _ hcompact).2⟩, (hrequest _ _ _).2 ⟨rfl, hok⟩⟩

end Grammar

end ParseLens
