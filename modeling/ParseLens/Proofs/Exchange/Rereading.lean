import ParseLens.Proofs.Exchange.Received
import ParseLens.Proofs.Json.Yield

set_option autoImplicit false

/-!
# Exchange: an answer is read again as it was read

An answer may be written in many ways: its actions under short codes, its values as numbers, its
records as arrays, the names of its table more than once.  Its own text has one way for all of
this, so reading that text again changes nothing any more.

The only thing that is not read as it was written is an action that has a known code without being
the action of that code.  `Response.normal` is the answer with the actions that their codes stand
for: every answer is read as that (`Response.readsBack`), and an answer that was read is normal
already (`Response.isNormal_of_decode`).
-/

namespace ParseLens

open Json (Decoder Gap Members ReadsBack RecordType Value)

/-! ## Codes of actions -/

namespace Action

/-- An action with a name of its own, and the codes that stand for it. -/
structure Spelling where
  /-- The action. -/
  action : Action
  /-- The long name, under which the action is written. -/
  name : String
  /-- The codes under which it may be received, the long name first. -/
  codes : List String

/-- The actions that have such codes. -/
def spellings : List Spelling :=
  [⟨.shift, "shift", ["shift", "s"]⟩, ⟨.reduce, "reduce", ["reduce", "r"]⟩,
    ⟨.goto, "goto", ["goto", "g"]⟩, ⟨.accept, "accept", ["accept", "acc", "a"]⟩]

/-- The codes that stand for an action with a name of its own. -/
def knownCodes : List String := ["shift", "s", "reduce", "r", "goto", "g", "accept", "acc", "a"]

/-- An action is normal unless it keeps a known code as an unknown one. -/
def IsNormal (a : Action) : Prop := ∀ code, a = .other code → code ∉ knownCodes

/-- The action that is read where this one was written. -/
def normal (a : Action) : Action := ofCode a.code

theorem knownCodes_eq : knownCodes = spellings.flatMap Spelling.codes := rfl

/-- A known code is one of the codes of an action. -/
theorem exists_spelling {code : String} (h : code ∈ knownCodes) :
    ∃ p ∈ spellings, code ∈ p.codes :=
  List.mem_flatMap.1 (knownCodes_eq ▸ h)

/-- Each of its codes stands for the action, and the action is written under its long name. -/
theorem ofCode_of_mem_codes {p : Spelling} {code : String} (hp : p ∈ spellings)
    (hcode : code ∈ p.codes) :
    ofCode code = p.action ∧ ofCode p.name = p.action ∧ p.action.code = p.name := by
  simp only [spellings, List.mem_cons, List.not_mem_nil, or_false] at hp
  obtain rfl | rfl | rfl | rfl := hp
  all_goals
    revert code
    decide

/-- An unknown code is kept as it is. -/
theorem ofCode_eq_other {code : String} (h : code ∉ knownCodes) : ofCode code = .other code := by
  simp only [knownCodes, List.mem_cons, List.not_mem_nil, or_false, not_or] at h
  simp [ofCode, h]

theorem isNormal_ofCode (code : String) : (ofCode code).IsNormal := by
  intro code' heq
  by_cases hknown : code ∈ knownCodes
  · obtain ⟨p, hp, hcode⟩ := exists_spelling hknown
    have hother : ∀ p ∈ spellings, p.action ≠ .other code' := by simp [spellings]
    exact absurd ((ofCode_of_mem_codes hp hcode).1.symm.trans heq) (hother p hp)
  · rw [ofCode_eq_other hknown] at heq
    rw [← Action.other.inj heq]
    exact hknown

theorem normal_eq_self {a : Action} (h : a.IsNormal) : a.normal = a := by
  cases a with
  | shift => rfl
  | reduce => rfl
  | goto => rfl
  | accept => rfl
  | other code => exact ofCode_eq_other (h code rfl)

/-- An action is read from a code. -/
theorem readsBack_code (code : String) : ReadsBack 0 decoder (.string code) (ofCode code) :=
  (ReadsBack.text code).map ofCode

theorem yields_decoder : Decoder.Yields decoder IsNormal :=
  (Decoder.yields_true .text).map fun code _ => isNormal_ofCode code

end Action

/-- The members that give an action under a name, with its value. -/
def actionMembers (name value : String) : List (String × Value) :=
  [("action", .string name), ("value", .string value)]

/-! ## States -/

theorem Item.readsBack (i : Item) : ReadsBack 1 recordType.decoder i.toJson i := by
  have hfills : recordType.Fills 0 [] recordType.blank
      [("non_terminal", .string i.nonTerminal), ("production", .string i.production),
        ("dot_position", .number (.int i.dotPosition.toInt)), ("lookahead", .string i.lookahead)]
      ["lookahead", "dot_position", "production", "non_terminal"] i := by
    refine .field rfl (by simp) (.text i.nonTerminal) ?_
    refine .field rfl (by simp) (.text i.production) ?_
    refine .field rfl (by simp) (.int64 i.dotPosition) ?_
    refine .field rfl (by simp) (.text i.lookahead) ?_
    exact .done _ _
  exact RecordType.readsBack hfills rfl

theorem ItemSet.readsBack (s : ItemSet) : ReadsBack 3 recordType.decoder s.toJson s := by
  have hitems : ReadsBack 2 (.list Item.recordType.decoder) (.array (s.items.map Item.toJson))
      s.items := .list_self Item.readsBack s.items
  have hfills : recordType.Fills 2 [] recordType.blank
      [("state", .number (.int s.state.toNat)), ("items", .array (s.items.map Item.toJson))]
      ["items", "state"] s := by
    refine .field rfl (by simp) ((ReadsBack.word64 "usize" s.state).mono (Nat.zero_le 2)) ?_
    refine .field rfl (by simp) hitems ?_
    exact .done _ _
  exact RecordType.readsBack hfills rfl

/-! ## Entries -/

namespace Entry

/-- The entry that is read where this one was written. -/
def normal (e : Entry) : Entry := { e with action := e.action.normal }

theorem readsBack (e : Entry) : ReadsBack 1 recordType.decoder e.toJson e.normal := by
  have hfills : recordType.Fills 0 [] recordType.blank (actionMembers e.action.code e.value)
      ["value", "action"] e.normal := by
    refine .field rfl (by simp) (Action.readsBack_code e.action.code) ?_
    refine .blankField rfl (by simp) ((Value.readsBack_string e.value).map looseText) ?_
    exact .done _ _
  exact RecordType.readsBack hfills rfl

theorem yields_recordType : Decoder.Yields recordType.decoder fun e => e.action.IsNormal := by
  refine RecordType.yields (Action.isNormal_ofCode "shift") ?_
  intro f hf
  simp only [recordType, List.mem_cons, List.not_mem_nil, or_false] at hf
  rcases hf with rfl | rfl
  · exact Action.yields_decoder.map fun a ha _ _ => ha
  · exact (Decoder.yields_true _).map fun _ _ _ he => he

end Entry

/-! ## Steps -/

namespace Step

/-- The step that is read where this one was written. -/
def normal (s : Step) : Step := { s with action := s.action.normal }

/-- The members of a step in front of its action. -/
def members (stack : List (UInt64 × String)) (input : List String) : List (String × Value) :=
  [("stack", stackValue stack), ("input", Value.texts input)]

theorem readsBack (s : Step) : ReadsBack 3 recordType.decoder s.toJson s.normal := by
  have hfills : recordType.Fills 2 [] recordType.blank
      (members s.stack s.input ++ actionMembers s.action.code s.value)
      ["value", "action", "input", "stack"] s.normal := by
    have hvalue := (Value.readsBack_string s.value).map looseText
    refine .field rfl (by simp) (readsBack_stack s.stack) ?_
    refine .field rfl (by simp) ((readsBack_input s.input).mono (by decide)) ?_
    refine .field rfl (by simp) ((Action.readsBack_code s.action.code).mono (Nat.zero_le 2)) ?_
    refine .blankField rfl (by simp) (hvalue.mono (Nat.zero_le 2)) ?_
    exact .done _ _
  exact RecordType.readsBack hfills rfl

theorem yields_recordType : Decoder.Yields recordType.decoder fun s => s.action.IsNormal := by
  refine RecordType.yields (Action.isNormal_ofCode "shift") ?_
  intro f hf
  simp only [recordType, List.mem_cons, List.not_mem_nil, or_false] at hf
  rcases hf with rfl | rfl | rfl | rfl
  · exact (Decoder.yields_true _).map fun _ _ _ hs => hs
  · exact (Decoder.yields_true _).map fun _ _ _ hs => hs
  · exact Action.yields_decoder.map fun a ha _ _ => ha
  · exact (Decoder.yields_true _).map fun _ _ _ hs => hs

end Step

/-! ## Answers -/

namespace Response

/-- The answer that is read where this one was written. -/
def normal (r : Response) : Response :=
  { r with table := r.table.mapValues Entry.normal, steps := r.steps.map Step.normal }

/-- All actions, those of the table first. -/
def actions (r : Response) : List Action :=
  r.table.values.map Entry.action ++ r.steps.map Step.action

/-- No action keeps a known code as an unknown one. -/
def IsNormal (r : Response) : Prop := ∀ a ∈ r.actions, a.IsNormal

theorem isNormal_iff {r : Response} : r.IsNormal ↔
    (∀ e ∈ r.table.entries, e.2.action.IsNormal) ∧ ∀ s ∈ r.steps, s.action.IsNormal := by
  simp only [IsNormal, actions, OrderedMap.values, List.map_map, List.mem_append, List.mem_map,
    or_imp, forall_and, forall_exists_index, and_imp, forall_apply_eq_imp_iff₂, Function.comp]

/-- A normal answer is read as it was written. -/
theorem normal_eq_self {r : Response} (h : r.IsNormal) : r.normal = r := by
  obtain ⟨hentries, hsteps⟩ := isNormal_iff.1 h
  have htable : r.table.mapValues Entry.normal = r.table := by
    refine OrderedMap.entries_injective ?_
    rw [OrderedMap.entries_mapValues]
    refine .trans (List.map_congr_left ?_) (List.map_id _)
    intro e he
    simp [Entry.normal, Action.normal_eq_self (hentries e he)]
  have hall : r.steps.map Step.normal = r.steps := by
    refine .trans (List.map_congr_left ?_) (List.map_id _)
    intro s hs
    simp [Step.normal, Action.normal_eq_self (hsteps s hs)]
  rw [normal, htable, hall]

theorem readsBack_table (table : OrderedMap Entry) :
    ReadsBack 2 entriesDecoder (.object (table.entries.map fun e => (e.1, e.2.toJson)))
      (table.mapValues Entry.normal) :=
  .orderedMap (List.forall₂_map_left_iff.2 (List.forall₂_map_right_iff.2
    (List.forall₂_same.2 fun e _ => ⟨rfl, e.2.readsBack⟩)))

/-- An answer is read from its text as the normal one, for five brackets inside each other. -/
theorem readsBack (r : Response) : ReadsBack 5 recordType.decoder r.toJson r.normal := by
  have hsets : ReadsBack 4 itemSetsDecoder (.array (r.sets.map ItemSet.toJson)) r.sets :=
    .list_self ItemSet.readsBack r.sets
  have hsteps : ReadsBack 4 stepsDecoder (.array (r.steps.map Step.toJson))
      (r.steps.map Step.normal) := .list_map Step.readsBack r.steps
  have hfills : recordType.Fills 4 [] recordType.blank
      [("lr1_sets", .array (r.sets.map ItemSet.toJson)),
        ("parsing_table", .object (r.table.entries.map fun e => (e.1, e.2.toJson))),
        ("parsing_steps", .array (r.steps.map Step.toJson))]
      ["parsing_steps", "parsing_table", "lr1_sets"] r.normal := by
    refine .field rfl (by simp) hsets ?_
    refine .field rfl (by simp) ((readsBack_table r.table).mono (by decide)) ?_
    refine .field rfl (by simp) hsteps ?_
    exact .done _ _
  exact RecordType.readsBack hfills rfl

theorem yields_recordType : Decoder.Yields recordType.decoder IsNormal := by
  refine RecordType.yields (fun a ha => absurd ha List.not_mem_nil) ?_
  intro f hf
  simp only [recordType, List.mem_cons, List.not_mem_nil, or_false] at hf
  rcases hf with rfl | rfl | rfl
  · exact (Decoder.yields_true itemSetsDecoder).map fun _ _ _ hr => hr
  · refine (Decoder.Yields.orderedMap Entry.yields_recordType).map ?_
    intro table htable r hr
    exact isNormal_iff.2 ⟨htable, (isNormal_iff.1 hr).2⟩
  · refine (Decoder.Yields.list Step.yields_recordType).map ?_
    intro steps hsteps r hr
    exact isNormal_iff.2 ⟨(isNormal_iff.1 hr).1, hsteps⟩

/-- Every answer that was read is normal. -/
theorem isNormal_of_decode {text : String} {r : Response} (h : decode text = .ok r) :
    r.IsNormal :=
  yields_recordType.of_decode h

theorem decode_text (r : Response) : decode r.text = .ok r.normal :=
  r.readsBack.decode_compact (by decide)

theorem decode_text_of_isNormal {r : Response} (h : r.IsNormal) : decode r.text = .ok r := by
  rw [decode_text, normal_eq_self h]

/-- An answer that was read, from whatever text, is read again from its own text, and its text is
then the same.  So is every answer in which no action keeps a known code as an unknown one; any
other answer is read as if the codes were known, and from then on stays the same.

Unknown codes are kept.  Known ones become one of the four actions, short codes the same one as the
long name, and it is the long name that is written of them.  The value of an action that is missing,
null, a number of any form or a string becomes the text that stands for it, in a cell of the table
as in a step, wherever it stands in an answer and whatever else is among the members.  Of a value
that was received as something else the first part says as well that the text it has become stays. -/
theorem rereads_unchanged :
    -- answers
    (∀ (received : String) (r : Response), decode received = .ok r →
      decode r.text = .ok r ∧ (decode r.text).map text = .ok r.text) ∧
    (∀ r : Response, r.IsNormal →
      decode r.text = .ok r ∧ (decode r.text).map text = .ok r.text) ∧
    (∀ r : Response, decode r.text = .ok r.normal ∧ decode r.normal.text = .ok r.normal) ∧
    -- codes
    (∀ code : String, code ∉ Action.knownCodes →
      Action.ofCode code = .other code ∧ (Action.ofCode code).code = code) ∧
    (∀ code ∈ Action.knownCodes, ∃ p ∈ Action.spellings, code ∈ p.codes) ∧
    (∀ p ∈ Action.spellings, ∀ code ∈ p.codes,
      Action.ofCode code = p.action ∧ Action.ofCode p.name = p.action ∧
        (Action.ofCode code).code = p.name) ∧
    -- cells and steps as they are received, where so many brackets may still be opened
    (∀ (room : Nat) (s t rest : List Char) (ms : List (String × List Char)) (code x : String),
      Gap s ('{' :: t) → Members true t ms rest → GivesAction ms code x →
      (Entry.recordType.decoder (room + 1)).run s = .ok (⟨.ofCode code, x⟩, rest) ∧
      ∀ stack input, Step.GivesSituation ms stack input →
        (Step.recordType.decoder (room + 3)).run s =
          .ok (⟨stack, input, .ofCode code, x⟩, rest)) ∧
    -- cells and steps as they are written
    ∀ (a : Action) (x : String), Entry.toJson ⟨a, x⟩ = .object (actionMembers a.code x) ∧
      ∀ stack input, Step.toJson ⟨stack, input, a, x⟩ =
        .object (Step.members stack input ++ actionMembers a.code x) := by
  have hnormal (r : Response) (h : r.IsNormal) :
      decode r.text = .ok r ∧ (decode r.text).map text = .ok r.text := by
    have hread := decode_text_of_isNormal h
    exact ⟨hread, by rw [hread]; rfl⟩
  refine ⟨?_, hnormal, ?_, ?_, ?_, ?_, ?_, ?_⟩
  · intro received r h
    exact hnormal r (isNormal_of_decode h)
  · intro r
    exact ⟨r.decode_text, decode_text_of_isNormal (isNormal_of_decode r.decode_text)⟩
  · intro code h
    have hother := Action.ofCode_eq_other h
    exact ⟨hother, by rw [hother]; rfl⟩
  · intro code h
    exact Action.exists_spelling h
  · intro p hp code hcode
    obtain ⟨haction, hname, hwritten⟩ := Action.ofCode_of_mem_codes hp hcode
    exact ⟨haction, hname, by rw [haction, hwritten]⟩
  · intro room s t rest ms code x hs hms h
    refine ⟨Entry.run_decoder room hs hms h, fun stack input hsituation => ?_⟩
    exact Step.run_decoder room hs hms hsituation h
  · intro a x
    exact ⟨rfl, fun stack input => rfl⟩

/-- An answer whose records are arrays, save one, with a cell that is there twice, short and unknown
codes, and values that are numbers, null and missing. -/
def received : String :=
  "\x7b\"lr1_sets\":[[0,[[\"S\",\"a\",-1,\"$\"]]]]," ++
    "\"parsing_table\":\x7b\"0_a\":[\"g\",7],\"0_b\":[\"error\"],\"0_a\":[\"acc\",null]," ++
    "\"0_c\":\x7b\"value\":7.50,\"action\":\"s\"\x7d\x7d," ++
    "\"parsing_steps\":[[[[4,\"a\"]],[\"$\"],\"r\",1.50]]\x7d"

/-- The same answer as it is read. -/
def understood : Response where
  sets := [⟨0, [⟨"S", "a", -1, "$"⟩]⟩]
  table := .ofList [("0_a", ⟨.accept, ""⟩), ("0_b", ⟨.other "error", ""⟩), ("0_c", ⟨.shift, "7.5"⟩)]
  steps := [⟨[(4, "a")], ["$"], .reduce, "1.5"⟩]

/-- The text that it has from then on. -/
def understoodText : String :=
  "\x7b\"lr1_sets\":[\x7b\"state\":0,\"items\":[\x7b\"non_terminal\":\"S\"," ++
    "\"production\":\"a\",\"dot_position\":-1,\"lookahead\":\"$\"\x7d]\x7d]," ++
    "\"parsing_table\":\x7b\"0_a\":\x7b\"action\":\"accept\",\"value\":\"\"\x7d," ++
    "\"0_b\":\x7b\"action\":\"error\",\"value\":\"\"\x7d," ++
    "\"0_c\":\x7b\"action\":\"shift\",\"value\":\"7.5\"\x7d\x7d," ++
    "\"parsing_steps\":[\x7b\"stack\":[[4,\"a\"]],\"input\":[\"$\"]," ++
    "\"action\":\"reduce\",\"value\":\"1.5\"\x7d]\x7d"

theorem rereads_unchanged_of_received :
    (decode received = .ok understood ∧ decode understood.text = .ok understood ∧
      (decode understood.text).map text = .ok understoodText) ∧
    (understood.IsNormal ∧ decode understood.text = .ok understood) ∧
    ("error" ∉ Action.knownCodes ∧ Action.ofCode "error" = .other "error" ∧
      (Action.ofCode "error").code = "error") ∧
    ("acc" ∈ Action.knownCodes ∧ ∃ p ∈ Action.spellings, "acc" ∈ p.codes) ∧
    (⟨.shift, "shift", ["shift", "s"]⟩ ∈ Action.spellings ∧
      Action.ofCode "s" = .shift ∧ Action.ofCode "shift" = .shift ∧
        (Action.ofCode "s").code = "shift") ∧
    (Entry.recordType.decoder 1).run "\x7b\"value\":7.50,\"action\":\"s\"\x7d".toList =
      .ok (⟨.shift, "7.5"⟩, []) := by
  obtain ⟨hreceived, hnormal, -, hunknown, hknown, hspelling, hcell, -⟩ := rereads_unchanged
  have hdecode : decode received = .ok understood := by decide +kernel
  have hunderstood : understood.IsNormal := isNormal_of_decode hdecode
  have htext : understood.text = understoodText := by decide +kernel
  refine ⟨⟨hdecode, htext ▸ hreceived _ _ hdecode⟩, ?_, ?_, ?_, ?_, ?_⟩
  · exact ⟨hunderstood, (hnormal _ hunderstood).1⟩
  · have herror : "error" ∉ Action.knownCodes := by decide
    exact ⟨herror, hunknown _ herror⟩
  · have hacc : "acc" ∈ Action.knownCodes := by decide
    exact ⟨hacc, hknown _ hacc⟩
  · have hshift : ⟨.shift, "shift", ["shift", "s"]⟩ ∈ Action.spellings := List.mem_cons_self
    exact ⟨hshift, hspelling _ hshift "s" (by decide)⟩
  · let number := ['7', '.', '5', '0']
    let given := [("value", number), ("action", Json.literal "s")]
    have hform : ∀ m ∈ given, Json.Form .value m.2 [] := by
      simp only [given, List.forall_mem_cons]
      refine ⟨.number ⟨.inl rfl, .digits (by decide) (.one (by decide)),
        .digits (.more (by decide) (.one (by decide))), .none _⟩, ?_, by simp⟩
      exact (Json.isText_literal "s").form []
    let n := Json.Number.real false ⟨8444249301319680, -50⟩
    have hread : Json.readNumber number = .ok (n, []) := by
      have hsome : (Json.readNumber number).toOption = some (n, []) := by decide +kernel
      revert hsome
      cases Json.readNumber number <;> simp [Except.toOption]
    have hshort : String.ofList n.text = "7.5" := by decide +kernel
    have hvalue : StandsFor number "7.5" := hshort ▸ .number hread
    have hgiven : GivesAction given "s" "7.5" := ⟨by decide,
      .other (by decide) (.here (Json.isText_literal "s") (by decide)), .here hvalue (by decide)⟩
    exact (hcell 0 _ _ [] given "s" "7.5" (.refl _) (Json.members_membersText hform true)
      hgiven).1

end Response

end ParseLens
