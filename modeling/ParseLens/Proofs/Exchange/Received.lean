import ParseLens.Exchange.Response
import ParseLens.Proofs.Json.GivenFields

set_option autoImplicit false

/-!
# Exchange: actions as they are received

An action comes with its code and perhaps with a value, in a cell of the table or in a step.  The
value may be a string, a number of any form, `null`, or not there; the cell has the text that it
stands for.  All of it is said of the text that is received, whoever wrote it: in any order, with
any spelling of the names, and with members of other names in between.

* `StandsFor` says which text a value stands for.
* `Entry.run_decoder` and `Step.run_decoder` say what is read of a cell and of a step.
-/

namespace ParseLens

open Json

variable {v s t rest : List Char} {ms : List (String × List Char)} {code x : String}

/-! ## Values -/

/-- The text of a value, and the text that it stands for: none for `null`, the shortest one for a
number, and for a string what it spells. -/
inductive StandsFor : List Char → String → Prop where
  | null : StandsFor ['n', 'u', 'l', 'l'] ""
  | number {v : List Char} {n : Number} (h : readNumber v = .ok (n, [])) :
      StandsFor v (String.ofList n.text)
  | text {v : List Char} {s : String} (h : IsText v s) : StandsFor v s

/-- The written form of a value, with any spacing. -/
def IsWritten (value : Value) (v : List Char) : Prop := ∃ sp depth, v = value.print sp depth

/-- The value of an action is read as the text that it stands for. -/
theorem StandsFor.reads (h : StandsFor v x) (room : Nat) : looseTextDecoder.Reads room v x := by
  intro s rest hs hrest
  cases h with
  | null => exact Reader.run_map_of_ok (Value.run_decoder_null room hs)
  | number h => exact Reader.run_map_of_ok (Value.run_decoder_number room h hs hrest)
  | text h => exact Reader.run_map_of_ok (Value.run_decoder_string room h hs)

/-- The members give an action by its code, and with a value that stands for this text. -/
structure GivesAction (ms : List (String × List Char)) (code x : String) : Prop where
  there : "action" ∈ ms.map Prod.fst
  action : Given IsText "action" "" ms code
  value : Given StandsFor "value" "" ms x

variable {room : Nat}

theorem GivesAction.reads_action (h : GivesAction ms code x) :
    Given (Action.decoder.Reads room) "action" (.ofCode "") ms (.ofCode code) :=
  h.action.map fun _ _ hv => (Decoder.reads_text room hv).map Action.ofCode

theorem GivesAction.reads_value (h : GivesAction ms code x) :
    Given (looseTextDecoder.Reads room) "value" "" ms x :=
  h.value.map (f := id) fun _ _ hv => hv.reads room

/-! ## Cells -/

namespace Entry

variable {f : Json.Field Entry}

theorem mem_fields (h : f ∈ recordType.fields) :
    f = field "action" Action.decoder (fun e action => { e with action }) ∨
      f = blankField "value" looseTextDecoder fun e value => { e with value } := by
  simpa [recordType] using h

theorem isField_action : recordType.IsField (Field.Reads room) "action"
    (fun v a => (Action.decoder room).run v = .ok (a, [])) action := by
  refine RecordType.isField rfl (fun _ _ => rfl) fun f hf hne => ?_
  obtain rfl | rfl := mem_fields hf
  · exact absurd rfl hne
  · exact RecordType.keeps fun _ _ => rfl

theorem isField_value : recordType.IsField (Field.Reads room) "value"
    (fun v x => (looseTextDecoder room).run v = .ok (x, [])) value := by
  refine RecordType.isField rfl (fun _ _ => rfl) fun f hf hne => ?_
  obtain rfl | rfl := mem_fields hf
  · exact RecordType.keeps fun _ _ => rfl
  · exact absurd rfl hne

/-- Members that give an action are taken by a cell. -/
theorem exists_takes (room : Nat) (h : GivesAction ms code x) : ∃ seen,
    RecordType.Takes recordType (Field.Reads room) [] recordType.blank ms seen ⟨.ofCode code, x⟩ ∧
      recordType.missing seen = none := by
  have hgiven : ∀ f ∈ recordType.fields, ∃ set, Given (f.Reads room) f.name id ms set := by
    intro f hf
    obtain rfl | rfl := mem_fields hf
    · exact h.reads_action.exists_reads _ _
    · exact h.reads_value.exists_reads _ _
  obtain ⟨seen, ⟨a, y⟩, htakes⟩ : ∃ seen e, RecordType.Takes recordType (Field.Reads room) []
      recordType.blank ms seen e := RecordType.exists_takes (by simp) hgiven
  obtain rfl : a = .ofCode code := htakes.get_eq isField_action h.reads_action (.inl h.there)
  obtain rfl : y = x := htakes.get_eq isField_value h.reads_value (.inr rfl)
  have hseen : "action" ∈ seen := htakes.mem_seen ⟨_, rfl⟩ (.inr h.there)
  refine ⟨seen, htakes, ?_⟩
  simp [RecordType.missing, recordType, field, blankField, hseen]

/-- A cell is read from any object that gives its action. -/
theorem run_decoder (room : Nat) (hs : Gap s ('{' :: t)) (hms : Members true t ms rest)
    (h : GivesAction ms code x) :
    (recordType.decoder (room + 1)).run s = .ok (⟨.ofCode code, x⟩, rest) := by
  obtain ⟨seen, htakes, hmissing⟩ := exists_takes room h
  exact RecordType.run_decoder_of_takes ⟨fun _ _ _ _ hv => hv⟩ hs hms htakes hmissing

end Entry

/-! ## Steps -/

namespace Step

/-- A stack as a JSON value. -/
def stackValue (stack : List (UInt64 × String)) : Value :=
  .array (stack.map fun e => .array [.number (.int e.1.toNat), .string e.2])

/-- How a stack is read. -/
def stackDecoder : Decoder (List (UInt64 × String)) := .list (.pair (.word64 "usize") .text)

/-- The stack of a step is read with the states and symbols in their places. -/
theorem readsBack_stack (stack : List (UInt64 × String)) :
    ReadsBack 2 stackDecoder (stackValue stack) stack :=
  .list_self (fun e => (ReadsBack.word64 "usize" e.1).pair (.text e.2)) stack

theorem readsBack_input (input : List String) :
    ReadsBack 1 (.list .text) (Value.texts input) input := .list_self .text input

/-- The members give a stack and the rest of the input. -/
structure GivesSituation (ms : List (String × List Char)) (stack : List (UInt64 × String))
    (input : List String) : Prop where
  stack_there : "stack" ∈ ms.map Prod.fst
  stack : Given (fun v stack => IsWritten (stackValue stack) v) "stack" [] ms stack
  input_there : "input" ∈ ms.map Prod.fst
  input : Given (fun v input => IsWritten (Value.texts input) v) "input" [] ms input

variable {stack : List (UInt64 × String)} {input : List String} {f : Json.Field Step}

theorem GivesSituation.reads_stack (h : GivesSituation ms stack input) (hroom : 2 ≤ room) :
    Given (stackDecoder.Reads room) "stack" [] ms stack := by
  refine h.stack.map (f := id) ?_
  rintro _ stack ⟨sp, depth, rfl⟩
  exact Decoder.reads_of_readsBack (readsBack_stack stack) hroom sp depth

theorem GivesSituation.reads_input (h : GivesSituation ms stack input) (hroom : 2 ≤ room) :
    Given ((Decoder.list .text).Reads room) "input" [] ms input := by
  refine h.input.map (f := id) ?_
  rintro _ input ⟨sp, depth, rfl⟩
  exact Decoder.reads_of_readsBack (readsBack_input input) (by omega) sp depth

theorem mem_fields (h : f ∈ recordType.fields) :
    f = field "stack" stackDecoder (fun s stack => { s with stack }) ∨
      f = field "input" (.list .text) (fun s input => { s with input }) ∨
      f = field "action" Action.decoder (fun s action => { s with action }) ∨
      f = blankField "value" looseTextDecoder fun s value => { s with value } := by
  simpa [recordType, stackDecoder] using h

theorem isField_stack : recordType.IsField (Field.Reads room) "stack"
    (fun v stack => (stackDecoder room).run v = .ok (stack, [])) Step.stack := by
  refine RecordType.isField rfl (fun _ _ => rfl) fun f hf hne => ?_
  obtain rfl | rfl | rfl | rfl := mem_fields hf
  · exact absurd rfl hne
  all_goals exact RecordType.keeps fun _ _ => rfl

theorem isField_input : recordType.IsField (Field.Reads room) "input"
    (fun v input => ((Decoder.list .text) room).run v = .ok (input, [])) Step.input := by
  refine RecordType.isField rfl (fun _ _ => rfl) fun f hf hne => ?_
  obtain rfl | rfl | rfl | rfl := mem_fields hf
  · exact RecordType.keeps fun _ _ => rfl
  · exact absurd rfl hne
  all_goals exact RecordType.keeps fun _ _ => rfl

theorem isField_action : recordType.IsField (Field.Reads room) "action"
    (fun v a => (Action.decoder room).run v = .ok (a, [])) action := by
  refine RecordType.isField rfl (fun _ _ => rfl) fun f hf hne => ?_
  obtain rfl | rfl | rfl | rfl := mem_fields hf
  · exact RecordType.keeps fun _ _ => rfl
  · exact RecordType.keeps fun _ _ => rfl
  · exact absurd rfl hne
  · exact RecordType.keeps fun _ _ => rfl

theorem isField_value : recordType.IsField (Field.Reads room) "value"
    (fun v x => (looseTextDecoder room).run v = .ok (x, [])) value := by
  refine RecordType.isField rfl (fun _ _ => rfl) fun f hf hne => ?_
  obtain rfl | rfl | rfl | rfl := mem_fields hf
  · exact RecordType.keeps fun _ _ => rfl
  · exact RecordType.keeps fun _ _ => rfl
  · exact RecordType.keeps fun _ _ => rfl
  · exact absurd rfl hne

/-- Members that give a situation and an action are taken by a step. -/
theorem exists_takes (hroom : 2 ≤ room) (h : GivesSituation ms stack input)
    (ha : GivesAction ms code x) : ∃ seen,
    RecordType.Takes recordType (Field.Reads room) [] recordType.blank ms seen
      ⟨stack, input, .ofCode code, x⟩ ∧ recordType.missing seen = none := by
  have hgiven : ∀ f ∈ recordType.fields, ∃ set, Given (f.Reads room) f.name id ms set := by
    intro f hf
    obtain rfl | rfl | rfl | rfl := mem_fields hf
    · exact (h.reads_stack hroom).exists_reads _ _
    · exact (h.reads_input hroom).exists_reads _ _
    · exact ha.reads_action.exists_reads _ _
    · exact ha.reads_value.exists_reads _ _
  obtain ⟨seen, ⟨stack', input', a, y⟩, htakes⟩ : ∃ seen step, RecordType.Takes recordType
      (Field.Reads room) [] recordType.blank ms seen step :=
    RecordType.exists_takes (by simp) hgiven
  obtain rfl : stack' = stack := htakes.get_eq isField_stack (h.reads_stack hroom) (.inr rfl)
  obtain rfl : input' = input := htakes.get_eq isField_input (h.reads_input hroom) (.inr rfl)
  obtain rfl : a = .ofCode code := htakes.get_eq isField_action ha.reads_action (.inl ha.there)
  obtain rfl : y = x := htakes.get_eq isField_value ha.reads_value (.inr rfl)
  have hstack : "stack" ∈ seen := htakes.mem_seen ⟨_, rfl⟩ (.inr h.stack_there)
  have hinput : "input" ∈ seen := htakes.mem_seen ⟨_, rfl⟩ (.inr h.input_there)
  have haction : "action" ∈ seen := htakes.mem_seen ⟨_, rfl⟩ (.inr ha.there)
  refine ⟨seen, htakes, ?_⟩
  simp [RecordType.missing, recordType, field, blankField, hstack, hinput, haction]

/-- A step is read from any object that gives its situation and its action. -/
theorem run_decoder (room : Nat) (hs : Gap s ('{' :: t)) (hms : Members true t ms rest)
    (h : GivesSituation ms stack input) (ha : GivesAction ms code x) :
    (recordType.decoder (room + 3)).run s = .ok (⟨stack, input, .ofCode code, x⟩, rest) := by
  obtain ⟨seen, htakes, hmissing⟩ := exists_takes (Nat.le_add_left 2 room) h ha
  exact RecordType.run_decoder_of_takes ⟨fun _ _ _ _ hv => hv⟩ hs hms htakes hmissing

end Step

end ParseLens
