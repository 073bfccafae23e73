import ParseLens.Grammar.Text

set_option autoImplicit false

/-!
# Exchange: requests

What is sent to the parser generator: a grammar, and the input to parse.  There are two layouts of
the same request.  The nested one has the grammar as it is edited under `grammar`; the flat one has
the productions there and the start symbol beside them.

Requests are sent in either layout and read in both.  Reading takes in the whole value first, then
tries the nested layout and after it the flat one.
-/

namespace ParseLens

open Json (Decoder Reader Value Cause Head Outcome)

/-! ## Layouts -/

/-- The layout of a request. -/
inductive RequestShape where
  | nested
  | flat
  deriving DecidableEq, Repr, Inhabited

namespace RequestShape

/-- The name of a layout. -/
def name : RequestShape → String
  | .nested => "nested"
  | .flat => "flat"

/-- The layout with the given name. -/
def ofName (s : String) : Except Cause RequestShape :=
  if s = "nested" then .ok .nested
  else if s = "flat" then .ok .flat
  else .error (.unknownVariant s "nested" "flat")

@[simp] theorem ofName_name (shape : RequestShape) : ofName shape.name = .ok shape := by
  cases shape <;> rfl

/-- Read the name of a layout. -/
def nameReader : Reader RequestShape :=
  (Reader.ofHead fun
    | .string s => .ok s
    | head => .error (.wrongKind head.found "variant identifier")).mapOrRefuse ofName

/-- Read a null. -/
def nullReader : Reader Unit :=
  .ofHead fun
    | .null => .ok ()
    | head => .error (.wrongKind head.found "unit")

/-- Read a layout in the form of an object with one member, which is named for it and null; the
opening bracket has been read. -/
def readMember (s : List Char) : Outcome RequestShape :=
  match Json.nextMember true s with
  | .error e => .error e
  | .ok none => .error ⟨.valueExpected, Json.skipBlank s, 1⟩
  | .ok (some t) =>
    match nameReader.run ('"' :: t) with
    | .error e => .error e
    | .ok (shape, s) =>
      match Json.readColon s with
      | .error e => .error e
      | .ok s =>
        match nullReader.run s with
        | .error e => .error e
        | .ok (_, s) =>
          match Json.skipBlank s with
          | [] => .error ⟨.endInObject, [], 0⟩
          | '}' :: rest => .ok (shape, rest)
          | t => .error ⟨.valueExpected, t, 0⟩

theorem readMember_shorter {s rest : List Char} {shape : RequestShape}
    (h : readMember s = .ok (shape, rest)) : rest.length < s.length := by
  unfold readMember at h
  split at h
  · simp at h
  · simp at h
  · rename_i t h0
    have l0 := Json.nextMember_shorter h0
    split at h
    · simp at h
    · rename_i h1
      have l1 := nameReader.shorter h1
      rw [List.length_cons] at l1
      split at h
      · simp at h
      · rename_i h2
        have l2 := Json.readColon_shorter h2
        split at h
        · simp at h
        · rename_i s' h3
          have l3 := nullReader.shorter h3
          have l4 := Json.length_skipBlank_le s'
          split at h
          · simp at h
          · rename_i he
            simp only [Except.ok.injEq, Prod.mk.injEq] at h
            rw [he, List.length_cons] at l4
            rw [← h.2]
            omega
          · simp at h

/-- Read a layout: its name, or an object with a null under its name. -/
def decoder : Decoder RequestShape := fun room =>
  { run := fun s =>
      match Json.skipBlank s with
      | [] => .error ⟨.endInValue, [], 0⟩
      | '"' :: t => nameReader.run ('"' :: t)
      | '{' :: t => (Decoder.inside (fun _ => ⟨readMember, readMember_shorter⟩) room).run t
      | t => .error ⟨.valueExpected, t, 1⟩
    shorter := fun {s a rest} h => by
      have l := Json.length_skipBlank_le s
      split at h
      · simp at h
      · rename_i he
        rw [he] at l
        exact Nat.lt_of_lt_of_le (nameReader.shorter h) l
      · rename_i he
        rw [he, List.length_cons] at l
        have := Reader.shorter _ h
        omega
      · simp at h }

end RequestShape

/-! ## Requests -/

/-- A request to the parser generator. -/
structure ParseRequest where
  /-- The grammar. -/
  grammar : Grammar
  /-- The input to parse; it may be empty. -/
  input : String
  deriving DecidableEq, Repr, Inhabited

/-- The value of the only member with the given name. -/
def onlyMember (name : String) (members : List (String × Value)) : Option Value :=
  match members.filter fun m => m.1 == name with
  | [m] => some m.2
  | _ => none

/-- A value that is a text. -/
def textOf : Value → Option String
  | .string s => some s
  | _ => none

/-- A value that is a list of texts. -/
def textsOf : Value → Option (List String)
  | .array vs => vs.mapM textOf
  | _ => none

/-- A value that lists the alternatives of non-terminals. -/
def productionsOf : Value → Option (OrderedMap (List String))
  | .object ms => (ms.mapM fun m => (textsOf m.2).map fun bodies => (m.1, bodies)).map .ofList
  | _ => none

/-- A value that is a grammar: an object, or an array of its two parts. -/
def grammarOf : Value → Option Grammar
  | .object ms => do
    let productions ← productionsOf (← onlyMember "productions" ms)
    let start ← textOf (← onlyMember "start_symbol" ms)
    return ⟨productions, start⟩
  | .array [productions, start] => do
    let productions ← productionsOf productions
    let start ← textOf start
    return ⟨productions, start⟩
  | _ => none

namespace ParseRequest

/-- The request that an object in the nested layout holds. -/
def ofNested (members : List (String × Value)) : Option ParseRequest := do
  let grammar ← grammarOf (← onlyMember "grammar" members)
  let input ← textOf (← onlyMember "input_string" members)
  return ⟨grammar, input⟩

/-- The request that an object in the flat layout holds. -/
def ofFlat (members : List (String × Value)) : Option ParseRequest := do
  let productions ← productionsOf (← onlyMember "grammar" members)
  let start ← textOf (← onlyMember "start_symbol" members)
  let input ← textOf (← onlyMember "input_string" members)
  return ⟨⟨productions, start⟩, input⟩

/-- The request that a value holds in one of the two layouts. -/
def ofValue : Value → Except Cause ParseRequest
  | .object ms =>
    match (ofNested ms).or (ofFlat ms) with
    | some r => .ok r
    | none => .error (.noShape "WireRequest")
  | _ => .error (.noShape "WireRequest")

/-- How a request is read. -/
def decoder : Decoder ParseRequest := fun room => (Value.decoder room).mapOrRefuse ofValue

/-- A request as a JSON value. -/
def toJson (r : ParseRequest) : RequestShape → Value
  | .nested => .object [("grammar", r.grammar.toJson), ("input_string", .string r.input)]
  | .flat =>
    .object [
      ("grammar", Grammar.productionsToJson r.grammar.productions),
      ("start_symbol", .string r.grammar.start),
      ("input_string", .string r.input)]

/-- The body that is sent. -/
def body (r : ParseRequest) (shape : RequestShape) : String := (r.toJson shape).compact

end ParseRequest

end ParseLens
