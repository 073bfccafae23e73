import ParseLens.Json.Decoder
import ParseLens.Json.Pass

set_option autoImplicit false

/-!
# JSON: records

A record is written as an object whose members are its fields, in any order, or as an array of its
fields in their declared order.  Members with other names are passed over; a field must not be
there twice.

The value of a record is built up from a blank one: each field that is read changes it.  What
happens when a field is absent is part of the field.
-/

namespace ParseLens.Json

/-- What the absence of a field means. -/
inductive Absence where
  /-- The record is refused. -/
  | refused
  /-- The field stays blank in an object; an array has to be complete. -/
  | blankInObject
  /-- The field stays blank. -/
  | blank
  deriving DecidableEq, Repr, Inhabited

/-- A field of a record that is read as an `α`. -/
structure Field (α : Type) where
  /-- Its name. -/
  name : String
  /-- What its absence means. -/
  absence : Absence
  /-- How its value is read, and what it does to the record. -/
  decoder : Decoder (α → α)

/-- A field that has to be there. -/
def field {α β : Type} (name : String) (d : Decoder β) (set : α → β → α) : Field α :=
  ⟨name, .refused, d.map fun b a => set a b⟩

/-- A field that stays blank when it is absent. -/
def blankField {α β : Type} (name : String) (d : Decoder β) (set : α → β → α) : Field α :=
  ⟨name, .blank, d.map fun b a => set a b⟩

/-- A field that stays blank when it is absent from an object. -/
def optionalField {α β : Type} (name : String) (d : Decoder β) (set : α → β → α) : Field α :=
  ⟨name, .blankInObject, d.map fun b a => set a b⟩

/-- A type of records. -/
structure RecordType (α : Type) where
  /-- The name of the type, for messages. -/
  name : String
  /-- The record none of whose fields has been read. -/
  blank : α
  /-- The fields in their declared order. -/
  fields : List (Field α)

namespace RecordType

variable {α : Type}

/-- The name of the type in messages. -/
def expected (r : RecordType α) : String := "struct " ++ r.name

/-! ## Records in the form of arrays -/

/-- Read the fields in order; `index` fields have been looked for so far. -/
def readInOrder (r : RecordType α) (room : Nat) :
    List (Field α) → Nat → α → Bool → List Char → Outcome α
  | [], _, a, _, s => .ok (a, s)
  | f :: fs, index, a, first, s =>
    match nextElement first s with
    | .error e => .error e
    | .ok none =>
      if f.absence = .blank then readInOrder r room fs (index + 1) a first s
      else
        .error ⟨.wrongLength index
          (r.expected ++ " with " ++ toString r.fields.length ++ " elements"), passCloseList s, 0⟩
    | .ok (some t) =>
      match (f.decoder room).run t with
      | .error e => .error e
      | .ok (set, rest) => readInOrder r room fs (index + 1) (set a) false rest

theorem readInOrder_le {r : RecordType α} {room : Nat} {fs : List (Field α)} {index : Nat}
    {a b : α} {first : Bool} {s rest : List Char}
    (h : r.readInOrder room fs index a first s = .ok (b, rest)) : rest.length ≤ s.length := by
  induction fs generalizing index a first s with
  | nil =>
    simp only [readInOrder, Except.ok.injEq, Prod.mk.injEq] at h
    simp [h.2]
  | cons f fs ih =>
    unfold readInOrder at h
    split at h
    · simp at h
    · split at h
      · exact ih h
      · simp at h
    · rename_i hn
      split at h
      · simp at h
      · rename_i hr
        have h1 := nextElement_le hn
        have h2 := (f.decoder room).shorter hr
        have h3 := ih h
        omega

/-- Read a record in the form of an array, whose opening bracket has been read. -/
def ofList (r : RecordType α) : Decoder α := fun room =>
  { run := fun s =>
      match r.readInOrder room r.fields 0 r.blank true s with
      | .error e => .error e
      | .ok (a, rest) =>
        match closeList rest with
        | .error e => .error e
        | .ok rest => .ok (a, rest)
    shorter := fun {s a rest} h => by
      split at h
      · simp at h
      · rename_i h1
        have l1 := readInOrder_le h1
        split at h
        · simp at h
        · rename_i h2
          have l2 := closeList_shorter h2
          simp only [Except.ok.injEq, Prod.mk.injEq] at h
          rw [← h.2]
          omega }

/-! ## Records in the form of objects -/

/-- Read members up to the closing bracket: `seen` are the fields that have been there so far. -/
def readMembers (r : RecordType α) (room : Nat) (seen : List String) (a : α) (first : Bool)
    (s : List Char) : Outcome (List String × α) :=
  match _hn : nextMember first s with
  | .error e => .error e
  | .ok none => .ok ((seen, a), s)
  | .ok (some t) =>
    match _hs : readString t with
    | .error e => .error e
    | .ok (cs, t) =>
      let name := String.ofList cs
      match r.fields.find? fun f => f.name == name with
      | none =>
        match _hc : readColon t with
        | .error e => .error e
        | .ok t =>
          match _hp : Reader.pass.run t with
          | .error e => .error e
          | .ok (_, rest) => readMembers r room seen a false rest
      | some f =>
        if seen.contains name then .error ⟨.duplicateField name, passCloseObject t, 0⟩
        else
          match _hc : readColon t with
          | .error e => .error e
          | .ok t =>
            match _hr : (f.decoder room).run t with
            | .error e => .error e
            | .ok (set, rest) => readMembers r room (name :: seen) (set a) false rest
termination_by s.length
decreasing_by
  · have h1 := nextMember_shorter _hn
    have h2 := readString_shorter _hs
    have h3 := readColon_shorter _hc
    have h4 := Reader.pass.shorter _hp
    omega
  · have h1 := nextMember_shorter _hn
    have h2 := readString_shorter _hs
    have h3 := readColon_shorter _hc
    have h4 := (f.decoder room).shorter _hr
    omega

theorem readMembers_le {r : RecordType α} {room : Nat} {seen : List String} {a : α} {first : Bool}
    {s rest : List Char} {x : List String × α}
    (h : r.readMembers room seen a first s = .ok (x, rest)) : rest.length ≤ s.length := by
  fun_induction readMembers r room seen a first s with
  | case1 => simp at h
  | case2 =>
    simp only [Except.ok.injEq, Prod.mk.injEq] at h
    simp [h.2]
  | case3 => simp at h
  | case4 => simp at h
  | case5 => simp at h
  | case6 =>
    rename_i hn _ _ hs _ _ _ hc _ _ hp ih
    have h1 := nextMember_shorter hn
    have h2 := readString_shorter hs
    have h3 := readColon_shorter hc
    have h4 := Reader.pass.shorter hp
    have h5 := ih h
    omega
  | case7 => simp at h
  | case8 => simp at h
  | case9 => simp at h
  | case10 =>
    rename_i hn _ _ hs _ f _ _ _ hc _ _ hr ih
    have h1 := nextMember_shorter hn
    have h2 := readString_shorter hs
    have h3 := readColon_shorter hc
    have h4 := (f.decoder room).shorter hr
    have h5 := ih h
    omega

/-- The first field that has to be there and is not. -/
def missing (r : RecordType α) (seen : List String) : Option (Field α) :=
  r.fields.find? fun f => f.absence == .refused && !seen.contains f.name

/-- Read a record in the form of an object, whose opening bracket has been read. -/
def ofMembers (r : RecordType α) : Decoder α := fun room =>
  { run := fun s =>
      match r.readMembers room [] r.blank true s with
      | .error e => .error e
      | .ok ((seen, a), rest) =>
        match r.missing seen with
        | some f => .error ⟨.missingField f.name, passCloseObject rest, 0⟩
        | none =>
          match closeObject rest with
          | .error e => .error e
          | .ok rest => .ok (a, rest)
    shorter := fun {s a rest} h => by
      split at h
      · simp at h
      · rename_i h1
        have l1 := readMembers_le h1
        split at h
        · simp at h
        · split at h
          · simp at h
          · rename_i h2
            have l2 := closeObject_shorter h2
            simp only [Except.ok.injEq, Prod.mk.injEq] at h
            rw [← h.2]
            omega }

/-- Read a record in either form. -/
def decoder (r : RecordType α) : Decoder α := fun room =>
  .ofBrackets r.expected (some (Decoder.inside r.ofList room)) (some (Decoder.inside r.ofMembers room))

end RecordType

end ParseLens.Json
