import ParseLens.Json.Tree

set_option autoImplicit false

/-!
# JSON: decoders

Readers for the values that the documents of this library are made of: texts, machine words, lists,
maps and pairs.  Each names what it expects in the words that a message has for it.

`Decoder.decode` reads a whole document and words its fault.
-/

namespace ParseLens.Json

namespace Decoder

variable {α β : Type}

/-- Change the value that was read. -/
def map (f : α → β) (d : Decoder α) : Decoder β := fun room => (d room).map f

/-! ## Values without parts -/

/-- A text. -/
def text : Decoder String := fun _ =>
  .ofHead fun
    | .string s => .ok s
    | head => .error (.wrongKind head.found "a string")

/-- A text, or nothing in the form of `null`. -/
def optionalText : Decoder (Option String) := fun _ =>
  .ofHead fun
    | .null => .ok none
    | .string s => .ok (some s)
    | head => .error (.wrongKind head.found "a string")

/-- An integer that `make?` accepts. -/
def integer (expected : String) (make? : Int → Option α) : Decoder α := fun _ =>
  .ofHead fun
    | .number (.int n) =>
      match make? n with
      | some a => .ok a
      | none => .error (.wrongValue (.number (.int n)) expected)
    | head => .error (.wrongKind head.found expected)

/-- A natural number of at most 64 bits. -/
def word64 (expected : String) : Decoder UInt64 :=
  integer expected fun n =>
    if 0 ≤ n ∧ n.toNat < UInt64.size then some (UInt64.ofNat n.toNat) else none

/-- A natural number of at most 32 bits. -/
def word32 : Decoder UInt32 :=
  integer "u32" fun n => if 0 ≤ n ∧ n.toNat < UInt32.size then some (UInt32.ofNat n.toNat) else none

/-- An integer of at most 64 bits, its sign included. -/
def int64 : Decoder Int64 :=
  integer "i64" fun n =>
    if Int64.minValue.toInt ≤ n ∧ n ≤ Int64.maxValue.toInt then some (Int64.ofInt n) else none

/-! ## Lists, maps and pairs -/

/-- A list. -/
def list (element : Decoder α) : Decoder (List α) := fun room =>
  .ofBrackets "a sequence" (some (inside (fun room => (element room).elements) room)) none

/-- A map from names; a name that is there twice has its first place and its last value. -/
def orderedMap (value : Decoder α) : Decoder (OrderedMap α) := fun room =>
  .ofBrackets "a map" none
    (some (inside (fun room => (value room).members.map OrderedMap.ofList) room))

/-- Read the two elements of a pair, whose opening bracket has been read, and the closing
bracket. -/
def readPair (first : Reader α) (second : Reader β) (s : List Char) : Outcome (α × β) :=
  let short (n : Nat) (s : List Char) : Outcome (α × β) :=
    .error ⟨.wrongLength n "a tuple of size 2", passCloseList s, 0⟩
  match nextElement true s with
  | .error e => .error e
  | .ok none => short 0 s
  | .ok (some t) =>
    match first.run t with
    | .error e => .error e
    | .ok (a, s) =>
      match nextElement false s with
      | .error e => .error e
      | .ok none => short 1 s
      | .ok (some t) =>
        match second.run t with
        | .error e => .error e
        | .ok (b, s) =>
          match closeList s with
          | .error e => .error e
          | .ok rest => .ok ((a, b), rest)

theorem readPair_shorter {first : Reader α} {second : Reader β} {s rest : List Char} {p : α × β}
    (h : readPair first second s = .ok (p, rest)) : rest.length < s.length := by
  unfold readPair at h
  simp only at h
  split at h
  · simp at h
  · simp at h
  · rename_i h1
    split at h
    · simp at h
    · rename_i h2
      split at h
      · simp at h
      · simp at h
      · rename_i h3
        split at h
        · simp at h
        · rename_i h4
          split at h
          · simp at h
          · rename_i h5
            have l1 := nextElement_le h1
            have l2 := first.shorter h2
            have l3 := nextElement_le h3
            have l4 := second.shorter h4
            have l5 := closeList_shorter h5
            simp only [Except.ok.injEq, Prod.mk.injEq] at h
            rw [← h.2]
            omega

/-- A pair, in the form of a list of two elements. -/
def pair (first : Decoder α) (second : Decoder β) : Decoder (α × β) := fun room =>
  .ofBrackets "a tuple of size 2"
    (some (inside (fun room => ⟨readPair (first room) (second room), readPair_shorter⟩) room)) none

/-! ## Documents -/

/-- Read a document: one value, and nothing but white space after it. -/
def document (d : Decoder α) (text : List Char) : Except Fault α :=
  match (d maxDepth).run text with
  | .error e => .error e
  | .ok (a, rest) =>
    match skipBlank rest with
    | [] => .ok a
    | t => .error ⟨.trailingCharacters, t, 1⟩

/-- Decode a document, or give the message that says why not. -/
def decode (d : Decoder α) (text : String) : Except String α :=
  match d.document text.toList with
  | .ok a => .ok a
  | .error fault => .error (fault.message text.toList)

theorem decode_of_document {d : Decoder α} {text : String} {a : α}
    (h : d.document text.toList = .ok a) : d.decode text = .ok a := by
  simp [decode, h]

end Decoder

end ParseLens.Json
