import ParseLens.Json.Sequence

set_option autoImplicit false

/-!
# JSON: passing over a value

The value of a member that nobody asked for is passed over.  Its form is checked, but nothing is
kept, brackets may stand inside each other to any depth, and punctuation is checked in the order
in which it is met: behind a comma a value or a name is due, and anything else is not one.
-/

namespace ParseLens.Json

/-- Pass over the quote, the name and the colon of a member. -/
def passName (s : List Char) : Except Fault (List Char) :=
  match skipBlank s with
  | [] => .error ⟨.endInObject, [], 0⟩
  | '"' :: rest =>
    match passString rest with
    | .error e => .error e
    | .ok rest => readColon rest
  | t => .error ⟨.nameExpected, t, 1⟩

theorem passName_shorter {s rest : List Char} (h : passName s = .ok rest) :
    rest.length < s.length := by
  have h1 := length_skipBlank_le s
  unfold passName at h
  split at h
  · simp at h
  · rename_i he
    rw [he] at h1
    simp only [List.length_cons] at h1
    split at h
    · simp at h
    · rename_i hs
      have h2 := passString_shorter hs
      have h3 := readColon_shorter h
      omega
  · simp at h

/-- Pass over a value without brackets: a word, a string or a number. -/
def passAtom : List Char → Except Fault (List Char)
  | [] => .error ⟨.endInValue, [], 0⟩
  | 'n' :: s => readWord ['u', 'l', 'l'] s
  | 't' :: s => readWord ['r', 'u', 'e'] s
  | 'f' :: s => readWord ['a', 'l', 's', 'e'] s
  | '"' :: s => passString s
  | c :: s =>
    if c = '-' ∨ c.isDigit = true then passNumber (c :: s)
    else .error ⟨.valueExpected, c :: s, 1⟩

theorem passAtom_shorter {s rest : List Char} (h : passAtom s = .ok rest) :
    rest.length < s.length := by
  unfold passAtom at h
  split at h
  · simp at h
  · exact Nat.lt_succ_of_le (readWord_le h)
  · exact Nat.lt_succ_of_le (readWord_le h)
  · exact Nat.lt_succ_of_le (readWord_le h)
  · exact Nat.lt_succ_of_lt (passString_shorter h)
  · split at h
    · exact passNumber_shorter h
    · simp at h

/-- A text behind which less is left than there is of `s`. -/
abbrev Shorter (s : List Char) : Type := { rest : List Char // rest.length < s.length }

/-- The text behind a character that stands behind white space. -/
def Shorter.behind {s t rest : List Char} {c : Char} (h : skipBlank t = c :: rest)
    (ht : t.length ≤ s.length) : Shorter s :=
  ⟨rest, by
    have := length_skipBlank_le t
    rw [h] at this
    exact Nat.lt_of_lt_of_le this ht⟩

/-- A text that is shorter than a part of `s`. -/
def Shorter.weaken {s t : List Char} (ht : t.length ≤ s.length) (rest : Shorter t) : Shorter s :=
  ⟨rest.1, Nat.lt_of_lt_of_le rest.2 ht⟩

mutual

/-- Pass over a value. -/
def passValue (s : List Char) : Except Fault (Shorter s) :=
  match hs : skipBlank s with
  | '[' :: t =>
    have ht := (Shorter.behind hs (Nat.le_refl s.length)).2
    match hk : skipBlank t with
    | [] => .error ⟨.endInList, [], 0⟩
    | ']' :: _ => .ok (.behind hk (Nat.le_of_lt ht))
    | _ =>
      match passElements t with
      | .error e => .error e
      | .ok rest => .ok (rest.weaken (Nat.le_of_lt ht))
  | '{' :: t =>
    have ht := (Shorter.behind hs (Nat.le_refl s.length)).2
    match hk : skipBlank t with
    | [] => .error ⟨.endInObject, [], 0⟩
    | '}' :: _ => .ok (.behind hk (Nat.le_of_lt ht))
    | _ =>
      match passMembers t with
      | .error e => .error e
      | .ok rest => .ok (rest.weaken (Nat.le_of_lt ht))
  | t =>
    match h : passAtom t with
    | .error e => .error e
    | .ok rest =>
      .ok ⟨rest, by
        have h1 := passAtom_shorter h
        have h2 := length_skipBlank_le s
        rw [hs] at h2
        omega⟩
termination_by (s.length, 0)

/-- Pass over an element and what follows it, up to the closing bracket. -/
def passElements (s : List Char) : Except Fault (Shorter s) :=
  match passValue s with
  | .error e => .error e
  | .ok ⟨t, ht⟩ =>
    match hs : skipBlank t with
    | [] => .error ⟨.endInList, [], 0⟩
    | ']' :: _ => .ok (.behind hs (Nat.le_of_lt ht))
    | ',' :: rest =>
      have hr := (Shorter.behind hs (Nat.le_of_lt ht)).2
      match passElements rest with
      | .error e => .error e
      | .ok rest => .ok (rest.weaken (Nat.le_of_lt hr))
    | t => .error ⟨.listEndExpected, t, 1⟩
termination_by (s.length, 1)

/-- Pass over a member and what follows it, up to the closing bracket. -/
def passMembers (s : List Char) : Except Fault (Shorter s) :=
  match hn : passName s with
  | .error e => .error e
  | .ok v =>
    have hv := passName_shorter hn
    match passValue v with
    | .error e => .error e
    | .ok ⟨t, ht⟩ =>
      have ht' : t.length ≤ s.length := by omega
      match hs : skipBlank t with
      | [] => .error ⟨.endInObject, [], 0⟩
      | '}' :: _ => .ok (.behind hs ht')
      | ',' :: rest =>
        have hr := (Shorter.behind hs ht').2
        match passMembers rest with
        | .error e => .error e
        | .ok rest => .ok (rest.weaken (Nat.le_of_lt hr))
      | t => .error ⟨.objectEndExpected, t, 1⟩
termination_by (s.length, 1)

end

/-- The reader that passes over a value. -/
def Reader.pass : Reader Unit where
  run s :=
    match passValue s with
    | .error e => .error e
    | .ok rest => .ok ((), rest.1)
  shorter {s a rest} h := by
    split at h
    · simp at h
    · rename_i r _
      simp only [Except.ok.injEq, Prod.mk.injEq] at h
      exact h.2 ▸ r.2

end ParseLens.Json
