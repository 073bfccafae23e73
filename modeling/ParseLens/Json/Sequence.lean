import ParseLens.Json.Head

set_option autoImplicit false

/-!
# JSON: elements and members

What stands between brackets: elements or members with commas between them.  The readers here know
the punctuation; what an element is, or what the value of a member is, they are told.

A loop over elements stops in front of the closing bracket, and a separate step reads that
bracket (`closeList`, `closeObject`).  A value that has all the elements it can take is closed in
the same way, and then whatever else stands there is left over.
-/

namespace ParseLens.Json

variable {α : Type}

/-! ## Punctuation -/

/-- Look for the next element of an array: the text it starts at, or none in front of the closing
bracket. -/
def nextElement (first : Bool) (s : List Char) : Except Fault (Option (List Char)) :=
  match skipBlank s with
  | [] => .error ⟨.endInList, [], 0⟩
  | ']' :: _ => .ok none
  | c :: rest =>
    if first then .ok (some (c :: rest))
    else if c = ',' then
      match skipBlank rest with
      | [] => .error ⟨.endInValue, [], 0⟩
      | ']' :: rest => .error ⟨.trailingComma, ']' :: rest, 1⟩
      | t => .ok (some t)
    else .error ⟨.listEndExpected, c :: rest, 1⟩

/-- Look for the next member of an object: the text behind the quote that opens its name, or none
in front of the closing bracket. -/
def nextMember (first : Bool) (s : List Char) : Except Fault (Option (List Char)) :=
  match skipBlank s with
  | [] => .error ⟨.endInObject, [], 0⟩
  | '}' :: _ => .ok none
  | c :: rest =>
    if first then
      if c = '"' then .ok (some rest) else .error ⟨.nameExpected, c :: rest, 1⟩
    else if c = ',' then
      match skipBlank rest with
      | [] => .error ⟨.endInValue, [], 0⟩
      | '"' :: t => .ok (some t)
      | '}' :: t => .error ⟨.trailingComma, '}' :: t, 1⟩
      | t => .error ⟨.nameExpected, t, 1⟩
    else .error ⟨.objectEndExpected, c :: rest, 1⟩

/-- Read the colon between the name and the value of a member. -/
def readColon (s : List Char) : Except Fault (List Char) :=
  match skipBlank s with
  | [] => .error ⟨.endInObject, [], 0⟩
  | ':' :: rest => .ok rest
  | t => .error ⟨.colonExpected, t, 1⟩

/-- Read the bracket that closes an array. -/
def closeList (s : List Char) : Except Fault (List Char) :=
  match skipBlank s with
  | [] => .error ⟨.endInList, [], 0⟩
  | ']' :: rest => .ok rest
  | ',' :: rest =>
    match skipBlank rest with
    | ']' :: t => .error ⟨.trailingComma, ']' :: t, 1⟩
    | t => .error ⟨.trailingCharacters, t, 1⟩
  | t => .error ⟨.trailingCharacters, t, 1⟩

/-- Read the bracket that closes an object. -/
def closeObject (s : List Char) : Except Fault (List Char) :=
  match skipBlank s with
  | [] => .error ⟨.endInObject, [], 0⟩
  | '}' :: rest => .ok rest
  | ',' :: rest => .error ⟨.trailingComma, ',' :: rest, 1⟩
  | t => .error ⟨.trailingCharacters, t, 1⟩

theorem nextElement_le {first : Bool} {s t : List Char} (h : nextElement first s = .ok (some t)) :
    t.length ≤ s.length := by
  have h1 := length_skipBlank_le s
  unfold nextElement at h
  split at h
  · simp at h
  · simp at h
  · rename_i c rest _ he
    rw [he] at h1
    split at h
    · simp only [Except.ok.injEq, Option.some.injEq] at h
      exact h ▸ h1
    · split at h
      · have h2 := length_skipBlank_le rest
        split at h
        · simp at h
        · simp at h
        · simp only [Except.ok.injEq, Option.some.injEq] at h
          rw [← h]
          simp only [List.length_cons] at h1
          omega
      · simp at h

theorem nextMember_shorter {first : Bool} {s t : List Char}
    (h : nextMember first s = .ok (some t)) : t.length < s.length := by
  have h1 := length_skipBlank_le s
  unfold nextMember at h
  split at h
  · simp at h
  · simp at h
  · rename_i c rest _ he
    rw [he] at h1
    simp only [List.length_cons] at h1
    split at h
    · split at h
      · simp only [Except.ok.injEq, Option.some.injEq] at h
        rw [← h]
        omega
      · simp at h
    · split at h
      · have h2 := length_skipBlank_le rest
        split at h
        · simp at h
        · rename_i t' ht
          simp only [Except.ok.injEq, Option.some.injEq] at h
          rw [ht] at h2
          simp only [List.length_cons] at h2
          rw [← h]
          omega
        · simp at h
        · simp at h
      · simp at h

theorem readColon_shorter {s t : List Char} (h : readColon s = .ok t) : t.length < s.length := by
  have h1 := length_skipBlank_le s
  unfold readColon at h
  split at h
  · simp at h
  · rename_i rest he
    simp only [Except.ok.injEq] at h
    rw [he] at h1
    simp only [List.length_cons] at h1
    rw [← h]
    omega
  · simp at h

theorem closeList_shorter {s t : List Char} (h : closeList s = .ok t) : t.length < s.length := by
  have h1 := length_skipBlank_le s
  unfold closeList at h
  split at h
  · simp at h
  · rename_i rest he
    simp only [Except.ok.injEq] at h
    rw [he] at h1
    simp only [List.length_cons] at h1
    rw [← h]
    omega
  · split at h <;> simp at h
  · simp at h

theorem closeObject_shorter {s t : List Char} (h : closeObject s = .ok t) :
    t.length < s.length := by
  have h1 := length_skipBlank_le s
  unfold closeObject at h
  split at h
  · simp at h
  · rename_i rest he
    simp only [Except.ok.injEq] at h
    rw [he] at h1
    simp only [List.length_cons] at h1
    rw [← h]
    omega
  · simp at h
  · simp at h

/-- A place where a closing bracket of an object may stand: the text behind it if it does, else
the text from the first character on that is not white space. -/
def passCloseObject (s : List Char) : List Char :=
  match skipBlank s with
  | '}' :: rest => rest
  | t => t

/-- The same for the closing bracket of an array. -/
def passCloseList (s : List Char) : List Char :=
  match skipBlank s with
  | ']' :: rest => rest
  | t => t

/-! ## All elements -/

/-- Read elements up to the closing bracket. -/
def readElements (element : Reader α) (first : Bool) (s : List Char) : Outcome (List α) :=
  match _hn : nextElement first s with
  | .error e => .error e
  | .ok none => .ok ([], s)
  | .ok (some t) =>
    match _hr : element.run t with
    | .error e => .error e
    | .ok (a, rest) =>
      match readElements element false rest with
      | .error e => .error e
      | .ok (as, rest) => .ok (a :: as, rest)
termination_by s.length
decreasing_by
  have h1 := nextElement_le _hn
  have h2 := element.shorter _hr
  omega

theorem readElements_le {element : Reader α} {first : Bool} {s rest : List Char} {as : List α}
    (h : readElements element first s = .ok (as, rest)) : rest.length ≤ s.length := by
  fun_induction readElements element first s generalizing as rest with
  | case1 => simp at h
  | case2 =>
    simp only [Except.ok.injEq, Prod.mk.injEq] at h
    simp [h.2]
  | case3 => simp at h
  | case4 => simp at h
  | case5 first s t hn a r hr as' r' he ih =>
    simp only [Except.ok.injEq, Prod.mk.injEq] at h
    have h1 := nextElement_le hn
    have h2 := element.shorter hr
    have h3 := ih he
    rw [← h.2]
    omega

/-- Read the elements of an array whose opening bracket has been read, and the closing one. -/
def Reader.elements (element : Reader α) : Reader (List α) where
  run s :=
    match readElements element true s with
    | .error e => .error e
    | .ok (as, rest) =>
      match closeList rest with
      | .error e => .error e
      | .ok rest => .ok (as, rest)
  shorter {s as rest} h := by
    split at h
    · simp at h
    · rename_i he
      have h1 := readElements_le he
      split at h
      · simp at h
      · rename_i hc
        have h2 := closeList_shorter hc
        simp only [Except.ok.injEq, Prod.mk.injEq] at h
        rw [← h.2]
        omega

/-! ## All members -/

/-- Read the name of a member, whose opening quote has been read, and the colon. -/
def readName (s : List Char) : Outcome String :=
  match readString s with
  | .error e => .error e
  | .ok (cs, rest) =>
    match readColon rest with
    | .error e => .error e
    | .ok rest => .ok (String.ofList cs, rest)

theorem readName_shorter {s rest : List Char} {name : String}
    (h : readName s = .ok (name, rest)) : rest.length < s.length := by
  unfold readName at h
  split at h
  · simp at h
  · rename_i hs
    have h1 := readString_shorter hs
    split at h
    · simp at h
    · rename_i hc
      have h2 := readColon_shorter hc
      simp only [Except.ok.injEq, Prod.mk.injEq] at h
      rw [← h.2]
      omega

/-- Read members up to the closing bracket. -/
def readMembers (value : Reader α) (first : Bool) (s : List Char) : Outcome (List (String × α)) :=
  match _hn : nextMember first s with
  | .error e => .error e
  | .ok none => .ok ([], s)
  | .ok (some t) =>
    match _hs : readName t with
    | .error e => .error e
    | .ok (name, t) =>
      match _hr : value.run t with
      | .error e => .error e
      | .ok (a, rest) =>
        match readMembers value false rest with
        | .error e => .error e
        | .ok (ms, rest) => .ok ((name, a) :: ms, rest)
termination_by s.length
decreasing_by
  have h1 := nextMember_shorter _hn
  have h2 := readName_shorter _hs
  have h3 := value.shorter _hr
  omega

theorem readMembers_le {value : Reader α} {first : Bool} {s rest : List Char}
    {ms : List (String × α)} (h : readMembers value first s = .ok (ms, rest)) :
    rest.length ≤ s.length := by
  fun_induction readMembers value first s generalizing ms rest with
  | case1 => simp at h
  | case2 =>
    simp only [Except.ok.injEq, Prod.mk.injEq] at h
    simp [h.2]
  | case3 => simp at h
  | case4 => simp at h
  | case5 => simp at h
  | case6 first s t hn name t' hs a r hr ms' r' he ih =>
    simp only [Except.ok.injEq, Prod.mk.injEq] at h
    have h1 := nextMember_shorter hn
    have h2 := readName_shorter hs
    have h3 := value.shorter hr
    have h4 := ih he
    rw [← h.2]
    omega

/-- Read the members of an object whose opening bracket has been read, and the closing one. -/
def Reader.members (value : Reader α) : Reader (List (String × α)) where
  run s :=
    match readMembers value true s with
    | .error e => .error e
    | .ok (ms, rest) =>
      match closeObject rest with
      | .error e => .error e
      | .ok rest => .ok (ms, rest)
  shorter {s ms rest} h := by
    split at h
    · simp at h
    · rename_i he
      have h1 := readMembers_le he
      split at h
      · simp at h
      · rename_i hc
        have h2 := closeObject_shorter hc
        simp only [Except.ok.injEq, Prod.mk.injEq] at h
        rw [← h.2]
        omega

end ParseLens.Json
