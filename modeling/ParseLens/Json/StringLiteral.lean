import ParseLens.Json.Reader

set_option autoImplicit false

/-!
# JSON: reading string literals

The characters between the quotes of a string literal, with their escapes undone.  A character
outside the basic plane may be escaped by a pair of surrogates; half a pair is refused.

A literal whose value is not wanted is read more leniently (`passString`): its escapes have to be
well formed, but surrogates need not come in pairs.
-/

namespace ParseLens.Json

/-! ## Four hexadecimal digits -/

/-- The value of a hexadecimal digit of either case. -/
def hexDigit? (c : Char) : Option Nat :=
  if c.isDigit then some (c.toNat - '0'.toNat)
  else if 'a' ≤ c ∧ c ≤ 'f' then some (c.toNat - 'a'.toNat + 10)
  else if 'A' ≤ c ∧ c ≤ 'F' then some (c.toNat - 'A'.toNat + 10)
  else none

/-- The value of four hexadecimal digits. -/
def hexValue? (a b c d : Char) : Option Nat := do
  let a ← hexDigit? a
  let b ← hexDigit? b
  let c ← hexDigit? c
  let d ← hexDigit? d
  return ((a * 16 + b) * 16 + c) * 16 + d

/-- Read the four digits of an escape.  They are looked for in the next four bytes: where the text
is shorter it is the end that is at fault. -/
def readHex (s : List Char) : Outcome Nat :=
  if byteLength s < 4 then .error ⟨.endInString, [], 0⟩
  else
    match s with
    | a :: b :: c :: d :: rest =>
      match hexValue? a b c d with
      | some n => .ok (n, rest)
      | none => .error ⟨.invalidEscape, s, 4⟩
    | _ => .error ⟨.invalidEscape, s, 4⟩

theorem readHex_shorter {s rest : List Char} {n : Nat} (h : readHex s = .ok (n, rest)) :
    rest.length < s.length := by
  unfold readHex at h
  split at h
  · simp at h
  · split at h
    · split at h
      · simp only [Except.ok.injEq, Prod.mk.injEq] at h
        rw [← h.2]
        simp only [List.length_cons]
        omega
      · simp at h
    · simp at h

/-! ## Escapes -/

/-- The character that two halves of a pair stand for. -/
def joinSurrogates (high low : Nat) : Char :=
  Char.ofNat ((high - 0xD800) * 0x400 + (low - 0xDC00) + 0x10000)

/-- Read what follows the first half of a pair: a backslash, the letter `u` and the second half. -/
def readSecondHalf (high : Nat) : List Char → Outcome Char
  | '\\' :: 'u' :: rest =>
    match readHex rest with
    | .error e => .error e
    | .ok (low, rest) =>
      if 0xDC00 ≤ low ∧ low ≤ 0xDFFF then .ok (joinSurrogates high low, rest)
      else .error ⟨.loneSurrogate, rest, 0⟩
  | ['\\'] => .error ⟨.endInString, [], 0⟩
  | '\\' :: rest => .error ⟨.secondEscapeExpected, rest, 1⟩
  | [] => .error ⟨.endInString, [], 0⟩
  | s => .error ⟨.secondEscapeExpected, s, 1⟩

theorem readSecondHalf_shorter {high : Nat} {s rest : List Char} {c : Char}
    (h : readSecondHalf high s = .ok (c, rest)) : rest.length < s.length := by
  unfold readSecondHalf at h
  split at h
  · split at h
    · simp at h
    · rename_i hx
      split at h
      · simp only [Except.ok.injEq, Prod.mk.injEq] at h
        have := readHex_shorter hx
        rw [← h.2]
        simp only [List.length_cons]
        omega
      · simp at h
  all_goals simp at h

/-- Read an escape whose backslash has been read. -/
def readEscape : List Char → Outcome Char
  | [] => .error ⟨.endInString, [], 0⟩
  | '"' :: rest => .ok ('"', rest)
  | '\\' :: rest => .ok ('\\', rest)
  | '/' :: rest => .ok ('/', rest)
  | 'b' :: rest => .ok ('\x08', rest)
  | 'f' :: rest => .ok ('\x0c', rest)
  | 'n' :: rest => .ok ('\n', rest)
  | 'r' :: rest => .ok ('\r', rest)
  | 't' :: rest => .ok ('\t', rest)
  | 'u' :: rest =>
    match readHex rest with
    | .error e => .error e
    | .ok (n, rest) =>
      if 0xDC00 ≤ n ∧ n ≤ 0xDFFF then .error ⟨.loneSurrogate, rest, 0⟩
      else if 0xD800 ≤ n ∧ n ≤ 0xDBFF then readSecondHalf n rest
      else .ok (Char.ofNat n, rest)
  | s => .error ⟨.invalidEscape, s, 1⟩

theorem readEscape_shorter {s rest : List Char} {c : Char} (h : readEscape s = .ok (c, rest)) :
    rest.length < s.length := by
  unfold readEscape at h
  split at h
  case h_10 =>
    split at h
    · simp at h
    · rename_i hx
      have hs := readHex_shorter hx
      split at h
      · simp at h
      · split at h
        · have := readSecondHalf_shorter h
          simp only [List.length_cons]
          omega
        · simp only [Except.ok.injEq, Prod.mk.injEq] at h
          rw [← h.2]
          simp only [List.length_cons]
          omega
  all_goals first
    | (simp only [Except.ok.injEq, Prod.mk.injEq] at h; rw [← h.2]; simp)
    | simp at h

/-! ## Literals -/

/-- Put a character in front of the text that was read. -/
def consRead (c : Char) : Outcome (List Char) → Outcome (List Char)
  | .error e => .error e
  | .ok (cs, rest) => .ok (c :: cs, rest)

/-- Read the characters of a literal whose opening quote has been read, and the closing quote. -/
def readString (s : List Char) : Outcome (List Char) :=
  match s with
  | [] => .error ⟨.endInString, [], 0⟩
  | '"' :: rest => .ok ([], rest)
  | '\\' :: rest =>
    match _h : readEscape rest with
    | .error e => .error e
    | .ok (c, rest') => consRead c (readString rest')
  | c :: rest =>
    if c.toNat < 0x20 then .error ⟨.controlCharacter, c :: rest, 1⟩
    else consRead c (readString rest)
termination_by s.length
decreasing_by
  · have := readEscape_shorter _h
    simp only [List.length_cons]
    omega
  · simp

theorem consRead_eq_ok {c : Char} {o : Outcome (List Char)} {cs rest : List Char}
    (h : consRead c o = .ok (cs, rest)) : ∃ ds, o = .ok (ds, rest) ∧ cs = c :: ds := by
  match o, h with
  | .error e, h => simp [consRead] at h
  | .ok (ds, r), h =>
    simp only [consRead, Except.ok.injEq, Prod.mk.injEq] at h
    exact ⟨ds, by rw [h.2], h.1.symm⟩

theorem readString_shorter {s cs rest : List Char} (h : readString s = .ok (cs, rest)) :
    rest.length < s.length := by
  fun_induction readString s generalizing cs with
  | case1 => simp at h
  | case2 r =>
    simp only [Except.ok.injEq, Prod.mk.injEq] at h
    rw [← h.2]
    simp
  | case3 => simp at h
  | case4 r c r' he ih =>
    obtain ⟨ds, hd, -⟩ := consRead_eq_ok h
    have h1 := readEscape_shorter he
    have h2 := ih hd
    simp only [List.length_cons]
    omega
  | case5 => simp at h
  | case6 c r _ _ _ ih =>
    obtain ⟨ds, hd, -⟩ := consRead_eq_ok h
    have h2 := ih hd
    simp only [List.length_cons]
    omega

/-! ## Literals that are passed over -/

/-- Pass over an escape whose backslash has been read. -/
def passEscape : List Char → Except Fault (List Char)
  | [] => .error ⟨.endInString, [], 0⟩
  | 'u' :: rest =>
    match readHex rest with
    | .error e => .error e
    | .ok (_, rest) => .ok rest
  | c :: rest =>
    if ['"', '\\', '/', 'b', 'f', 'n', 'r', 't'].contains c then .ok rest
    else .error ⟨.invalidEscape, c :: rest, 1⟩

theorem passEscape_shorter {s rest : List Char} (h : passEscape s = .ok rest) :
    rest.length < s.length := by
  unfold passEscape at h
  split at h
  · simp at h
  · split at h
    · simp at h
    · rename_i hx
      simp only [Except.ok.injEq] at h
      have := readHex_shorter hx
      simp only [List.length_cons, ← h]
      omega
  · split at h
    · simp only [Except.ok.injEq] at h
      simp [← h]
    · simp at h

/-- Pass over the rest of a literal whose opening quote has been read. -/
def passString (s : List Char) : Except Fault (List Char) :=
  match s with
  | [] => .error ⟨.endInString, [], 0⟩
  | '"' :: rest => .ok rest
  | '\\' :: rest =>
    match _h : passEscape rest with
    | .error e => .error e
    | .ok rest' => passString rest'
  | c :: rest =>
    if c.toNat < 0x20 then .error ⟨.controlCharacter, c :: rest, 0⟩
    else passString rest
termination_by s.length
decreasing_by
  · have := passEscape_shorter _h
    simp only [List.length_cons]
    omega
  · simp

theorem passString_shorter {s rest : List Char} (h : passString s = .ok rest) :
    rest.length < s.length := by
  fun_induction passString s with
  | case1 => simp at h
  | case2 r =>
    simp only [Except.ok.injEq] at h
    simp [h]
  | case3 => simp at h
  | case4 r r' he ih =>
    have h1 := passEscape_shorter he
    have h2 := ih h
    simp only [List.length_cons]
    omega
  | case5 => simp at h
  | case6 c r _ _ _ ih =>
    have h2 := ih h
    simp only [List.length_cons]
    omega

end ParseLens.Json
