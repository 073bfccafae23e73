import Mathlib.Tactic.SplitIfs
import ParseLens.Json.Head
import ParseLens.Json.Print

set_option autoImplicit false

/-!
# JSON: written strings read back

A string literal that was written reads as the string it was written from, whatever follows it.
One lemma says so for one character (`readString_escapeChar`): it is the only place where the three
ways to write a character meet the ways to read one.
-/

namespace ParseLens.Json

/-! ## Escapes -/

theorem hexDigit?_digitChar {n : Nat} (h : n < 16) : hexDigit? (Nat.digitChar n) = some n := by
  revert n
  decide

/-- The four digits that stand for a control character. -/
theorem readHex_control {n : Nat} (h : n < 0x20) (rest : List Char) :
    readHex ('0' :: '0' :: Nat.digitChar (n / 16) :: Nat.digitChar (n % 16) :: rest) =
      .ok (n, rest) := by
  have hlen : ¬ byteLength
      ('0' :: '0' :: Nat.digitChar (n / 16) :: Nat.digitChar (n % 16) :: rest) < 4 := by
    have h1 := Char.utf8Size_pos (Nat.digitChar (n / 16))
    have h2 := Char.utf8Size_pos (Nat.digitChar (n % 16))
    have h0 : Char.utf8Size '0' = 1 := rfl
    simp only [byteLength, List.foldr_cons, h0]
    omega
  have h0 : hexDigit? '0' = some 0 := rfl
  have hhigh : hexDigit? (Nat.digitChar (n / 16)) = some (n / 16) :=
    hexDigit?_digitChar (by omega)
  have hlow : hexDigit? (Nat.digitChar (n % 16)) = some (n % 16) :=
    hexDigit?_digitChar (Nat.mod_lt n (by decide))
  have hvalue : hexValue? '0' '0' (Nat.digitChar (n / 16)) (Nat.digitChar (n % 16)) = some n := by
    simp only [hexValue?, h0, hhigh, hlow, Option.bind_eq_bind, Option.bind_some, Option.pure_def,
      Option.some.injEq]
    omega
  simp only [readHex, hlen, if_false, hvalue]

theorem readEscape_control {c : Char} (h : c.toNat < 0x20) (rest : List Char) :
    readEscape ('u' :: '0' :: '0' :: Nat.digitChar (c.toNat / 16) ::
      Nat.digitChar (c.toNat % 16) :: rest) = .ok (c, rest) := by
  have hlow : ¬ (0xDC00 ≤ c.toNat ∧ c.toNat ≤ 0xDFFF) := by omega
  have hhigh : ¬ (0xD800 ≤ c.toNat ∧ c.toNat ≤ 0xDBFF) := by omega
  simp only [readEscape, readHex_control h, hlow, hhigh, if_false, Char.ofNat_toNat]

/-! ## Literals -/

theorem readString_backslash {rest rest' : List Char} {c : Char}
    (h : readEscape rest = .ok (c, rest')) :
    readString ('\\' :: rest) = consRead c (readString rest') := by
  rw [readString]
  split
  · rename_i he
    rw [h] at he
    simp at he
  · rename_i he
    rw [h] at he
    simp only [Except.ok.injEq, Prod.mk.injEq] at he
    rw [he.1, he.2]

theorem readString_plain {c : Char} (hquote : c ≠ '"') (hslash : c ≠ '\\')
    (hcontrol : ¬ c.toNat < 0x20) (rest : List Char) :
    readString (c :: rest) = consRead c (readString rest) := by
  rw [readString]
  · simp [hcontrol]
  · exact hquote
  · exact hslash

/-- A character that was written, escaped or not, is read. -/
theorem readString_escapeChar (c : Char) (rest : List Char) :
    readString (escapeChar c ++ rest) = consRead c (readString rest) := by
  unfold escapeChar
  split_ifs with hquote hslash hback hfeed hline hreturn htab hcontrol
  · exact readString_backslash (by rw [hquote]; rfl)
  · exact readString_backslash (by rw [hslash]; rfl)
  · exact readString_backslash (by rw [hback]; rfl)
  · exact readString_backslash (by rw [hfeed]; rfl)
  · exact readString_backslash (by rw [hline]; rfl)
  · exact readString_backslash (by rw [hreturn]; rfl)
  · exact readString_backslash (by rw [htab]; rfl)
  · exact readString_backslash (readEscape_control hcontrol rest)
  · exact readString_plain hquote hslash hcontrol rest

theorem readString_flatMap_escapeChar (cs rest : List Char) :
    readString (cs.flatMap escapeChar ++ '"' :: rest) = .ok (cs, rest) := by
  induction cs with
  | nil =>
    rw [List.flatMap_nil, List.nil_append, readString]
  | cons c cs ih =>
    rw [List.flatMap_cons, List.append_assoc, readString_escapeChar, ih]
    rfl

/-- Behind its opening quote a literal reads as its string. -/
theorem readString_literal (s : String) (rest : List Char) :
    ∃ t, literal s ++ rest = '"' :: t ∧ readString t = .ok (s.toList, rest) :=
  ⟨s.toList.flatMap escapeChar ++ '"' :: rest, by simp [literal],
    readString_flatMap_escapeChar s.toList rest⟩

theorem readHead_literal (s : String) (rest : List Char) :
    readHead (literal s ++ rest) = .ok (.string s, rest) := by
  obtain ⟨t, ht, hread⟩ := readString_literal s rest
  rw [ht]
  simp [readHead, hread]

end ParseLens.Json
