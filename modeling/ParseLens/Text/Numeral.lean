set_option autoImplicit false

/-!
# Text: numerals

Decimal numerals of natural numbers: written without leading zeros, read with any number of them.
A numeral that names a machine word may also carry one plus sign.  `natural?_toDigits` says that
what is written reads back.
-/

namespace ParseLens.Text

/-- The value of a run of ASCII digits; nothing else, and not the empty text, is a numeral. -/
def natural? (s : List Char) : Option Nat :=
  if s ≠ [] ∧ s.all Char.isDigit then some (Nat.ofDigitChars 10 s 0) else none

theorem natural?_eq_some_iff {s : List Char} {n : Nat} :
    natural? s = some n ↔ s ≠ [] ∧ (∀ c ∈ s, c.isDigit = true) ∧ Nat.ofDigitChars 10 s 0 = n := by
  simp only [natural?, List.all_eq_true]
  split <;> rename_i h
  · exact ⟨fun hn => ⟨h.1, h.2, Option.some.inj hn⟩, fun hn => congrArg some hn.2.2⟩
  · simp only [reduceCtorEq, false_iff]
    exact fun hn => h ⟨hn.1, hn.2.1⟩

theorem natural?_toDigits (n : Nat) : natural? (Nat.toDigits 10 n) = some n := by
  refine natural?_eq_some_iff.2 ⟨Nat.toDigits_ne_nil, fun c hc => ?_, ?_⟩
  · exact Nat.isDigit_of_mem_toDigits (by decide) (by decide) hc
  · exact Nat.ofDigitChars_toDigits (by decide) (by decide)

/-- Only digits are written for a number. -/
theorem not_mem_toDigits {c : Char} (h : c.isDigit = false) (n : Nat) : c ∉ Nat.toDigits 10 n := by
  intro hmem
  have hdigit : c.isDigit = true := Nat.isDigit_of_mem_toDigits (by decide) (by decide) hmem
  simp [h] at hdigit

/-- A text without the plus sign it may start with. -/
def dropPlus : List Char → List Char
  | '+' :: s => s
  | s => s

/-- The word of 64 bits that a numeral names, if it has at most that size. -/
def word? (s : List Char) : Option UInt64 :=
  match natural? (dropPlus s) with
  | none => none
  | some n => if n < UInt64.size then some (UInt64.ofNat n) else none

theorem word?_toDigits (n : UInt64) : word? (Nat.toDigits 10 n.toNat) = some n := by
  have hplus : dropPlus (Nat.toDigits 10 n.toNat) = Nat.toDigits 10 n.toNat := by
    unfold dropPlus
    split <;> rename_i h
    · have hplus : '+' ∉ Nat.toDigits 10 n.toNat := not_mem_toDigits (by decide) _
      simp [h] at hplus
    · rfl
  simp [word?, hplus, natural?_toDigits, n.toNat_lt_size]

example : word? "+007".toList = some 7 ∧ word? "18446744073709551616".toList = none := by decide

end ParseLens.Text
