import Mathlib.Data.List.Induction
import ParseLens.Text.Numeral

set_option autoImplicit false

/-!
# Text: what counts as a numeral

`Decimal` says, without computing, which texts stand for which numbers: a digit stands for itself,
and one more digit behind a text counts the text in tens.  Zeros in front are allowed, and no digits
but those of ASCII are.  `WordNumeral` adds the two things a reader of machine words allows and
refuses: one plus sign in front, and a number of more than 64 bits.

* `natural?_eq_some_iff_decimal` says that digits are read as the number that they stand for.
* `word?_eq_some_iff` says it of machine words, and so also what is refused.
-/

namespace ParseLens.Text

/-- A text of digits and the number that it stands for. -/
inductive Decimal : List Char → Nat → Prop
  | digit {d : Nat} : d < 10 → Decimal [Nat.digitChar d] d
  | snoc {s : List Char} {n d : Nat} :
    Decimal s n → d < 10 → Decimal (s ++ [Nat.digitChar d]) (10 * n + d)

/-- A text that names a machine word: digits, and perhaps one plus sign in front of them. -/
inductive WordNumeral : List Char → UInt64 → Prop
  | plain {s : List Char} {n : UInt64} : Decimal s n.toNat → WordNumeral s n
  | signed {s : List Char} {n : UInt64} : Decimal s n.toNat → WordNumeral ('+' :: s) n

/-! ## Digits -/

/-- Every ASCII digit is the digit of a number below ten. -/
theorem exists_digitChar_eq {c : Char} (h : c.isDigit = true) :
    ∃ d, d < 10 ∧ Nat.digitChar d = c := by
  obtain ⟨hlow, hhigh⟩ := Char.isDigit_iff_toNat.1 h
  have hzero : '0'.toNat = 48 := rfl
  have hnine : '9'.toNat = 57 := rfl
  have hlt : c.toNat - 48 < 10 := by omega
  refine ⟨c.toNat - 48, hlt, Char.toNat_inj.1 ?_⟩
  rw [Nat.toNat_digitChar_of_lt_ten hlt]
  omega

namespace Decimal

variable {s : List Char} {n : Nat}

theorem ne_nil (h : Decimal s n) : s ≠ [] := by
  cases h <;> simp

theorem isDigit (h : Decimal s n) : ∀ c ∈ s, c.isDigit = true := by
  induction h with
  | digit hd => simp [Nat.isDigit_digitChar, hd]
  | snoc _ hd ih =>
    intro c hc
    rcases List.mem_append.1 hc with hc | hc
    · exact ih c hc
    · rw [List.mem_singleton.1 hc, Nat.isDigit_digitChar, decide_eq_true hd]

/-- A text stands for its value, and so for one number only. -/
theorem value (h : Decimal s n) : Nat.ofDigitChars 10 s 0 = n := by
  induction h with
  | digit hd => simp [Nat.ofDigitChars_cons_digitChar_of_lt_ten hd]
  | snoc _ hd ih =>
    rw [Nat.ofDigitChars_append, ih, Nat.ofDigitChars_cons_digitChar_of_lt_ten hd,
      Nat.ofDigitChars_nil]

/-- Digits stand for a number, however many there are. -/
theorem of_isDigit (hne : s ≠ []) (h : ∀ c ∈ s, c.isDigit = true) :
    Decimal s (Nat.ofDigitChars 10 s 0) := by
  induction s using List.reverseRecOn with
  | nil => exact absurd rfl hne
  | append_singleton s c ih =>
    obtain ⟨d, hd, rfl⟩ := exists_digitChar_eq (h c (by simp))
    rw [Nat.ofDigitChars_append, Nat.ofDigitChars_cons_digitChar_of_lt_ten hd,
      Nat.ofDigitChars_nil]
    rcases eq_or_ne s [] with rfl | hs
    · simpa using Decimal.digit hd
    · exact .snoc (ih hs fun c hc => h c (List.mem_append_left _ hc)) hd

/-- A number starts with no sign. -/
theorem dropPlus_eq (h : Decimal s n) : dropPlus s = s := by
  unfold dropPlus
  split
  · exact absurd (h.isDigit '+' List.mem_cons_self) (by decide)
  · rfl

end Decimal

/-! ## Readers -/

theorem natural?_eq_some_iff_decimal {s : List Char} {n : Nat} :
    natural? s = some n ↔ Decimal s n := by
  rw [natural?_eq_some_iff]
  constructor
  · rintro ⟨hne, hdigits, rfl⟩
    exact .of_isDigit hne hdigits
  · intro h
    exact ⟨h.ne_nil, h.isDigit, h.value⟩

theorem word?_eq_some_iff_dropPlus {s : List Char} {n : UInt64} :
    word? s = some n ↔ Decimal (dropPlus s) n.toNat := by
  rw [← natural?_eq_some_iff_decimal, word?]
  constructor
  · intro h
    split at h
    · simp at h
    · rename_i m hm
      split at h
      · rename_i hlt
        obtain rfl := Option.some.inj h
        rw [hm, UInt64.toNat_ofNat_of_lt' hlt]
      · simp at h
  · intro h
    simp [h, n.toNat_lt_size]

/-- A text without its sign is a number if and only if the text names that word. -/
theorem decimal_dropPlus_iff {s : List Char} {n : UInt64} :
    Decimal (dropPlus s) n.toNat ↔ WordNumeral s n := by
  constructor
  · intro h
    unfold dropPlus at h
    split at h
    · exact .signed h
    · exact .plain h
  · rintro (h | h)
    · rw [h.dropPlus_eq]
      exact h
    · exact h

/-- The reader of machine words reads every text that names one, as that one, and no other text. -/
theorem word?_eq_some_iff {s : List Char} {n : UInt64} : word? s = some n ↔ WordNumeral s n :=
  word?_eq_some_iff_dropPlus.trans decimal_dropPlus_iff

theorem word?_eq_none_iff {s : List Char} : word? s = none ↔ ¬ ∃ n, WordNumeral s n := by
  simp only [Option.eq_none_iff_forall_ne_some, ne_eq, word?_eq_some_iff, not_exists]

theorem wordNumeral_toDigits (n : UInt64) : WordNumeral (Nat.toDigits 10 n.toNat) n :=
  word?_eq_some_iff.1 (word?_toDigits n)

end ParseLens.Text
