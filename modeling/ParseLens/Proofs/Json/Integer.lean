import ParseLens.Proofs.Json.ReadBack

set_option autoImplicit false

/-!
# JSON: written integers read back

An integer is written without leading zeros, and it may be followed by whatever a value may be
followed by.  The reader collects all of its digits and meets neither a point nor a power of ten, so
up to 64 bits it gives back the integer itself and never a floating point number.

* `readNumber_text` is about the digits.
* `ReadsBack.word64` and `ReadsBack.int64` are about machine words, up to the limits of each.
-/

namespace ParseLens.Json

/-! ## Where a number ends -/

/-- What stands behind a value does not go on with a number. -/
theorem Bounded.not_in_number {c : Char} {t : List Char} (h : Bounded (c :: t)) :
    c.isDigit = false ∧ c ≠ '.' ∧ c ≠ 'e' ∧ c ≠ 'E' := by
  have hc : c = ' ' ∨ c = '\n' ∨ c = '\t' ∨ c = '\r' ∨ c = ',' ∨ c = ']' ∨ c = '}' := by
    simpa [Bounded, isBlank, or_assoc] using h
  rcases hc with rfl | rfl | rfl | rfl | rfl | rfl | rfl <;> decide

/-- Digits go on no further. -/
def DigitsEnd (rest : List Char) : Prop := ∀ c t, rest = c :: t → c.isDigit = false

theorem Bounded.digitsEnd {rest : List Char} (h : Bounded rest) : DigitsEnd rest := by
  rintro c t rfl
  exact h.not_in_number.1

theorem spanDigits_append {ds rest : List Char} (hds : ∀ c ∈ ds, c.isDigit = true)
    (hrest : DigitsEnd rest) : spanDigits (ds ++ rest) = (ds, rest) := by
  have hstop : rest.takeWhile Char.isDigit = [] ∧ rest.dropWhile Char.isDigit = rest := by
    cases rest with
    | nil => exact ⟨rfl, rfl⟩
    | cons c t => simp [hrest c t rfl]
  rw [spanDigits, List.takeWhile_append_of_pos hds, List.dropWhile_append_of_pos hds, hstop.1,
    hstop.2, List.append_nil]

/-! ## Digits -/

/-- A positive number does not start with a zero. -/
theorem head?_toDigits_ne_zero {n : Nat} (h : 0 < n) : (Nat.toDigits 10 n).head? ≠ some '0' := by
  induction n using Nat.strongRecOn with
  | ind n ih =>
    rcases Nat.lt_or_ge n 10 with hlt | hge
    · rw [Nat.toDigits_of_lt_base hlt, List.head?_cons]
      intro hzero
      exact Nat.ne_of_gt h (Nat.digitChar_eq_zero.1 (Option.some.inj hzero))
    · rw [Nat.toDigits_of_base_le (by decide) hge,
        List.head?_append_of_ne_nil _ Nat.toDigits_ne_nil]
      exact ih (n / 10) (by omega) (by omega)

theorem isDigit_of_mem_toDigits {n : Nat} {c : Char} (h : c ∈ Nat.toDigits 10 n) :
    c.isDigit = true :=
  Nat.isDigit_of_mem_toDigits (by decide) (by decide) h

/-- The digits of a number are read up to its end. -/
theorem readWhole_toDigits (n : Nat) {rest : List Char} (hrest : Bounded rest) :
    readWhole (Nat.toDigits 10 n ++ rest) = .ok (Nat.toDigits 10 n, rest) := by
  rcases Nat.eq_zero_or_pos n with rfl | hpos
  · cases rest with
    | nil => rfl
    | cons c t => simp [Nat.toDigits_zero, readWhole, hrest.not_in_number.1]
  · have hhead := head?_toDigits_ne_zero hpos
    have hspan :=
      spanDigits_append (fun c hc => isDigit_of_mem_toDigits (n := n) hc) hrest.digitsEnd
    cases hds : Nat.toDigits 10 n with
    | nil => exact absurd hds Nat.toDigits_ne_nil
    | cons c ds =>
      rw [hds] at hhead hspan
      have hc : c.isDigit = true := isDigit_of_mem_toDigits (n := n) (by simp [hds])
      have hzero : c ≠ '0' := by simpa using hhead
      rw [List.cons_append] at hspan ⊢
      rw [readWhole]
      · simp [hc, hspan]
      · exact hzero

/-- Digits whose number fits the significand are all taken in. -/
theorem appendDigits_of_lt {cs : List Char} {n : Nat}
    (h : Nat.ofDigitChars 10 cs n < UInt64.size) :
    appendDigits n cs = (Nat.ofDigitChars 10 cs n, 0) := by
  induction cs generalizing n with
  | nil => rfl
  | cons c cs ih =>
    have hcons : Nat.ofDigitChars 10 (c :: cs) n =
        Nat.ofDigitChars 10 cs (n * 10 + (c.toNat - '0'.toNat)) := by
      rw [Nat.ofDigitChars_cons, Nat.mul_comm]
    rw [hcons] at h ⊢
    -- more digits never make a number smaller
    have hle : n * 10 + (c.toNat - '0'.toNat) < UInt64.size := by
      refine Nat.lt_of_le_of_lt ?_ h
      rw [Nat.ofDigitChars_eq_ofDigitChars_zero]
      exact Nat.le_add_right_of_le (Nat.le_mul_of_pos_left _ (Nat.pow_pos (by decide)))
    rw [appendDigits]
    simp only [hle, if_true]
    exact ih h

theorem appendDigits_toDigits {n : Nat} (h : n < UInt64.size) :
    appendDigits 0 (Nat.toDigits 10 n) = (n, 0) := by
  have hvalue : Nat.ofDigitChars 10 (Nat.toDigits 10 n) 0 = n := Nat.ofDigitChars_ten_toDigits
  rw [appendDigits_of_lt (by rw [hvalue]; exact h), hvalue]

/-! ## Integers -/

/-- The integers that are read as such: those of 64 bits, with or without a sign. -/
def IsWord (n : Int) : Prop := Int64.minValue.toInt ≤ n ∧ n < UInt64.size

theorem isWord_iff {n : Int} :
    IsWord n ↔ -9223372036854775808 ≤ n ∧ n < 18446744073709551616 := Iff.rfl

theorem readUnsigned_toDigits (negative : Bool) {n : Nat} (hn : n < UInt64.size) {rest : List Char}
    (hrest : Bounded rest) : readUnsigned negative (Nat.toDigits 10 n ++ rest) =
      if negative = false then .ok (.int n, rest)
      else if 0 < n ∧ n ≤ Nat.pow 2 63 then .ok (.int (-n), rest)
      else .ok (.real true (Decimal.Magnitude.ofNat n), rest) := by
  unfold readUnsigned
  rw [readWhole_toDigits n hrest]
  simp only [appendDigits_toDigits hn]
  split
  · exact absurd rfl hrest.not_in_number.2.1
  · exact absurd rfl hrest.not_in_number.2.2.1
  · exact absurd rfl hrest.not_in_number.2.2.2
  · rfl

/-- A written integer is read as that integer. -/
theorem readNumber_text {n : Int} (hn : IsWord n) {rest : List Char} (hrest : Bounded rest) :
    readNumber ((Number.int n).text ++ rest) = .ok (.int n, rest) := by
  obtain ⟨hlow, hhigh⟩ := isWord_iff.1 hn
  have hsize : n.natAbs < UInt64.size := by
    show n.natAbs < 18446744073709551616
    omega
  rcases Int.lt_or_le n 0 with hneg | hpos
  · have hrange : 0 < n.natAbs ∧ n.natAbs ≤ Nat.pow 2 63 := by
      show 0 < n.natAbs ∧ n.natAbs ≤ 2 ^ 63
      omega
    have habs : -(n.natAbs : Int) = n := by omega
    simp only [Number.text, hneg, if_true, List.cons_append, List.nil_append, readNumber]
    rw [readUnsigned_toDigits true hsize hrest, if_neg (by decide), if_pos hrange, habs]
  · have habs : (n.natAbs : Int) = n := by omega
    simp only [Number.text, Int.not_lt.2 hpos, if_false, List.nil_append]
    rw [readNumber, readUnsigned_toDigits false hsize hrest, if_pos rfl, habs]
    -- no digit is a minus sign
    intro s hs
    cases hds : Nat.toDigits 10 n.natAbs with
    | nil => exact Nat.toDigits_ne_nil hds
    | cons c ds =>
      have hc : c.isDigit = true := isDigit_of_mem_toDigits (n := n.natAbs) (by simp [hds])
      rw [hds, List.cons_append] at hs
      obtain ⟨rfl, -⟩ := List.cons.inj hs
      exact absurd hc (by decide)

/-- A written number starts with a minus sign or a digit. -/
theorem text_int_eq_cons (n : Int) :
    ∃ c t, (Number.int n).text = c :: t ∧ (c = '-' ∨ c.isDigit = true) := by
  rw [Number.text]
  split
  · exact ⟨'-', _, rfl, .inl rfl⟩
  · cases hds : Nat.toDigits 10 n.natAbs with
    | nil => exact absurd hds Nat.toDigits_ne_nil
    | cons c ds =>
      have hc : c.isDigit = true := isDigit_of_mem_toDigits (n := n.natAbs) (by simp [hds])
      exact ⟨c, ds, rfl, .inr hc⟩

theorem not_isBlank_of_number {c : Char} (h : c = '-' ∨ c.isDigit = true) :
    isBlank c = false ∧ c ≠ ']' := by
  rcases h with rfl | h
  · decide
  · constructor
    · cases hblank : isBlank c with
      | false => rfl
      | true => exact absurd h (by simp [(Bounded.not_in_number (t := []) (.inl hblank)).1])
    · rintro rfl
      exact absurd h (by decide)

theorem ne_of_number {c d : Char} (hc : c = '-' ∨ c.isDigit = true)
    (hd : ¬ (d = '-' ∨ d.isDigit = true)) : c ≠ d := by
  rintro rfl
  exact hd hc

/-- The reader of heads leaves what looks like a number to the reader of numbers. -/
theorem readHead_of_number {c : Char} {s rest : List Char} {n : Number}
    (hc : c = '-' ∨ c.isDigit = true) (h : readNumber (c :: s) = .ok (n, rest)) :
    readHead (c :: s) = .ok (.number n, rest) := by
  rw [readHead]
  · simp [hc, h]
  all_goals exact ne_of_number hc (by decide)

theorem readHead_text {n : Int} (hn : IsWord n) {rest : List Char} (hrest : Bounded rest) :
    readHead ((Number.int n).text ++ rest) = .ok (.number (.int n), rest) := by
  have hread := readNumber_text hn hrest
  obtain ⟨c, t, htext, hc⟩ := text_int_eq_cons n
  rw [htext, List.cons_append] at hread ⊢
  exact readHead_of_number hc hread

theorem skipBlank_text (n : Int) {ws : List Char} (hws : Blanks ws) (rest : List Char) :
    skipBlank (ws ++ (Number.int n).text ++ rest) = (Number.int n).text ++ rest := by
  obtain ⟨c, t, htext, hc⟩ := text_int_eq_cons n
  rw [List.append_assoc, htext]
  exact skipBlank_blanks_append hws (not_isBlank_of_number hc).1 _

theorem Value.starts_int (n : Int) : (number (.int n)).Starts := fun _ _ => by
  obtain ⟨c, t, htext, hc⟩ := text_int_eq_cons n
  exact ⟨c, t, by rw [print, htext], (not_isBlank_of_number hc).1, (not_isBlank_of_number hc).2⟩

/-! ## Decoders -/

namespace ReadsBack

/-- An integer is read by a decoder that accepts it. -/
theorem integer {α : Type} {expected : String} {make? : Int → Option α} {n : Int} {a : α}
    (hn : IsWord n) (hmake : make? n = some a) :
    ReadsBack 0 (.integer expected make?) (.number (.int n)) a := by
  refine ⟨Value.starts_int n, ?_⟩
  intro sp depth room ws rest _ hws hrest
  rw [Value.print, Decoder.integer]
  simp only [Reader.ofHead, skipBlank_text n hws, readHead_text hn hrest, hmake]

theorem word64 (expected : String) (w : UInt64) :
    ReadsBack 0 (.word64 expected) (.number (.int w.toNat)) w := by
  have hw : w.toNat < 18446744073709551616 := w.toNat_lt_size
  refine integer (isWord_iff.2 ⟨by omega, by omega⟩) ?_
  have hfits : (0 : Int) ≤ w.toNat ∧ (w.toNat : Int).toNat < UInt64.size :=
    ⟨Int.natCast_nonneg _, w.toNat_lt_size⟩
  rw [if_pos hfits, Int.toNat_natCast, UInt64.ofNat_toNat]

theorem word32 (w : UInt32) : ReadsBack 0 .word32 (.number (.int w.toNat)) w := by
  have hw : w.toNat < 4294967296 := w.toNat_lt_size
  refine integer (isWord_iff.2 ⟨by omega, by omega⟩) ?_
  have hfits : (0 : Int) ≤ w.toNat ∧ (w.toNat : Int).toNat < UInt32.size :=
    ⟨Int.natCast_nonneg _, w.toNat_lt_size⟩
  rw [if_pos hfits, Int.toNat_natCast, UInt32.ofNat_toNat]

theorem int64 (i : Int64) : ReadsBack 0 .int64 (.number (.int i.toInt)) i := by
  have hlow : Int64.minValue.toInt ≤ i.toInt := i.minValue_le_toInt
  have hhigh : i.toInt ≤ Int64.maxValue.toInt := i.toInt_le
  have hmax : Int64.maxValue.toInt < UInt64.size := by decide
  refine integer ⟨hlow, Int.lt_of_le_of_lt hhigh hmax⟩ ?_
  rw [if_pos ⟨hlow, hhigh⟩, Int64.ofInt_toInt]

end ReadsBack

end ParseLens.Json
