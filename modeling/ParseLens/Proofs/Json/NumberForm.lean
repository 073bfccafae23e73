import Mathlib.Data.List.TakeWhile
import ParseLens.Proofs.Json.Integer

set_option autoImplicit false

/-!
# JSON: the form of numbers

Which texts are numbers, of any size, said by a grammar.

A number that nobody asked for is passed over up to its last character: nothing is made of it, but it
has to have this form.  A number has no end of its own.  It ends where it goes on no further, and
`NumberEnds` says of what follows that it does not.

* `IsNumber` is the grammar.
* `passNumber_of_isNumber` and `isNumber_of_passNumber` say that what has this form is passed over,
  and nothing else.
-/

namespace ParseLens.Json

/-! ## The grammar -/

/-- The first text starts with decimal digits, one at least. -/
inductive Digits : List Char → List Char → Prop where
  | one {c : Char} {rest : List Char} (hc : c.isDigit = true) : Digits (c :: rest) rest
  | more {c : Char} {s rest : List Char} (hc : c.isDigit = true) (h : Digits s rest) :
      Digits (c :: s) rest

/-- The digits in front of the point: a single zero, or digits that start with another one. -/
inductive Whole : List Char → List Char → Prop where
  | zero (rest : List Char) : Whole ('0' :: rest) rest
  | digits {c : Char} {s rest : List Char} (hc : c ≠ '0') (h : Digits (c :: s) rest) :
      Whole (c :: s) rest

/-- The point and the digits behind it, if there is one. -/
inductive Fraction : List Char → List Char → Prop where
  | none (rest : List Char) : Fraction rest rest
  | digits {s rest : List Char} (h : Digits s rest) : Fraction ('.' :: s) rest

/-- The power of ten, if there is one. -/
inductive Exponent : List Char → List Char → Prop where
  | none (rest : List Char) : Exponent rest rest
  | digits {e : Char} {s t rest : List Char} (he : e = 'e' ∨ e = 'E')
      (hsign : s = t ∨ s = '+' :: t ∨ s = '-' :: t) (h : Digits t rest) : Exponent (e :: s) rest

/-- The first text starts with a number, of any size; the second is what follows. -/
inductive IsNumber : List Char → List Char → Prop where
  | mk {s t u v rest : List Char} (hsign : s = t ∨ s = '-' :: t) (hwhole : Whole t u)
      (hfraction : Fraction u v) (hexponent : Exponent v rest) : IsNumber s rest

variable {s t u v rest : List Char}

theorem Digits.exists_eq_cons (h : Digits s rest) : ∃ c t, s = c :: t ∧ c.isDigit = true := by
  cases h with
  | one hc => exact ⟨_, _, rfl, hc⟩
  | more hc _ => exact ⟨_, _, rfl, hc⟩

theorem Digits.suffix (h : Digits s rest) : rest <:+ s := by
  induction h with
  | one => exact List.suffix_cons _ _
  | more _ _ ih => exact ih.trans (List.suffix_cons _ _)

theorem IsNumber.suffix (h : IsNumber s rest) : rest <:+ s := by
  obtain ⟨hsign, hwhole, hfraction, hexponent⟩ := h
  have h1 {a b : List Char} (h : Whole a b) : b <:+ a := by
    cases h with
    | zero => exact List.suffix_cons _ _
    | digits _ h => exact h.suffix
  have h2 {a b : List Char} (h : Fraction a b) : b <:+ a := by
    cases h with
    | none => exact List.suffix_refl _
    | digits h => exact h.suffix.trans (List.suffix_cons _ _)
  have h3 {a b : List Char} (h : Exponent a b) : b <:+ a := by
    cases h with
    | none => exact List.suffix_refl _
    | digits _ hsign h =>
      refine h.suffix.trans ?_
      rcases hsign with rfl | rfl | rfl
      · exact List.suffix_cons _ _
      · exact List.suffix_append [_, '+'] _
      · exact List.suffix_append [_, '-'] _
  have hall := (h3 hexponent).trans ((h2 hfraction).trans (h1 hwhole))
  rcases hsign with rfl | rfl
  · exact hall
  · exact hall.trans (List.suffix_cons _ _)

/-- A number starts with a minus sign or a digit. -/
theorem IsNumber.exists_eq_cons (h : IsNumber s rest) :
    ∃ c t, s = c :: t ∧ (c = '-' ∨ c.isDigit = true) := by
  obtain ⟨hsign, hwhole, -, -⟩ := h
  rcases hsign with rfl | rfl
  · cases hwhole with
    | zero => exact ⟨_, _, rfl, .inr (by decide)⟩
    | digits _ hdigits =>
      obtain ⟨c, t, heq, hc⟩ := hdigits.exists_eq_cons
      exact ⟨c, t, heq, .inr hc⟩
  · exact ⟨_, _, rfl, .inl rfl⟩

/-! ## What follows a number -/

theorem Digits.append (h : Digits s rest) (more : List Char) :
    Digits (s ++ more) (rest ++ more) := by
  induction h with
  | one hc => exact .one hc
  | more hc _ ih => exact .more hc ih

theorem Whole.append (h : Whole s rest) (more : List Char) : Whole (s ++ more) (rest ++ more) := by
  cases h with
  | zero => exact .zero _
  | digits hc h => exact .digits hc (h.append more)

theorem Fraction.append (h : Fraction s rest) (more : List Char) :
    Fraction (s ++ more) (rest ++ more) := by
  cases h with
  | none => exact .none _
  | digits h => exact .digits (h.append more)

theorem Exponent.append (h : Exponent s rest) (more : List Char) :
    Exponent (s ++ more) (rest ++ more) := by
  cases h with
  | none => exact .none _
  | digits he hsign h =>
    refine .digits he ?_ (h.append more)
    rcases hsign with rfl | rfl | rfl
    · exact .inl rfl
    · exact .inr (.inl rfl)
    · exact .inr (.inr rfl)

theorem IsNumber.append (h : IsNumber s rest) (more : List Char) :
    IsNumber (s ++ more) (rest ++ more) := by
  obtain ⟨hsign, hwhole, hfraction, hexponent⟩ := h
  refine .mk ?_ (hwhole.append more) (hfraction.append more) (hexponent.append more)
  rcases hsign with rfl | rfl
  · exact .inl rfl
  · exact .inr rfl

/-! ## Digits -/

theorem Digits.exists_eq_append (h : Digits s rest) :
    ∃ ds, ds ≠ [] ∧ (∀ c ∈ ds, c.isDigit = true) ∧ s = ds ++ rest := by
  induction h with
  | @one c rest hc => exact ⟨[c], by simp, by simpa using hc, rfl⟩
  | @more c s rest hc _ ih =>
    obtain ⟨ds, -, hds, rfl⟩ := ih
    exact ⟨c :: ds, by simp, by simpa using ⟨hc, hds⟩, rfl⟩

theorem Digits.of_append {ds : List Char} (hne : ds ≠ []) (hds : ∀ c ∈ ds, c.isDigit = true)
    (rest : List Char) : Digits (ds ++ rest) rest := by
  induction ds with
  | nil => exact absurd rfl hne
  | cons c ds ih =>
    obtain ⟨hc, hds⟩ := List.forall_mem_cons.1 hds
    cases ds with
    | nil => exact .one hc
    | cons d ds => exact .more hc (ih (by simp) hds)

/-- A written integer is a number. -/
theorem isNumber_text (n : Int) : IsNumber (Number.int n).text [] := by
  have hwhole : Whole (Nat.toDigits 10 n.natAbs) [] := by
    rcases Nat.eq_zero_or_pos n.natAbs with hzero | hpos
    · rw [hzero, Nat.toDigits_zero]
      exact .zero []
    · have hhead := head?_toDigits_ne_zero hpos
      have hdigits := Digits.of_append Nat.toDigits_ne_nil
        (fun c hc => isDigit_of_mem_toDigits (n := n.natAbs) hc) []
      rw [List.append_nil] at hdigits
      cases hds : Nat.toDigits 10 n.natAbs with
      | nil => exact absurd hds Nat.toDigits_ne_nil
      | cons c ds =>
        rw [hds] at hhead hdigits
        exact .digits (by simpa using hhead) hdigits
  rw [Number.text]
  split
  · exact .mk (.inr rfl) hwhole (.none []) (.none [])
  · exact .mk (.inl rfl) hwhole (.none []) (.none [])

/-- A number goes on no further. -/
def NumberEnds (rest : List Char) : Prop :=
  ∀ c t, rest = c :: t → c.isDigit = false ∧ c ≠ '.' ∧ c ≠ 'e' ∧ c ≠ 'E'

theorem Bounded.numberEnds (h : Bounded rest) : NumberEnds rest := by
  rintro c t rfl
  exact h.not_in_number

theorem NumberEnds.digitsEnd (h : NumberEnds rest) : DigitsEnd rest := fun c t he => (h c t he).1

theorem spanDigits_of_digits (h : Digits s rest) (hend : DigitsEnd rest) :
    ∃ ds, ds ≠ [] ∧ spanDigits s = (ds, rest) := by
  obtain ⟨ds, hne, hds, rfl⟩ := h.exists_eq_append
  exact ⟨ds, hne, spanDigits_append hds hend⟩

theorem digits_of_spanDigits {ds : List Char} (h : spanDigits s = (ds, rest)) (hne : ds ≠ []) :
    Digits s rest := by
  simp only [spanDigits, Prod.mk.injEq] at h
  obtain ⟨rfl, rfl⟩ := h
  have hds : ∀ c ∈ s.takeWhile Char.isDigit, c.isDigit = true := fun c hc =>
    List.mem_takeWhile_imp hc
  have happend := Digits.of_append hne hds (s.dropWhile Char.isDigit)
  rwa [List.takeWhile_append_dropWhile] at happend

theorem digits_cons {c : Char} (hc : c.isDigit = true) (s : List Char) :
    Digits (c :: s) (spanDigits (c :: s)).2 := by
  have hspan : spanDigits (c :: s) = ((spanDigits (c :: s)).1, (spanDigits (c :: s)).2) := rfl
  refine digits_of_spanDigits hspan ?_
  simp [spanDigits, hc]

/-! ## Passing over a number -/

theorem splitSign_of_digits {c : Char} (hc : c.isDigit = true)
    (hsign : s = c :: t ∨ s = '+' :: c :: t ∨ s = '-' :: c :: t) : (splitSign s).2 = c :: t := by
  rcases hsign with rfl | rfl | rfl
  · unfold splitSign
    split
    · rename_i he
      obtain ⟨rfl, rfl⟩ := List.cons.inj he
      exact absurd hc (by decide)
    · rename_i he
      obtain ⟨rfl, rfl⟩ := List.cons.inj he
      exact absurd hc (by decide)
    · rfl
  · rfl
  · rfl

theorem eq_or_of_splitSign (h : (splitSign s).2 = t) : s = t ∨ s = '+' :: t ∨ s = '-' :: t := by
  unfold splitSign at h
  split at h
  · exact .inr (.inl (by rw [← h]))
  · exact .inr (.inr (by rw [← h]))
  · exact .inl h

theorem passExponent_of_digits (hsign : s = t ∨ s = '+' :: t ∨ s = '-' :: t) (h : Digits t rest)
    (hend : DigitsEnd rest) : passExponent s = .ok rest := by
  obtain ⟨c, t, rfl, hc⟩ := h.exists_eq_cons
  obtain ⟨ds, -, hspan⟩ := spanDigits_of_digits h hend
  simp [passExponent, splitSign_of_digits hc hsign, hc, hspan]

theorem digits_of_passExponent (h : passExponent s = .ok rest) :
    ∃ t, (s = t ∨ s = '+' :: t ∨ s = '-' :: t) ∧ Digits t rest := by
  unfold passExponent at h
  split at h
  · simp at h
  · rename_i c t hsplit
    split at h
    · rename_i hc
      obtain rfl := Except.ok.inj h
      exact ⟨c :: t, eq_or_of_splitSign hsplit, digits_cons hc t⟩
    · simp at h

/-- What may follow the digits of a number. -/
theorem Exponent.digitsEnd (h : Exponent s rest) (hend : NumberEnds rest) : DigitsEnd s := by
  cases h with
  | none => exact hend.digitsEnd
  | digits he _ _ =>
    rintro c t heq
    obtain ⟨rfl, -⟩ := List.cons.inj heq
    rcases he with rfl | rfl <;> decide

theorem Fraction.digitsEnd (h : Fraction s t) (hexponent : Exponent t rest)
    (hend : NumberEnds rest) : DigitsEnd s := by
  cases h with
  | none => exact hexponent.digitsEnd hend
  | digits _ =>
    rintro c t heq
    obtain ⟨rfl, -⟩ := List.cons.inj heq
    decide

theorem passFraction_of_fraction (h : Fraction s t) (hexponent : Exponent t rest)
    (hend : NumberEnds rest) : passFraction s = .ok rest := by
  cases h with
  | none =>
    cases hexponent with
    | none =>
      unfold passFraction
      split
      · exact absurd rfl (hend _ _ rfl).2.1
      · exact absurd rfl (hend _ _ rfl).2.2.1
      · exact absurd rfl (hend _ _ rfl).2.2.2
      · rfl
    | digits he hsign hdigits =>
      have hpass := passExponent_of_digits hsign hdigits hend.digitsEnd
      rcases he with rfl | rfl <;> simpa [passFraction] using hpass
  | digits hdigits =>
    obtain ⟨ds, hne, hspan⟩ := spanDigits_of_digits hdigits (hexponent.digitsEnd hend)
    obtain ⟨d, ds, rfl⟩ := List.exists_cons_of_ne_nil hne
    simp only [passFraction, hspan]
    cases hexponent with
    | none =>
      split
      · rename_i he
        simp at he
      · rename_i he
        exact absurd rfl (hend _ _ (Prod.mk.inj he).2).2.2.1
      · rename_i he
        exact absurd rfl (hend _ _ (Prod.mk.inj he).2).2.2.2
      · rename_i he
        rw [(Prod.mk.inj he).2]
    | digits he hsign hdigits' =>
      have hpass := passExponent_of_digits hsign hdigits' hend.digitsEnd
      rcases he with rfl | rfl <;> simpa using hpass

theorem fraction_of_passFraction (h : passFraction s = .ok rest) :
    ∃ t, Fraction s t ∧ Exponent t rest := by
  have hexponent {e : Char} {s : List Char} (he : e = 'e' ∨ e = 'E')
      (hpass : passExponent s = .ok rest) : Exponent (e :: s) rest := by
    obtain ⟨t, hsign, hdigits⟩ := digits_of_passExponent hpass
    exact .digits he hsign hdigits
  unfold passFraction at h
  split at h
  · split at h
    · simp at h
    · rename_i hne hspan
      exact ⟨_, .digits (digits_of_spanDigits hspan hne), hexponent (.inl rfl) h⟩
    · rename_i hne hspan
      exact ⟨_, .digits (digits_of_spanDigits hspan hne), hexponent (.inr rfl) h⟩
    · rename_i hne _ _ hspan
      obtain rfl := Except.ok.inj h
      exact ⟨_, .digits (digits_of_spanDigits hspan hne), .none _⟩
  · exact ⟨_, .none _, hexponent (.inl rfl) h⟩
  · exact ⟨_, .none _, hexponent (.inr rfl) h⟩
  · obtain rfl := Except.ok.inj h
    exact ⟨_, .none _, .none _⟩

theorem passUnsigned_of_whole (h : Whole s t) (hfraction : Fraction t u)
    (hexponent : Exponent u rest) (hend : NumberEnds rest) : passUnsigned s = .ok rest := by
  have hpass := passFraction_of_fraction hfraction hexponent hend
  have hstop : DigitsEnd t := hfraction.digitsEnd hexponent hend
  cases h with
  | zero =>
    cases t with
    | nil => simpa [passUnsigned, passFraction] using hpass
    | cons c t => simp [passUnsigned, hstop c t rfl, hpass]
  | @digits c s _ hzero hdigits =>
    obtain ⟨c', s', heq, hc⟩ := hdigits.exists_eq_cons
    obtain ⟨rfl, rfl⟩ := List.cons.inj heq
    obtain ⟨ds, -, hspan⟩ := spanDigits_of_digits hdigits hstop
    rw [passUnsigned]
    · simp [hc, hspan, hpass]
    · exact hzero

theorem whole_of_passUnsigned (h : passUnsigned s = .ok rest) :
    ∃ t u, Whole s t ∧ Fraction t u ∧ Exponent u rest := by
  unfold passUnsigned at h
  split at h
  · simp at h
  · split at h
    · split at h
      · simp at h
      · obtain ⟨t, hfraction, hexponent⟩ := fraction_of_passFraction h
        exact ⟨_, t, .zero _, hfraction, hexponent⟩
    · obtain rfl := Except.ok.inj h
      exact ⟨_, _, .zero _, .none _, .none _⟩
  · rename_i c s hzero
    split at h
    · rename_i hc
      obtain ⟨t, hfraction, hexponent⟩ := fraction_of_passFraction h
      exact ⟨_, t, .digits (fun he => hzero he) (digits_cons hc s), hfraction, hexponent⟩
    · simp at h

/-- A number is passed over up to its end. -/
theorem passNumber_of_isNumber (h : IsNumber s rest) (hend : NumberEnds rest) :
    passNumber s = .ok rest := by
  obtain ⟨hsign, hwhole, hfraction, hexponent⟩ := h
  have hpass := passUnsigned_of_whole hwhole hfraction hexponent hend
  rcases hsign with rfl | rfl
  · rw [passNumber]
    · exact hpass
    -- no number starts with two signs
    · rintro t rfl
      cases hwhole with
      | digits _ hdigits =>
        obtain ⟨c, t, heq, hc⟩ := hdigits.exists_eq_cons
        obtain ⟨rfl, -⟩ := List.cons.inj heq
        exact absurd hc (by decide)
  · exact hpass

/-- What is passed over is a number. -/
theorem isNumber_of_passNumber (h : passNumber s = .ok rest) : IsNumber s rest := by
  unfold passNumber at h
  split at h
  · obtain ⟨t, u, hwhole, hfraction, hexponent⟩ := whole_of_passUnsigned h
    exact ⟨.inr rfl, hwhole, hfraction, hexponent⟩
  · obtain ⟨t, u, hwhole, hfraction, hexponent⟩ := whole_of_passUnsigned h
    exact ⟨.inl rfl, hwhole, hfraction, hexponent⟩

end ParseLens.Json
