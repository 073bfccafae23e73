import ParseLens.Automaton.TableKey
import ParseLens.Proofs.Text.Numerals

set_option autoImplicit false

/-!
# Automaton: which keys name a cell

A key names a cell if it is a numeral for a machine word, an underscore, and a name that is not
empty.  The name may hold underscores; the numeral cannot.  Every key is of one of two kinds: it has
no underscore, or it is cut at the first one, and then what it is read as can be said of the two
texts alone (`TableKey.split_append`).

* `TableKey.Outcome` says once what can become of a key, without cutting it; `TableKey.split_eq_iff`
  says that this is what the reader does, and the other facts are read off from it.
* `TableKey.split_eq_ok_iff` says which keys are accepted, and as what.
* `TableKey.split_iff_spelling` is the main statement; it adds the reason for each key that is
  refused.
-/

namespace ParseLens

namespace TableKey

open Text (WordNumeral)

/-! ## Cutting a key -/

theorem split_of_not_mem {key : String} (h : '_' ∉ key.toList) :
    split key = .error .noSeparator := by
  rw [split, cut_eq_none_iff.2 h]

/-- The texts on both sides of the first underscore decide. -/
theorem split_append {p : String} (hp : '_' ∉ p.toList) (rest : String) :
    split (p ++ "_" ++ rest) =
      match Text.word? p.toList with
      | none => .error .noState
      | some n => if rest = "" then .error .noSymbol else .ok (n, rest) := by
  have hchars : (p ++ "_" ++ rest).toList = p.toList ++ '_' :: rest.toList := by simp
  rw [split, hchars, cut_append hp]
  cases hword : Text.word? p.toList <;> simp [hword]

/-- A key without an underscore cannot be cut; any other is cut at the first one. -/
theorem not_mem_or_exists_append (key : String) :
    '_' ∉ key.toList ∨ ∃ p rest : String, key = p ++ "_" ++ rest ∧ '_' ∉ p.toList := by
  cases hcut : cut key.toList with
  | none => exact .inl (cut_eq_none_iff.1 hcut)
  | some parts =>
    obtain ⟨hkey, hp⟩ := eq_of_cut_eq_some (p := parts.1) (r := parts.2) hcut
    refine .inr ⟨String.ofList parts.1, String.ofList parts.2, ?_, by simpa using hp⟩
    exact String.toList_injective (by simpa using hkey)

/-! ## What becomes of a key -/

/-- A key has no underscore, or its front is no numeral, or nothing stands behind it, or it names a
cell; a flaw is reported only if those in front of it are absent. -/
inductive Outcome : String → Except Flaw (StateId × String) → Prop
  | noSeparator {key : String} : '_' ∉ key.toList → Outcome key (.error .noSeparator)
  | noState {p rest : String} : '_' ∉ p.toList → (¬ ∃ n, WordNumeral p.toList n) →
    Outcome (p ++ "_" ++ rest) (.error .noState)
  | noSymbol {p : String} {n : StateId} : '_' ∉ p.toList → WordNumeral p.toList n →
    Outcome (p ++ "_") (.error .noSymbol)
  | cell {p name : String} {n : StateId} : '_' ∉ p.toList → WordNumeral p.toList n → name ≠ "" →
    Outcome (p ++ "_" ++ name) (.ok (n, name))

theorem outcome_split (key : String) : Outcome key (split key) := by
  rcases not_mem_or_exists_append key with hnone | ⟨p, rest, rfl, hp⟩
  · rw [split_of_not_mem hnone]
    exact .noSeparator hnone
  · rw [split_append hp]
    cases hword : Text.word? p.toList with
    | none => exact .noState hp (Text.word?_eq_none_iff.1 hword)
    | some n =>
      have hn : WordNumeral p.toList n := Text.word?_eq_some_iff.1 hword
      by_cases hrest : rest = ""
      · simpa [hrest] using Outcome.noSymbol hp hn
      · simpa [hrest] using Outcome.cell hp hn hrest

theorem Outcome.split_eq {key : String} {result : Except Flaw (StateId × String)}
    (h : Outcome key result) : split key = result := by
  cases h with
  | noSeparator hnone => exact split_of_not_mem hnone
  | noState hp hno => rw [split_append hp, Text.word?_eq_none_iff.2 hno]
  | noSymbol hp hn =>
    have hempty := split_append hp ""
    rw [Text.word?_eq_some_iff.2 hn, String.append_empty] at hempty
    exact hempty
  | cell hp hn hname =>
    rw [split_append hp, Text.word?_eq_some_iff.2 hn]
    exact if_neg hname

/-- What becomes of a key is what is said above, and nothing else. -/
theorem split_eq_iff {key : String} {result : Except Flaw (StateId × String)} :
    split key = result ↔ Outcome key result := by
  refine ⟨?_, Outcome.split_eq⟩
  rintro rfl
  exact outcome_split key

theorem split_eq_ok_iff {key : String} {n : StateId} {name : String} :
    split key = .ok (n, name) ↔ ∃ p : String, key = p ++ "_" ++ name ∧ '_' ∉ p.toList ∧
      WordNumeral p.toList n ∧ name ≠ "" := by
  rw [split_eq_iff]
  constructor
  · intro h
    cases h with
    | cell hp hn hname => exact ⟨_, rfl, hp, hn, hname⟩
  · rintro ⟨p, rfl, hp, hn, hname⟩
    exact .cell hp hn hname

theorem split_eq_noSeparator_iff {key : String} :
    split key = .error .noSeparator ↔ '_' ∉ key.toList := by
  rw [split_eq_iff]
  constructor
  · intro h
    cases h with
    | noSeparator hnone => exact hnone
  · exact .noSeparator

theorem split_eq_noState_iff {key : String} :
    split key = .error .noState ↔ ∃ p rest : String, key = p ++ "_" ++ rest ∧ '_' ∉ p.toList ∧
      ¬ ∃ n, WordNumeral p.toList n := by
  rw [split_eq_iff]
  constructor
  · intro h
    cases h with
    | noState hp hno => exact ⟨_, _, rfl, hp, hno⟩
  · rintro ⟨p, rest, rfl, hp, hno⟩
    exact .noState hp hno

theorem split_eq_noSymbol_iff {key : String} :
    split key = .error .noSymbol ↔ ∃ p : String, key = p ++ "_" ∧ '_' ∉ p.toList ∧
      ∃ n, WordNumeral p.toList n := by
  rw [split_eq_iff]
  constructor
  · intro h
    cases h with
    | noSymbol hp hn => exact ⟨_, rfl, hp, _, hn⟩
  · rintro ⟨p, rfl, hp, n, hn⟩
    exact .noSymbol hp hn

/-! ## The reason -/

/-- What a key is read as: the cell that it names, or the reason that is given against it. -/
def reading (key : String) : Except String (StateId × String) := (split key).mapError Flaw.reason

theorem Flaw.reason_injective : Function.Injective Flaw.reason := by
  intro flaw flaw' h
  revert h
  cases flaw <;> cases flaw' <;> decide

/-- The reason that is given tells which flaw it is. -/
theorem reading_eq_error_iff {key : String} {flaw : Flaw} :
    reading key = .error flaw.reason ↔ split key = .error flaw := by
  rw [reading]
  cases split key with
  | ok cell => simp [Except.mapError]
  | error flaw' => simp [Except.mapError, Flaw.reason_injective.eq_iff]

theorem reading_eq_ok_iff {key : String} {cell : StateId × String} :
    reading key = .ok cell ↔ split key = .ok cell := by
  rw [reading]
  cases split key <;> simp [Except.mapError]

/-! ## All keys -/

/-- A number in plain decimal, an underscore and a name that is not empty are read as they were
written. -/
theorem split_decimal (n : StateId) {name : String} (hname : name ≠ "") :
    split (toString n.toNat ++ "_" ++ name) = .ok (n, name) := by
  refine split_eq_ok_iff.2 ⟨toString n.toNat, rfl, ?_, ?_, hname⟩
  · simp
  · simpa using Text.wordNumeral_toDigits n

/-- A key names a cell exactly if it is a numeral for the state, an underscore and the name of the
symbol: the numeral has no underscore, at most one plus sign in front, and at least one digit, stands
for a number of at most 64 bits, and may start with zeros; the name is not empty and may have
underscores.  In particular every state in plain decimal and every name come back.  Any other key is
refused.  The reason is that it has no underscore, or else that what stands in front of the first
one is no such numeral, or else that nothing stands behind it. -/
theorem split_iff_spelling (key : String) :
    (∀ n name, reading key = .ok (n, name) ↔ ∃ p : String, key = p ++ "_" ++ name ∧
      '_' ∉ p.toList ∧ WordNumeral p.toList n ∧ name ≠ "") ∧
    (∀ (n : StateId) (name : String), name ≠ "" →
      reading (toString n.toNat ++ "_" ++ name) = .ok (n, name)) ∧
    (reading key = .error "missing '_' separator" ↔ '_' ∉ key.toList) ∧
    (reading key = .error "state is not a non-negative integer" ↔
      ∃ p rest : String, key = p ++ "_" ++ rest ∧ '_' ∉ p.toList ∧
        ¬ ∃ n, WordNumeral p.toList n) ∧
    (reading key = .error "empty symbol" ↔
      ∃ p : String, key = p ++ "_" ∧ '_' ∉ p.toList ∧ ∃ n, WordNumeral p.toList n) := by
  have hreason (flaw : Flaw) : reading key = .error flaw.reason ↔ split key = .error flaw :=
    reading_eq_error_iff
  refine ⟨fun n name => ?_, fun n name hname => ?_, ?_, ?_, ?_⟩
  · exact reading_eq_ok_iff.trans split_eq_ok_iff
  · exact reading_eq_ok_iff.2 (split_decimal n hname)
  · exact (hreason .noSeparator).trans split_eq_noSeparator_iff
  · exact (hreason .noState).trans split_eq_noState_iff
  · exact (hreason .noSymbol).trans split_eq_noSymbol_iff

/-- The largest state, with a name that starts and ends with an underscore. -/
theorem split_iff_spelling_of_largest_state :
    "_a_" ≠ "" ∧ reading (toString (18446744073709551615 : StateId).toNat ++ "_" ++ "_a_") =
      .ok (18446744073709551615, "_a_") :=
  have hname : "_a_" ≠ "" := by decide
  ⟨hname, (split_iff_spelling "").2.1 18446744073709551615 "_a_" hname⟩

example : split "+007__" = .ok (7, "_") ∧ split "++7_a" = .error .noState ∧
    split "18446744073709551616_" = .error .noState ∧ split "7_" = .error .noSymbol := by
  decide +kernel

end TableKey

end ParseLens
