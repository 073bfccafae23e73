import ParseLens.Text.Numeral

set_option autoImplicit false

/-!
# Automaton: keys of table cells

A parsing table arrives as a flat map.  The key of a cell is the number of a state, an underscore,
and the name of a symbol.  The first underscore is the one that separates, since a number holds
none; names may hold any.
-/

namespace ParseLens

/-- The number of a state. -/
abbrev StateId : Type := UInt64

namespace TableKey

/-- Why the key of a cell is refused. -/
inductive Flaw where
  /-- There is no underscore. -/
  | noSeparator
  /-- What stands before it is not the number of a state. -/
  | noState
  /-- Nothing stands behind it. -/
  | noSymbol
  /-- Another key for the same cell came first. -/
  | duplicate
  deriving DecidableEq, Repr, Inhabited

/-- The reason that a message gives. -/
def Flaw.reason : Flaw → String
  | .noSeparator => "missing '_' separator"
  | .noState => "state is not a non-negative integer"
  | .noSymbol => "empty symbol"
  | .duplicate => "duplicates an earlier cell"

/-- Split a text at its first underscore, if there is one. -/
def cut : List Char → Option (List Char × List Char)
  | [] => none
  | c :: s => if c = '_' then some ([], s) else (cut s).map fun p => (c :: p.1, p.2)

theorem cut_append {p : List Char} (h : '_' ∉ p) (s : List Char) :
    cut (p ++ '_' :: s) = some (p, s) := by
  induction p with
  | nil => simp [cut]
  | cons c p ih =>
    simp only [List.mem_cons, not_or] at h
    have hc : ¬ c = '_' := fun e => h.1 e.symm
    simp [cut, hc, ih h.2]

theorem cut_eq_none_iff {s : List Char} : cut s = none ↔ '_' ∉ s := by
  induction s with
  | nil => simp [cut]
  | cons c s ih =>
    by_cases hc : c = '_'
    · simp [cut, hc]
    · have hc' : ¬ '_' = c := fun e => hc e.symm
      simp [cut, hc, hc', ih]

theorem eq_of_cut_eq_some {s p r : List Char} (h : cut s = some (p, r)) :
    s = p ++ '_' :: r ∧ '_' ∉ p := by
  induction s generalizing p with
  | nil => simp [cut] at h
  | cons c s ih =>
    by_cases hc : c = '_'
    · simp only [cut, hc, if_true, Option.some.injEq, Prod.mk.injEq] at h
      simp [hc, ← h.1, ← h.2]
    · simp only [cut, hc, if_false, Option.map_eq_some_iff] at h
      obtain ⟨⟨q, r'⟩, hq, he⟩ := h
      simp only [Prod.mk.injEq] at he
      obtain ⟨h1, h2⟩ := ih (p := q) (by rw [hq, he.2])
      refine ⟨by rw [h1, ← he.1]; rfl, ?_⟩
      rw [← he.1, List.mem_cons, not_or]
      exact ⟨fun e => hc e.symm, h2⟩

/-- The state and the symbol that a key names. -/
def split (key : String) : Except Flaw (StateId × String) :=
  match cut key.toList with
  | none => .error .noSeparator
  | some (state, symbol) =>
    match Text.word? state with
    | none => .error .noState
    | some n => if symbol.isEmpty then .error .noSymbol else .ok (n, String.ofList symbol)

end TableKey

end ParseLens
