import ParseLens.Proofs.Json.Literal

set_option autoImplicit false

/-!
# JSON: what a literal spells

A string may be written in many ways: any character may be escaped, some by a letter, those outside
the basic plane by a pair of surrogates, and hexadecimal digits have two cases.  `Spells` says which
texts spell which string, and `IsLiteral` which texts are literals at all: there, surrogates need
not come in pairs.

* `readString_eq_ok_iff` says that a literal is read as what it spells, and that nothing else is
  read.
* `passString_eq_ok_iff` says the same of a literal that is passed over.
-/

namespace ParseLens.Json

/-- The letters that stand behind a backslash for a character. -/
def shortEscapes : List (Char × Char) :=
  [('"', '"'), ('\\', '\\'), ('/', '/'), ('b', '\x08'), ('f', '\x0c'), ('n', '\n'), ('r', '\r'),
    ('t', '\t')]

/-- The first text starts with the characters of a literal that spells the second, and with the
closing quote; the third is what follows. -/
inductive Spells : List Char → List Char → List Char → Prop where
  | close (rest : List Char) : Spells ('"' :: rest) [] rest
  | plain {c : Char} {s cs rest : List Char} (hquote : c ≠ '"') (hslash : c ≠ '\\')
      (hcontrol : ¬ c.toNat < 0x20) (h : Spells s cs rest) : Spells (c :: s) (c :: cs) rest
  | short {letter c : Char} {s cs rest : List Char} (hc : (letter, c) ∈ shortEscapes)
      (h : Spells s cs rest) : Spells ('\\' :: letter :: s) (c :: cs) rest
  | code {a b c d : Char} {n : Nat} {s cs rest : List Char} (hn : hexValue? a b c d = some n)
      (hlow : ¬ (0xDC00 ≤ n ∧ n ≤ 0xDFFF)) (hhigh : ¬ (0xD800 ≤ n ∧ n ≤ 0xDBFF))
      (h : Spells s cs rest) :
      Spells ('\\' :: 'u' :: a :: b :: c :: d :: s) (Char.ofNat n :: cs) rest
  | pair {a b c d a' b' c' d' : Char} {high low : Nat} {s cs rest : List Char}
      (hhigh : hexValue? a b c d = some high) (hfirst : 0xD800 ≤ high ∧ high ≤ 0xDBFF)
      (hlow : hexValue? a' b' c' d' = some low) (hsecond : 0xDC00 ≤ low ∧ low ≤ 0xDFFF)
      (h : Spells s cs rest) :
      Spells ('\\' :: 'u' :: a :: b :: c :: d :: '\\' :: 'u' :: a' :: b' :: c' :: d' :: s)
        (joinSurrogates high low :: cs) rest

/-- The first text starts with the characters of a literal and with the closing quote; the second is
what follows. -/
inductive IsLiteral : List Char → List Char → Prop where
  | close (rest : List Char) : IsLiteral ('"' :: rest) rest
  | plain {c : Char} {s rest : List Char} (hquote : c ≠ '"') (hslash : c ≠ '\\')
      (hcontrol : ¬ c.toNat < 0x20) (h : IsLiteral s rest) : IsLiteral (c :: s) rest
  | short {letter c : Char} {s rest : List Char} (hc : (letter, c) ∈ shortEscapes)
      (h : IsLiteral s rest) : IsLiteral ('\\' :: letter :: s) rest
  | code {a b c d : Char} {n : Nat} {s rest : List Char} (hn : hexValue? a b c d = some n)
      (h : IsLiteral s rest) : IsLiteral ('\\' :: 'u' :: a :: b :: c :: d :: s) rest

variable {s cs rest : List Char}

/-- Characters that need no escape spell themselves. -/
theorem Spells.plain_append {plain : List Char} (h : Spells s cs rest)
    (hplain : ∀ c ∈ plain, c ≠ '"' ∧ c ≠ '\\' ∧ ¬ c.toNat < 0x20) :
    Spells (plain ++ s) (plain ++ cs) rest := by
  induction plain with
  | nil => exact h
  | cons c plain ih =>
    obtain ⟨⟨hquote, hslash, hcontrol⟩, hplain⟩ := List.forall_mem_cons.1 hplain
    exact .plain hquote hslash hcontrol (ih hplain)

/-- What spells a string is a literal. -/
theorem Spells.isLiteral (h : Spells s cs rest) : IsLiteral s rest := by
  induction h with
  | close rest => exact .close rest
  | plain hquote hslash hcontrol _ ih => exact .plain hquote hslash hcontrol ih
  | short hc _ ih => exact .short hc ih
  | code hn _ _ _ ih => exact .code hn ih
  | pair hhigh _ hlow _ _ ih => exact .code hhigh (.code hlow ih)

/-- What follows a literal does not matter. -/
theorem Spells.append (h : Spells s cs rest) (more : List Char) :
    Spells (s ++ more) cs (rest ++ more) := by
  induction h with
  | close rest => exact .close (rest ++ more)
  | plain hquote hslash hcontrol _ ih => exact .plain hquote hslash hcontrol ih
  | short hc _ ih => exact .short hc ih
  | code hn hlow hhigh _ ih => exact .code hn hlow hhigh ih
  | pair hhigh hfirst hlow hsecond _ ih => exact .pair hhigh hfirst hlow hsecond ih

/-- What spells a string does so without what follows. -/
theorem Spells.exists_eq_append (h : Spells s cs rest) : ∃ t, s = t ++ rest ∧ Spells t cs [] := by
  induction h with
  | close rest => exact ⟨['"'], rfl, .close []⟩
  | plain hquote hslash hcontrol _ ih =>
    obtain ⟨t, rfl, ht⟩ := ih
    exact ⟨_ :: t, rfl, .plain hquote hslash hcontrol ht⟩
  | short hc _ ih =>
    obtain ⟨t, rfl, ht⟩ := ih
    exact ⟨_, rfl, .short hc ht⟩
  | code hn hlow hhigh _ ih =>
    obtain ⟨t, rfl, ht⟩ := ih
    exact ⟨_, rfl, .code hn hlow hhigh ht⟩
  | pair hhigh hfirst hlow hsecond _ ih =>
    obtain ⟨t, rfl, ht⟩ := ih
    exact ⟨_, rfl, .pair hhigh hfirst hlow hsecond ht⟩

theorem IsLiteral.suffix (h : IsLiteral s rest) : rest <:+ s := by
  induction h with
  | close rest => exact List.suffix_cons _ _
  | plain _ _ _ _ ih => exact ih.trans (List.suffix_cons _ _)
  | short _ _ ih => exact ih.trans (List.suffix_append ['\\', _] _)
  | code _ _ ih => exact ih.trans (List.suffix_append ['\\', 'u', _, _, _, _] _)

theorem IsLiteral.append (h : IsLiteral s rest) (more : List Char) :
    IsLiteral (s ++ more) (rest ++ more) := by
  induction h with
  | close rest => exact .close (rest ++ more)
  | plain hquote hslash hcontrol _ ih => exact .plain hquote hslash hcontrol ih
  | short hc _ ih => exact .short hc ih
  | code hn _ ih => exact .code hn ih

/-! ## Four digits -/

theorem four_le_byteLength (a b c d : Char) (rest : List Char) :
    4 ≤ byteLength (a :: b :: c :: d :: rest) := by
  have ha := Char.utf8Size_pos a
  have hb := Char.utf8Size_pos b
  have hc := Char.utf8Size_pos c
  have hd := Char.utf8Size_pos d
  simp only [byteLength, List.foldr_cons]
  omega

theorem readHex_eq_ok_iff {n : Nat} : readHex s = .ok (n, rest) ↔
    ∃ a b c d, s = a :: b :: c :: d :: rest ∧ hexValue? a b c d = some n := by
  refine ⟨fun h => ?_, ?_⟩
  · unfold readHex at h
    split at h
    · simp at h
    · split at h
      · rename_i a b c d _ _
        split at h
        · rename_i hn
          simp only [Except.ok.injEq, Prod.mk.injEq] at h
          exact ⟨a, b, c, d, by rw [h.2], by rw [hn, h.1]⟩
        · simp at h
      · simp at h
  · rintro ⟨a, b, c, d, rfl, hn⟩
    have hlen : ¬ byteLength (a :: b :: c :: d :: rest) < 4 :=
      Nat.not_lt.2 (four_le_byteLength a b c d rest)
    simp only [readHex, hlen, if_false, hn]

/-! ## Escapes -/

theorem readEscape_short {letter c : Char} (h : (letter, c) ∈ shortEscapes) (rest : List Char) :
    readEscape (letter :: rest) = .ok (c, rest) := by
  simp only [shortEscapes, List.mem_cons, Prod.mk.injEq, List.not_mem_nil, or_false] at h
  rcases h with ⟨rfl, rfl⟩ | ⟨rfl, rfl⟩ | ⟨rfl, rfl⟩ | ⟨rfl, rfl⟩ | ⟨rfl, rfl⟩ | ⟨rfl, rfl⟩ |
    ⟨rfl, rfl⟩ | ⟨rfl, rfl⟩ <;> rfl

theorem readEscape_code {a b c d : Char} {n : Nat} (hn : hexValue? a b c d = some n)
    (hlow : ¬ (0xDC00 ≤ n ∧ n ≤ 0xDFFF)) (hhigh : ¬ (0xD800 ≤ n ∧ n ≤ 0xDBFF))
    (rest : List Char) :
    readEscape ('u' :: a :: b :: c :: d :: rest) = .ok (Char.ofNat n, rest) := by
  have hread : readHex (a :: b :: c :: d :: rest) = .ok (n, rest) :=
    readHex_eq_ok_iff.2 ⟨a, b, c, d, rfl, hn⟩
  simp only [readEscape, hread, hlow, hhigh, if_false]

theorem readEscape_pair {a b c d a' b' c' d' : Char} {high low : Nat}
    (hhigh : hexValue? a b c d = some high) (hfirst : 0xD800 ≤ high ∧ high ≤ 0xDBFF)
    (hlow : hexValue? a' b' c' d' = some low) (hsecond : 0xDC00 ≤ low ∧ low ≤ 0xDFFF)
    (rest : List Char) :
    readEscape ('u' :: a :: b :: c :: d :: '\\' :: 'u' :: a' :: b' :: c' :: d' :: rest) =
      .ok (joinSurrogates high low, rest) := by
  have hread : readHex (a :: b :: c :: d :: '\\' :: 'u' :: a' :: b' :: c' :: d' :: rest) =
      .ok (high, '\\' :: 'u' :: a' :: b' :: c' :: d' :: rest) :=
    readHex_eq_ok_iff.2 ⟨a, b, c, d, rfl, hhigh⟩
  have hread' : readHex (a' :: b' :: c' :: d' :: rest) = .ok (low, rest) :=
    readHex_eq_ok_iff.2 ⟨a', b', c', d', rfl, hlow⟩
  have hnot : ¬ (0xDC00 ≤ high ∧ high ≤ 0xDFFF) := by omega
  simp [readEscape, readSecondHalf, hread, hread', hnot, hfirst, hsecond]

/-- An escape that is read stands for the character that is read. -/
theorem Spells.of_readEscape {c : Char} {t : List Char} (h : readEscape s = .ok (c, t))
    (ht : Spells t cs rest) : Spells ('\\' :: s) (c :: cs) rest := by
  unfold readEscape at h
  split at h
  case h_10 =>
    split at h
    · simp at h
    · rename_i n u hhex
      obtain ⟨a, b, c', d, rfl, hn⟩ := readHex_eq_ok_iff.1 hhex
      split at h
      · simp at h
      · rename_i hlow
        split at h
        · rename_i hfirst
          unfold readSecondHalf at h
          split at h
          case h_1 =>
            split at h
            · simp at h
            · rename_i low u' hhex'
              obtain ⟨a', b', c'', d', rfl, hn'⟩ := readHex_eq_ok_iff.1 hhex'
              split at h
              · rename_i hsecond
                simp only [Except.ok.injEq, Prod.mk.injEq] at h
                obtain ⟨rfl, rfl⟩ := h
                exact .pair hn hfirst hn' hsecond ht
              · simp at h
          all_goals simp at h
        · rename_i hhigh
          simp only [Except.ok.injEq, Prod.mk.injEq] at h
          obtain ⟨rfl, rfl⟩ := h
          exact .code hn hlow hhigh ht
  case h_1 => simp at h
  case h_11 => simp at h
  all_goals
    simp only [Except.ok.injEq, Prod.mk.injEq] at h
    obtain ⟨rfl, rfl⟩ := h
    exact .short (by decide) ht

/-! ## Literals -/

/-- A literal is read as what it spells, and nothing else is read. -/
theorem readString_eq_ok_iff : readString s = .ok (cs, rest) ↔ Spells s cs rest := by
  refine ⟨fun h => ?_, fun h => ?_⟩
  · fun_induction readString s generalizing cs with
    | case1 => simp at h
    | case2 t =>
      simp only [Except.ok.injEq, Prod.mk.injEq] at h
      obtain ⟨rfl, rfl⟩ := h
      exact .close t
    | case3 => simp at h
    | case4 t c u he ih =>
      obtain ⟨ds, hd, rfl⟩ := consRead_eq_ok h
      exact .of_readEscape he (ih hd)
    | case5 => simp at h
    | case6 c t hquote hslash hcontrol ih =>
      obtain ⟨ds, hd, rfl⟩ := consRead_eq_ok h
      exact .plain hquote hslash hcontrol (ih hd)
  · induction h with
    | close rest => rw [readString]
    | plain hquote hslash hcontrol _ ih =>
      rw [readString_plain hquote hslash hcontrol, ih]
      rfl
    | short hc _ ih =>
      rw [readString_backslash (readEscape_short hc _), ih]
      rfl
    | code hn hlow hhigh _ ih =>
      rw [readString_backslash (readEscape_code hn hlow hhigh _), ih]
      rfl
    | pair hhigh hfirst hlow hsecond _ ih =>
      rw [readString_backslash (readEscape_pair hhigh hfirst hlow hsecond _), ih]
      rfl

/-- A text spells one string at most, and in one way. -/
theorem Spells.unique {cs' rest' : List Char} (h : Spells s cs rest) (h' : Spells s cs' rest') :
    cs = cs' ∧ rest = rest' := by
  have hread := readString_eq_ok_iff.2 h
  rw [readString_eq_ok_iff.2 h'] at hread
  simp only [Except.ok.injEq, Prod.mk.injEq] at hread
  exact ⟨hread.1.symm, hread.2.symm⟩

/-! ## Literals that are passed over -/

/-- The letters of `shortEscapes` are those that are passed over. -/
theorem mem_shortLetters_iff {letter : Char} :
    ['"', '\\', '/', 'b', 'f', 'n', 'r', 't'].contains letter = true ↔
      ∃ c, (letter, c) ∈ shortEscapes := by
  simp [shortEscapes, exists_or]

theorem passEscape_eq_ok_iff {t : List Char} : passEscape s = .ok t ↔
    (∃ letter c, (letter, c) ∈ shortEscapes ∧ s = letter :: t) ∨
      ∃ a b c d n, hexValue? a b c d = some n ∧ s = 'u' :: a :: b :: c :: d :: t := by
  refine ⟨fun h => ?_, ?_⟩
  · unfold passEscape at h
    split at h
    · simp at h
    · split at h
      · simp at h
      · rename_i n u hhex
        obtain ⟨a, b, c, d, rfl, hn⟩ := readHex_eq_ok_iff.1 hhex
        obtain rfl := Except.ok.inj h
        exact .inr ⟨a, b, c, d, n, hn, rfl⟩
    · split at h
      · rename_i letter u _ hletter
        obtain ⟨c, hc⟩ := mem_shortLetters_iff.1 hletter
        obtain rfl := Except.ok.inj h
        exact .inl ⟨letter, c, hc, rfl⟩
      · simp at h
  · rintro (⟨letter, c, hc, rfl⟩ | ⟨a, b, c, d, n, hn, rfl⟩)
    · have hletter := mem_shortLetters_iff.2 ⟨c, hc⟩
      have hu : letter ≠ 'u' := by
        rintro rfl
        exact absurd hletter (by decide)
      rw [passEscape]
      · rw [if_pos hletter]
      · exact hu
    · have hread : readHex (a :: b :: c :: d :: t) = .ok (n, t) :=
        readHex_eq_ok_iff.2 ⟨a, b, c, d, rfl, hn⟩
      simp only [passEscape, hread]

theorem passString_backslash {t : List Char} (h : passEscape s = .ok t) :
    passString ('\\' :: s) = passString t := by
  rw [passString]
  split
  · rename_i he
    simp [h] at he
  · rename_i he
    rw [h] at he
    rw [Except.ok.inj he]

/-- A literal is passed over, and nothing else is. -/
theorem passString_eq_ok_iff : passString s = .ok rest ↔ IsLiteral s rest := by
  refine ⟨fun h => ?_, fun h => ?_⟩
  · fun_induction passString s with
    | case1 => simp at h
    | case2 t =>
      obtain rfl := Except.ok.inj h
      exact .close t
    | case3 => simp at h
    | case4 t u he ih =>
      obtain ⟨letter, c, hc, rfl⟩ | ⟨a, b, c, d, n, hn, rfl⟩ := passEscape_eq_ok_iff.1 he
      · exact .short hc (ih h)
      · exact .code hn (ih h)
    | case5 => simp at h
    | case6 c t hquote hslash hcontrol ih => exact .plain hquote hslash hcontrol (ih h)
  · induction h with
    | close rest => rw [passString]
    | @plain c s rest hquote hslash hcontrol _ ih =>
      rw [passString]
      · rw [if_neg hcontrol, ih]
      · exact hquote
      · exact hslash
    | @short letter c s rest hc _ ih =>
      rw [passString_backslash (passEscape_eq_ok_iff.2 (.inl ⟨letter, c, hc, rfl⟩)), ih]
    | @code a b c d n s rest hn _ ih =>
      rw [passString_backslash (passEscape_eq_ok_iff.2 (.inr ⟨a, b, c, d, n, hn, rfl⟩)), ih]

end ParseLens.Json
