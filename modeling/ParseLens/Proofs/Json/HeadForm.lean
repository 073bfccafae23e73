import ParseLens.Json.Decoder
import ParseLens.Proofs.Json.Form

set_option autoImplicit false

/-!
# JSON: heads and texts in any text

What a text looks like in which a reader has seen the head of a value, and what exactly the readers
of texts read.

* `headForm_of_readHead` is about heads.
* `run_optionalText_iff` is about a reader of texts.
-/

namespace ParseLens.Json

variable {s rest : List Char}

/-! ## Heads -/

/-- The first text starts with this head, as far as it can be told without reading a number; the
second is what follows. -/
def HeadForm (s : List Char) : Head → List Char → Prop
  | .null, rest => s = 'n' :: 'u' :: 'l' :: 'l' :: rest
  | .bool _, _ => ∃ c t, s = c :: t ∧ (c = 't' ∨ c = 'f')
  | .number _, _ => ∃ c t, s = c :: t ∧ (c = '-' ∨ c.isDigit = true)
  | .string text, rest => ∃ t, s = '"' :: t ∧ Spells t text.toList rest
  | .openList, rest => s = '[' :: rest
  | .openObject, rest => s = '{' :: rest

theorem eq_append_of_readWord {w : List Char} (h : readWord w s = .ok rest) : s = w ++ rest := by
  fun_induction readWord w s with
  | case1 s =>
    obtain rfl := Except.ok.inj h
    rfl
  | case2 => simp at h
  | case3 c w s ih => rw [ih h, List.cons_append]
  | case4 => simp at h

theorem readKeyword_eq_ok {letters : List Char} {head head' : Head}
    (h : readKeyword letters head s = .ok (head', rest)) :
    head' = head ∧ s = letters ++ rest := by
  unfold readKeyword at h
  split at h
  · simp at h
  · rename_i hword
    simp only [Except.ok.injEq, Prod.mk.injEq] at h
    obtain ⟨rfl, rfl⟩ := h
    exact ⟨rfl, eq_append_of_readWord hword⟩

/-- What was seen stands there. -/
theorem headForm_of_readHead {head : Head} (h : readHead s = .ok (head, rest)) :
    HeadForm s head rest := by
  unfold readHead at h
  split at h
  · simp at h
  · obtain ⟨rfl, rfl⟩ := readKeyword_eq_ok h
    rfl
  · obtain ⟨rfl, rfl⟩ := readKeyword_eq_ok h
    exact ⟨_, _, rfl, .inl rfl⟩
  · obtain ⟨rfl, rfl⟩ := readKeyword_eq_ok h
    exact ⟨_, _, rfl, .inr rfl⟩
  · obtain ⟨rfl, rfl⟩ := Prod.mk.inj (Except.ok.inj h)
    rfl
  · obtain ⟨rfl, rfl⟩ := Prod.mk.inj (Except.ok.inj h)
    rfl
  · split at h
    · simp at h
    · rename_i hread
      obtain ⟨rfl, rfl⟩ := Prod.mk.inj (Except.ok.inj h)
      exact ⟨_, rfl, by simpa using readString_eq_ok_iff.1 hread⟩
  · rename_i c t _ _ _ _ _ _
    split at h
    · rename_i hc
      split at h
      · simp at h
      · obtain ⟨rfl, rfl⟩ := Prod.mk.inj (Except.ok.inj h)
        exact ⟨c, t, rfl, hc⟩
    · simp at h

/-! ## Texts -/

/-- The text of a value that spells a string. -/
def IsText (v : List Char) (text : String) : Prop := ∃ t, v = '"' :: t ∧ Spells t text.toList []

/-- The text of a value that spells a string, or says that there is none. -/
inductive IsOptionalText : List Char → Option String → Prop where
  | null : IsOptionalText ['n', 'u', 'l', 'l'] none
  | text {v : List Char} {text : String} (h : IsText v text) : IsOptionalText v (some text)

/-- A string is spelled by the literal that is written for it. -/
theorem spells_literal (text : String) (rest : List Char) :
    ∃ t, literal text ++ rest = '"' :: t ∧ Spells t text.toList rest := by
  obtain ⟨t, ht, hread⟩ := readString_literal text rest
  exact ⟨t, ht, readString_eq_ok_iff.1 hread⟩

theorem isText_literal (text : String) : IsText (literal text) text := by
  obtain ⟨t, ht, hspells⟩ := spells_literal text []
  exact ⟨t, by rw [← ht, List.append_nil], hspells⟩

theorem IsText.unique {v : List Char} {text text' : String} (h : IsText v text)
    (h' : IsText v text') : text = text' := by
  obtain ⟨t, rfl, hspells⟩ := h
  obtain ⟨t', heq, hspells'⟩ := h'
  obtain rfl := (List.cons.inj heq).2
  exact String.toList_injective (hspells.unique hspells').1

theorem IsOptionalText.unique {v : List Char} {x x' : Option String} (h : IsOptionalText v x)
    (h' : IsOptionalText v x') : x = x' := by
  cases h with
  | null =>
    cases h' with
    | null => rfl
    | text h' =>
      obtain ⟨t, heq, -⟩ := h'
      simp at heq
  | text h =>
    cases h' with
    | null =>
      obtain ⟨t, heq, -⟩ := h
      simp at heq
    | text h' => rw [h.unique h']

theorem IsText.form {v : List Char} {text : String} (h : IsText v text) (rest : List Char) :
    Form .value (v ++ rest) rest := by
  obtain ⟨t, rfl, hspells⟩ := h
  exact .string (hspells.append rest).isLiteral

theorem IsOptionalText.form {v : List Char} {x : Option String} (h : IsOptionalText v x)
    (rest : List Char) : Form .value (v ++ rest) rest := by
  cases h with
  | null => exact .word (by decide) rest
  | text h => exact h.form rest

/-- The head of what spells a string is that string. -/
theorem readHead_of_isText {v : List Char} {text : String} (h : IsText v text)
    (hs : Gap s (v ++ rest)) : readHead (skipBlank s) = .ok (.string text, rest) := by
  obtain ⟨l, rfl, hl⟩ := h
  have hskip : skipBlank s = '"' :: (l ++ rest) := hs.skipBlank_cons (by decide)
  have hread : readString (l ++ rest) = .ok (text.toList, rest) :=
    readString_eq_ok_iff.2 (by simpa using hl.append rest)
  simp only [hskip, readHead, hread, String.ofList_toList]

/-- The head of `null` is `null`. -/
theorem readHead_of_null (hs : Gap s (['n', 'u', 'l', 'l'] ++ rest)) :
    readHead (skipBlank s) = .ok (.null, rest) := by
  have hskip : skipBlank s = 'n' :: 'u' :: 'l' :: 'l' :: rest := hs.skipBlank_cons (by decide)
  rw [hskip]
  rfl

/-- A text that may be missing is read from what spells it and from `null`, and from nothing else. -/
theorem run_optionalText_iff (room : Nat) {x : Option String} :
    (Decoder.optionalText room).run s = .ok (x, rest) ↔
      ∃ v, Gap s (v ++ rest) ∧ IsOptionalText v x := by
  refine ⟨fun h => ?_, ?_⟩
  · simp only [Decoder.optionalText, Reader.ofHead] at h
    split at h
    · simp at h
    · rename_i head t hread
      have hform := headForm_of_readHead hread
      cases head with
      | null =>
        obtain ⟨rfl, rfl⟩ := Prod.mk.inj (Except.ok.inj h)
        have hs : skipBlank s = ['n', 'u', 'l', 'l'] ++ t := hform
        exact ⟨_, .of_skipBlank hs, .null⟩
      | string text =>
        obtain ⟨rfl, rfl⟩ := Prod.mk.inj (Except.ok.inj h)
        obtain ⟨u, hs, hspells⟩ := hform
        obtain ⟨l, rfl, hl⟩ := hspells.exists_eq_append
        exact ⟨'"' :: l, .of_skipBlank hs, .text ⟨l, rfl, hl⟩⟩
      | bool b => simp at h
      | number n => simp at h
      | openList => simp at h
      | openObject => simp at h
  · rintro ⟨v, hgap, hv⟩
    cases hv with
    | null => simp only [Decoder.optionalText, Reader.ofHead, readHead_of_null hgap]
    | text hv => simp only [Decoder.optionalText, Reader.ofHead, readHead_of_isText hv hgap]

end ParseLens.Json
