import ParseLens.Proofs.Text.Delimiters
import ParseLens.Text.Quoted

set_option autoImplicit false

/-!
# Text: what was quoted

A quoted string says which string it is: the way in which one character is written is never the
start of the way in which another one is, so the characters can be taken off one by one.

* `quoteChar_append_inj` is about one character, whatever stands behind it.
* `quoted_inj` is about strings.
-/

namespace ParseLens.Text

variable {c d : Char} {m n : Nat} {s t : List Char}

/-! ## Hexadecimal digits -/

theorem digitChar_inj (hm : m < 16) (hn : n < 16) (h : Nat.digitChar m = Nat.digitChar n) :
    m = n := by
  have hall : ∀ i < 16, ∀ j < 16, Nat.digitChar i = Nat.digitChar j → i = j := by decide
  exact hall m hm n hn h

theorem toDigits_inj (h : Nat.toDigits 16 m = Nat.toDigits 16 n) : m = n := by
  induction m using Nat.strongRecOn generalizing n with
  | ind m ih =>
    have hbase : 1 < 16 := by decide
    by_cases hm : m < 16 <;> by_cases hn : n < 16
    · rw [Nat.toDigits_of_lt_base hm, Nat.toDigits_of_lt_base hn] at h
      exact digitChar_inj hm hn (List.singleton_inj.1 h)
    · rw [Nat.toDigits_of_lt_base hm, Nat.toDigits_of_base_le hbase (by omega)] at h
      have hlength := congrArg List.length h
      simp [Nat.toDigits_ne_nil] at hlength
    · rw [Nat.toDigits_of_lt_base hn, Nat.toDigits_of_base_le hbase (by omega)] at h
      have hlength := congrArg List.length h
      simp [Nat.toDigits_ne_nil] at hlength
    · rw [Nat.toDigits_of_base_le hbase (by omega : 16 ≤ m),
        Nat.toDigits_of_base_le hbase (by omega : 16 ≤ n)] at h
      obtain ⟨hfront, hlast⟩ := List.append_inj' h rfl
      have hquotient : m / 16 = n / 16 := ih _ (Nat.div_lt_self (by omega) hbase) hfront
      have hremainder : m % 16 = n % 16 := digitChar_inj (Nat.mod_lt m (by decide))
        (Nat.mod_lt n (by decide)) (List.singleton_inj.1 hlast)
      omega

theorem closing_not_mem_toDigits (n : Nat) : '\x7d' ∉ Nat.toDigits 16 n := by
  induction n using Nat.strongRecOn with
  | ind n ih =>
    have hdigit (i : Nat) (hi : i < 16) : '\x7d' ≠ Nat.digitChar i := by
      revert i
      decide
    by_cases hn : n < 16
    · simp [Nat.toDigits_of_lt_base hn, hdigit n hn]
    · have hfront := ih _ (Nat.div_lt_self (by omega : 0 < n) (by decide : 1 < 16))
      have hlast := hdigit _ (Nat.mod_lt n (by decide))
      simp [Nat.toDigits_of_base_le (by decide : 1 < 16) (by omega : 16 ≤ n), hfront, hlast]

/-! ## Characters -/

/-- The characters with an escape of two characters, and the second of these. -/
def shortEscapes : List (Char × Char) :=
  [('\x00', '0'), ('\t', 't'), ('\n', 'n'), ('\r', 'r'), ('"', '"'), ('\\', '\\')]

/-- How a character is written in a quoted string. -/
inductive Quotes (c : Char) : List Char → Prop where
  | plain (hquote : c ≠ '"') (hslash : c ≠ '\\') : Quotes c [c]
  | short {letter : Char} (h : (c, letter) ∈ shortEscapes) : Quotes c ['\\', letter]
  | code : Quotes c ('\\' :: 'u' :: '\x7b' :: (Nat.toDigits 16 c.toNat ++ ['\x7d']))

theorem quotes_quoteChar (c : Char) : Quotes c (quoteChar c) := by
  unfold quoteChar
  split_ifs with h0 ht hn hr hquote hslash
  · exact .short (by simp [shortEscapes, h0])
  · exact .short (by simp [shortEscapes, ht])
  · exact .short (by simp [shortEscapes, hn])
  · exact .short (by simp [shortEscapes, hr])
  · exact .short (by simp [shortEscapes, hquote])
  · exact .short (by simp [shortEscapes, hslash])
  · exact .plain hquote hslash
  · exact .code

theorem Quotes.append_inj {p q : List Char} (hp : Quotes c p) (hq : Quotes d q)
    (h : p ++ s = q ++ t) : c = d ∧ s = t := by
  have hcode : ∀ e ∈ shortEscapes, e.2 ≠ 'u' := by decide
  have hsame : ∀ e ∈ shortEscapes, ∀ e' ∈ shortEscapes, e.2 = e'.2 → e.1 = e'.1 := by decide
  cases hp with
  | plain _ hslash =>
    cases hq with
    | plain => simpa using h
    | short => simp [hslash] at h
    | code => simp [hslash] at h
  | short hc =>
    cases hq with
    | plain _ hslash => simp [Ne.symm hslash] at h
    | short hd =>
      simp only [List.cons_append, List.nil_append, List.cons.injEq, true_and] at h
      exact ⟨hsame _ hc _ hd h.1, h.2⟩
    | code => simp [hcode _ hc] at h
  | code =>
    cases hq with
    | plain _ hslash => simp [Ne.symm hslash] at h
    | short hd => simp [Ne.symm (hcode _ hd)] at h
    | code =>
      simp only [List.cons_append, List.cons.injEq, true_and, List.append_assoc,
        List.nil_append] at h
      obtain ⟨hdigits, hrest⟩ := (append_cons_inj_of_first (closing_not_mem_toDigits _)
        (closing_not_mem_toDigits _)).1 h
      exact ⟨Char.toNat_inj.1 (toDigits_inj hdigits), hrest⟩

/-- What is written of a character tells the character, and where the rest begins. -/
theorem quoteChar_append_inj (h : quoteChar c ++ s = quoteChar d ++ t) : c = d ∧ s = t :=
  (quotes_quoteChar c).append_inj (quotes_quoteChar d) h

/-! ## Strings -/

theorem quoteChar_ne_nil (c : Char) : quoteChar c ≠ [] := by
  intro h
  have hc := quotes_quoteChar c
  rw [h] at hc
  cases hc

theorem flatMap_quoteChar_inj (h : s.flatMap quoteChar = t.flatMap quoteChar) : s = t := by
  induction s generalizing t with
  | nil =>
    cases t with
    | nil => rfl
    | cons d t => simp [quoteChar_ne_nil] at h
  | cons c s ih =>
    cases t with
    | nil => simp [quoteChar_ne_nil] at h
    | cons d t =>
      rw [List.flatMap_cons, List.flatMap_cons] at h
      obtain ⟨rfl, hrest⟩ := quoteChar_append_inj h
      rw [ih hrest]

/-- No two strings are quoted alike. -/
theorem quoted_inj {x y : String} : quoted x = quoted y ↔ x = y := by
  refine ⟨fun h => ?_, congrArg quoted⟩
  have hchars : x.toList.flatMap quoteChar = y.toList.flatMap quoteChar := by
    simpa [quoted, String.ofList_inj] using h
  exact String.toList_inj.1 (flatMap_quoteChar_inj hchars)

end ParseLens.Text
