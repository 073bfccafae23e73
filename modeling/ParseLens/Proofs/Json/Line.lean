import Mathlib.Tactic.SplitIfs
import ParseLens.Json.Print

set_option autoImplicit false

/-!
# JSON: compact texts stand on one line

The compact form of a value has no control character, whatever characters the strings in it hold:
inside a literal all of them are escaped, and nothing else in the form is one.  So a program may
print the form as a line, and whoever reads the lines gets the whole value.

* `unbroken_escapeChar` is about one character of a string.
* `Value.unbroken_print` is about values, by the recursion of the printer.
-/

namespace ParseLens.Json

/-- A text without control characters. -/
def Unbroken (cs : List Char) : Prop := ∀ c ∈ cs, 0x20 ≤ c.toNat

@[simp] theorem unbroken_nil : Unbroken [] := by simp [Unbroken]

@[simp] theorem unbroken_cons {c : Char} {cs : List Char} :
    Unbroken (c :: cs) ↔ 0x20 ≤ c.toNat ∧ Unbroken cs := by
  simp [Unbroken]

@[simp] theorem unbroken_append {cs ds : List Char} :
    Unbroken (cs ++ ds) ↔ Unbroken cs ∧ Unbroken ds := by
  simp [Unbroken, or_imp, forall_and]

theorem Unbroken.of_sublist {cs ds : List Char} (h : Unbroken ds) (hsub : cs.Sublist ds) :
    Unbroken cs := by
  intro c hc
  exact h c (hsub.subset hc)

/-- A line feed is a control character. -/
theorem Unbroken.lineFeed_not_mem {cs : List Char} (h : Unbroken cs) : '\n' ∉ cs := by
  intro hmem
  exact absurd (h _ hmem) (by decide)

/-! ## Strings -/

theorem le_toNat_digitChar {n : Nat} (h : n < 16) : 0x20 ≤ (Nat.digitChar n).toNat := by
  revert n
  decide

/-- No character is written as itself if it is a control character. -/
theorem unbroken_escapeChar (c : Char) : Unbroken (escapeChar c) := by
  have htwo {d : Char} (hd : 0x20 ≤ d.toNat) : Unbroken ['\\', d] := by simp [hd]
  unfold escapeChar
  split_ifs with hquote hslash hback hfeed hline hreturn htab hcontrol
  · exact htwo (by decide)
  · exact htwo (by decide)
  · exact htwo (by decide)
  · exact htwo (by decide)
  · exact htwo (by decide)
  · exact htwo (by decide)
  · exact htwo (by decide)
  · have hhigh : 0x20 ≤ (Nat.digitChar (c.toNat / 16)).toNat := le_toNat_digitChar (by omega)
    have hlow : 0x20 ≤ (Nat.digitChar (c.toNat % 16)).toNat :=
      le_toNat_digitChar (Nat.mod_lt _ (by decide))
    simp [hhigh, hlow]
  · simpa using hcontrol

theorem unbroken_literal (s : String) : Unbroken (literal s) := by
  have hcharacters : Unbroken (s.toList.flatMap escapeChar) := by
    intro d hd
    obtain ⟨c, -, hc⟩ := List.mem_flatMap.1 hd
    exact unbroken_escapeChar c d hc
  simp [literal, hcharacters]

/-! ## Numbers -/

theorem unbroken_toDigits_base {b : Nat} (hb : 1 < b) (hle : b ≤ 16) (n : Nat) :
    Unbroken (Nat.toDigits b n) := by
  induction n using Nat.strongRecOn with
  | ind n ih =>
    rw [Nat.toDigits_eq_if hb]
    split
    · rename_i hlt
      simp [le_toNat_digitChar (Nat.lt_of_lt_of_le hlt hle)]
    · rename_i hge
      have hfront : Unbroken (Nat.toDigits b (n / b)) := ih _ (Nat.div_lt_self (by omega) hb)
      have hlast : n % b < b := Nat.mod_lt n (by omega)
      simp [hfront, le_toNat_digitChar (Nat.lt_of_lt_of_le hlast hle)]

theorem unbroken_toDigits (n : Nat) : Unbroken (Nat.toDigits 10 n) :=
  unbroken_toDigits_base (by decide) (by decide) n

theorem unbroken_zeros (n : Nat) : Unbroken (List.replicate n '0') := by
  intro c hc
  rw [List.eq_of_mem_replicate hc]
  decide

theorem unbroken_layout (l : Decimal.Layout) (x : Decimal.Scientific) : Unbroken (l.text x) := by
  have hdigits : Unbroken (Nat.toDigits 10 x.digits) := unbroken_toDigits x.digits
  have htail : Unbroken (Nat.toDigits 10 x.digits).tail := hdigits.of_sublist (List.tail_sublist _)
  have htake (n : Nat) := hdigits.of_sublist (List.take_sublist n _)
  have hdrop (n : Nat) := hdigits.of_sublist (List.drop_sublist n _)
  unfold Decimal.Layout.text
  simp only
  split_ifs <;> simp [unbroken_zeros, unbroken_toDigits, htail, htake, hdrop]

theorem unbroken_number (n : Number) : Unbroken n.text := by
  cases n with
  | int n =>
    rw [Number.text]
    split <;> simp [unbroken_toDigits]
  | real negative x =>
    rw [Number.text]
    split <;> simp [unbroken_layout]

/-! ## Values -/

@[simp] theorem Spacing.lineBreak_compact (depth : Nat) : compact.lineBreak depth = [] := rfl

@[simp] theorem Spacing.afterColon_compact : compact.afterColon = [] := rfl

namespace Value

mutual

/-- The compact form of a value has no control character. -/
theorem unbroken_print (depth : Nat) : (v : Value) → Unbroken (v.print .compact depth)
  | .null => by simp [print]
  | .bool true => by simp [print]
  | .bool false => by simp [print]
  | .number n => by simpa [print] using unbroken_number n
  | .string s => by simpa [print] using unbroken_literal s
  | .array [] => by simp [print]
  | .array (v :: vs) => by
    have helements := unbroken_printElements (depth + 1) true (v :: vs)
    simp [print, helements]
  | .object [] => by simp [print]
  | .object (m :: ms) => by
    have hmembers := unbroken_printMembers (depth + 1) true (m :: ms)
    simp [print, hmembers]

theorem unbroken_printElements (depth : Nat) (first : Bool) :
    (vs : List Value) → Unbroken (printElements .compact depth first vs)
  | [] => by simp [printElements]
  | v :: vs => by
    have hv := unbroken_print depth v
    have hvs := unbroken_printElements depth false vs
    cases first <;> simp [printElements, hv, hvs]

theorem unbroken_printMembers (depth : Nat) (first : Bool) :
    (ms : List (String × Value)) → Unbroken (printMembers .compact depth first ms)
  | [] => by simp [printMembers]
  | (name, v) :: ms => by
    have hname := unbroken_literal name
    have hv := unbroken_print depth v
    have hms := unbroken_printMembers depth false ms
    cases first <;> simp [printMembers, hname, hv, hms]

end

/-- The compact text of a value is one line. -/
theorem lineFeed_not_mem_compact (v : Value) : '\n' ∉ v.compact.toList := by
  rw [compact, String.toList_ofList]
  exact (unbroken_print 0 v).lineFeed_not_mem

end Value

end ParseLens.Json
