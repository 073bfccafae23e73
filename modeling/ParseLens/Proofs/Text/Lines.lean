import Mathlib.Algebra.GroupWithZero.Nat
import Mathlib.Data.List.DropRight
import ParseLens.Text.Blank

set_option autoImplicit false

/-!
# Text: lines, and what stands where on a line

A text is cut into lines at its line feeds.  On a line a text stands at a place when the characters
from that place on are those of the text; places are counted in characters, from zero.

White space at the end of a line may be dropped without harm to a text that stands on it, unless the
text itself ends in white space: this is `StandsAt.trimEnd`, for which the whole line and the trimmed
one need not be told apart.

* `lines_join` says that cutting undoes writing lines one behind the other.
* `standsAt_intercalate` says where the parts of a joined line stand.
-/

namespace ParseLens.Text

/-! ## Lines -/

/-- Put a character in front of the first line. -/
def consLine (c : Char) : List (List Char) → List (List Char)
  | [] => [[c]]
  | line :: rest => (c :: line) :: rest

/-- The lines of a text: the runs of characters up to each line feed, and what is left behind the last
line feed unless this is nothing. -/
def linesOf : List Char → List (List Char)
  | [] => []
  | c :: s => if c = '\n' then [] :: linesOf s else consLine c (linesOf s)

/-- The lines of a text. -/
def lines (s : String) : List String := (linesOf s.toList).map String.ofList

theorem linesOf_append_lineFeed {line : List Char} (h : '\n' ∉ line) (s : List Char) :
    linesOf (line ++ '\n' :: s) = line :: linesOf s := by
  induction line with
  | nil => simp [linesOf]
  | cons c line ih =>
    obtain ⟨hc, hline⟩ := not_or.1 (mt List.mem_cons.2 h)
    have hc' : ¬ c = '\n' := fun e => hc e.symm
    simp [linesOf, hc', ih hline, consLine]

/-- Lines that are written one behind the other, each with a line feed, are the lines of what is
written. -/
theorem lines_join {ls : List String} (h : ∀ l ∈ ls, '\n' ∉ l.toList) :
    lines (String.join (ls.map fun l => l ++ "\n")) = ls := by
  induction ls with
  | nil => rfl
  | cons l ls ih =>
    obtain ⟨hl, hls⟩ := List.forall_mem_cons.1 h
    have hrest := ih hls
    unfold lines at hrest ⊢
    simpa [linesOf_append_lineFeed hl] using hrest

/-! ## White space at the end -/

/-- Whether a text ends in white space. -/
def EndsBlank (s : String) : Prop := ∃ c, s.toList.getLast? = some c ∧ isBlank c = true

theorem endsBlank_iff {s : String} : EndsBlank s ↔ s.toList.getLast?.any isBlank = true := by
  simp [EndsBlank, Option.any_eq_true]

instance (s : String) : Decidable (EndsBlank s) := decidable_of_iff' _ endsBlank_iff

theorem not_endsBlank_append (front : String) {s : String} (hne : s ≠ "") (h : ¬ EndsBlank s) :
    ¬ EndsBlank (front ++ s) := by
  rintro ⟨c, hc, hblank⟩
  have hnil : s.toList ≠ [] := fun e => hne (String.toList_eq_nil_iff.1 e)
  rw [String.toList_append, List.getLast?_append_of_ne_nil _ hnil] at hc
  exact h ⟨c, hc, hblank⟩

theorem trimEndOf_eq_rdropWhile (s : List Char) : trimEndOf s = s.rdropWhile isBlank := rfl

/-- Trimming keeps what stands in front and does not end in white space. -/
theorem prefix_trimEndOf {s : List Char} (h : ∀ c, s.getLast? = some c → isBlank c = false)
    (rest : List Char) : s <+: trimEndOf (s ++ rest) := by
  rw [trimEndOf_eq_rdropWhile]
  induction rest using List.reverseRecOn with
  | nil =>
    have hself : s.rdropWhile isBlank = s := by
      refine List.rdropWhile_eq_self_iff.2 fun hne => ?_
      simp [h _ (List.getLast?_eq_some_getLast hne)]
    simp only [List.append_nil, hself, List.prefix_rfl]
  | append_singleton rest c ih =>
    rw [← List.append_assoc, List.rdropWhile_concat]
    split
    · exact ih
    · rw [List.append_assoc]
      exact List.prefix_append _ _

/-- A trimmed text does not end in white space. -/
theorem not_endsBlank_trimEnd (s : String) : ¬ EndsBlank (trimEnd s) := by
  rintro ⟨c, hlast, hc⟩
  rw [trimEnd, String.toList_ofList, trimEndOf_eq_rdropWhile] at hlast
  have hne : s.toList.rdropWhile isBlank ≠ [] := by
    intro hnil
    simp [hnil] at hlast
  have hnot := List.rdropWhile_last_not isBlank s.toList hne
  rw [List.getLast?_eq_some_getLast hne] at hlast
  rw [Option.some.inj hlast] at hnot
  exact hnot hc

/-- A text that does not end in white space is not changed by trimming its end. -/
theorem trimEnd_eq_self {s : String} (h : ¬ EndsBlank s) : trimEnd s = s := by
  have hkept : s.toList <+: trimEndOf s.toList := by
    have hprefix := prefix_trimEndOf (s := s.toList) (fun c hc => ?_) []
    · rwa [List.append_nil] at hprefix
    · by_contra hblank
      exact h ⟨c, hc, by simpa using hblank⟩
  have hsame : trimEndOf s.toList = s.toList :=
    ((List.rdropWhile_prefix isBlank s.toList).eq_of_length_le hkept.length_le)
  rw [trimEnd, hsame, String.ofList_toList]

theorem mem_of_mem_trimEnd {s : String} {c : Char} (h : c ∈ (trimEnd s).toList) : c ∈ s.toList := by
  rw [trimEnd, String.toList_ofList, trimEndOf_eq_rdropWhile] at h
  exact (List.rdropWhile_prefix isBlank s.toList).subset h

/-! ## Places -/

/-- The characters of a line from the place `p` on are those of `s`, and perhaps more. -/
def StandsAt (line : String) (p : Nat) (s : String) : Prop := s.toList <+: line.toList.drop p

instance (line : String) (p : Nat) (s : String) : Decidable (StandsAt line p s) :=
  inferInstanceAs (Decidable (s.toList <+: line.toList.drop p))

namespace StandsAt

variable {line s : String} {p : Nat}

theorem self (s rest : String) : StandsAt (s ++ rest) 0 s := by
  simp [StandsAt]

/-- More in front moves the place. -/
theorem append_left (h : StandsAt line p s) (before : String) :
    StandsAt (before ++ line) (before.length + p) s := by
  unfold StandsAt
  rw [String.toList_append, ← String.length_toList, List.drop_length_add_append]
  exact h

/-- More behind does no harm. -/
theorem append_right (h : StandsAt line p s) (behind : String) :
    StandsAt (line ++ behind) p s := by
  unfold StandsAt
  rw [String.toList_append, List.drop_append]
  exact h.trans (List.prefix_append _ _)

/-- What a text starts with stands where the text does. -/
theorem of_append {rest : String} (h : StandsAt line p (s ++ rest)) : StandsAt line p s := by
  unfold StandsAt at h
  rw [String.toList_append] at h
  exact (List.prefix_append _ _).trans h

/-- Dropping the white space at the end of a line leaves a text where it stands, unless the text
ends in white space as well. -/
theorem trimEnd (h : StandsAt line p s) (hs : ¬ EndsBlank s) :
    StandsAt (Text.trimEnd line) p s := by
  obtain ⟨rest, hrest⟩ := h
  by_cases hnil : s.toList = []
  · simp [StandsAt, hnil]
  · have hp : p ≤ line.toList.length := by
      by_contra hlt
      have hdrop : line.toList.drop p = [] := List.drop_eq_nil_of_le (by omega)
      rw [hdrop] at hrest
      exact hnil (List.append_eq_nil_iff.1 hrest).1
    have hline : line.toList = (line.toList.take p ++ s.toList) ++ rest := by
      rw [List.append_assoc, hrest, List.take_append_drop]
    have hlast : ∀ c, (line.toList.take p ++ s.toList).getLast? = some c → isBlank c = false := by
      intro c hc
      rw [List.getLast?_append_of_ne_nil _ hnil] at hc
      by_contra hblank
      exact hs ⟨c, hc, by simpa using hblank⟩
    obtain ⟨more, hmore⟩ := prefix_trimEndOf hlast rest
    have hlength : (line.toList.take p).length = p := List.length_take_of_le hp
    unfold StandsAt
    rw [Text.trimEnd, String.toList_ofList, hline, ← hmore, List.append_assoc]
    rw [List.drop_append_of_le_length (by omega), List.drop_of_length_le (by omega)]
    simp

end StandsAt

theorem standsAt_singleton_iff {line : String} {p : Nat} {c : Char} :
    StandsAt line p (String.singleton c) ↔ line.toList[p]? = some c := by
  rw [StandsAt, String.toList_singleton, ← List.head?_drop]
  cases line.toList.drop p with
  | nil => simp
  | cons d rest => simp [eq_comm]

theorem not_standsAt_of_not_mem {line : String} {c : Char} (h : c ∉ line.toList) (p : Nat) :
    ¬ StandsAt line p (String.singleton c) :=
  fun hplace => h (List.mem_of_getElem? (standsAt_singleton_iff.1 hplace))

/-- A character that is not in front of a place stands there first, and then where it stands behind
that place. -/
theorem standsAt_append_singleton_iff {front : String} {c : Char} (h : c ∉ front.toList)
    (behind : String) {p : Nat} :
    StandsAt (front ++ (String.singleton c ++ behind)) p (String.singleton c) ↔
      p = front.length ∨ ∃ q, p = front.length + 1 + q ∧ StandsAt behind q (String.singleton c) := by
  simp only [standsAt_singleton_iff, String.toList_append, String.toList_singleton,
    ← String.length_toList, List.singleton_append]
  rcases Nat.lt_trichotomy p front.toList.length with hlt | rfl | hgt
  · rw [List.getElem?_append_left hlt]
    constructor
    · exact fun hc => absurd (List.mem_of_getElem? hc) h
    · rintro (rfl | ⟨q, rfl, -⟩) <;> omega
  · simp
  · obtain ⟨q, rfl⟩ := Nat.exists_eq_add_of_lt hgt
    rw [List.getElem?_append_right (by omega)]
    have hindex : front.toList.length + q + 1 - front.toList.length = q + 1 := by omega
    rw [hindex, List.getElem?_cons_succ]
    constructor
    · exact fun hc => .inr ⟨q, by omega, hc⟩
    · rintro (hp | ⟨k, hk, hc⟩)
      · omega
      · obtain rfl : q = k := by omega
        exact hc

/-! ## Joined texts -/

theorem not_mem_intercalate {c : Char} {sep : String} (hsep : c ∉ sep.toList)
    {parts : List String} (h : ∀ part ∈ parts, c ∉ part.toList) :
    c ∉ (sep.intercalate parts).toList := by
  induction parts with
  | nil => simp
  | cons part parts ih =>
    obtain ⟨hpart, hparts⟩ := List.forall_mem_cons.1 h
    by_cases hnil : parts = []
    · rw [hnil, String.intercalate_singleton]
      exact hpart
    · rw [String.intercalate_cons_of_ne_nil hnil]
      simp only [String.toList_append, List.mem_append, not_or]
      exact ⟨⟨hpart, hsep⟩, ih hparts⟩

/-- The parts of a joined line stand behind those in front of them and the separators. -/
theorem standsAt_intercalate (sep : String) {parts : List String} {j : Nat} {s : String}
    (h : parts[j]? = some s) :
    StandsAt (sep.intercalate parts)
      ((parts.take j).map fun part => part.length + sep.length).sum s := by
  induction parts generalizing j with
  | nil => simp at h
  | cons part parts ih =>
    cases j with
    | zero =>
      obtain rfl : part = s := by simpa using h
      cases parts with
      | nil => simp [StandsAt]
      | cons next parts =>
        rw [String.intercalate_cons_cons, String.append_assoc]
        exact .self part _
    | succ j =>
      rw [List.getElem?_cons_succ] at h
      have hne : parts ≠ [] := by
        rintro rfl
        simp at h
      rw [String.intercalate_cons_of_ne_nil hne]
      have hplace := (ih h).append_left (part ++ sep)
      simpa [String.length_append] using hplace

theorem length_intercalate (sep : String) (parts : List String) :
    (sep.intercalate parts).length =
      (parts.map String.length).sum + sep.length * (parts.length - 1) := by
  induction parts with
  | nil => simp
  | cons part parts ih =>
    cases parts with
    | nil => simp
    | cons next parts =>
      rw [String.intercalate_cons_cons, String.length_append, String.length_append, ih]
      simp only [List.map_cons, List.sum_cons, List.length_cons, Nat.add_sub_cancel, Nat.mul_add]
      omega

end ParseLens.Text
