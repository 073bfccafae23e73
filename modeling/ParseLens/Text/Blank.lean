set_option autoImplicit false

/-!
# Text: white space

The characters that separate words, and the three operations that depend on them: cutting a text
into its words, and dropping white space at the end or at both ends.  Everything is stated on
`List Char`; the `String` versions at the end only convert.

The main facts are `wordsOf_cons_of_isBlank` and `wordsOf_eq_nil_iff`: white space in front of a text
adds no word, and a text without words is one that holds white space only.  The second is what
makes the two notions of a blank text in this library agree, the one that trims and the one that
splits.
-/

namespace ParseLens.Text

/-- Unicode's `White_Space`: the ASCII blanks and line ends, next line, and the space and line
separators.  The zero-width space and the byte order mark are not in it. -/
def isBlank (c : Char) : Bool :=
  let n := c.toNat
  (9 ≤ n && n ≤ 13) || n == 0x20 || n == 0x85 || n == 0xA0 || n == 0x1680 ||
    (0x2000 ≤ n && n ≤ 0x200A) || n == 0x2028 || n == 0x2029 || n == 0x202F || n == 0x205F ||
    n == 0x3000

/-! ## Words -/

/-- Put a word in front of others, unless it is empty. -/
def consWord (w : List Char) (ws : List (List Char)) : List (List Char) :=
  if w.isEmpty then ws else w :: ws

/-- The word that starts at the very front (empty when nothing is there, or white space), and the
words after it. -/
def leadWord : List Char → List Char × List (List Char)
  | [] => ([], [])
  | c :: cs =>
    let (w, ws) := leadWord cs
    if isBlank c then ([], consWord w ws) else (c :: w, ws)

/-- The words of a text: its maximal runs of characters that are not white space. -/
def wordsOf (s : List Char) : List (List Char) :=
  consWord (leadWord s).1 (leadWord s).2

@[simp] theorem wordsOf_nil : wordsOf [] = [] := rfl

theorem wordsOf_cons_of_isBlank {c : Char} (h : isBlank c = true) (s : List Char) :
    wordsOf (c :: s) = wordsOf s := by
  simp [wordsOf, leadWord, h, consWord]

theorem wordsOf_eq_nil_iff {s : List Char} : wordsOf s = [] ↔ ∀ c ∈ s, isBlank c = true := by
  induction s with
  | nil => simp
  | cons c s ih =>
    by_cases h : isBlank c = true
    · simp [wordsOf_cons_of_isBlank h, ih, h]
    · simp [wordsOf, leadWord, h, consWord]

/-! ## Trimming -/

/-- Drop the white space at the end. -/
def trimEndOf (s : List Char) : List Char :=
  (s.reverse.dropWhile isBlank).reverse

/-- Drop the white space at both ends. -/
def trimOf (s : List Char) : List Char :=
  trimEndOf (s.dropWhile isBlank)

/-! ## On strings -/

/-- The words of a text. -/
def words (s : String) : List String :=
  (wordsOf s.toList).map String.ofList

/-- The text without the white space at its end. -/
def trimEnd (s : String) : String :=
  String.ofList (trimEndOf s.toList)

/-- Whether trimming a text at both ends leaves nothing. -/
def isBlankText (s : String) : Bool :=
  (trimOf s.toList).isEmpty

end ParseLens.Text
