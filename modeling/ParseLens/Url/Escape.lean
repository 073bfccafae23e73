import ParseLens.Json.StringLiteral

set_option autoImplicit false

/-!
# Url: percent escapes

In a URL a character that its place does not admit is written as the bytes of its UTF-8 form, each
as a percent sign and two hexadecimal digits.  Which characters these are depends on the place; the
sets below grow from one to the next, and every one of them holds the control characters and
everything outside ASCII.
-/

namespace ParseLens.Url

/-- Control characters, and everything outside ASCII. -/
def inControlSet (c : Char) : Bool := c.toNat < 0x20 || 0x7E < c.toNat

/-- What is escaped in a fragment. -/
def inFragmentSet (c : Char) : Bool := inControlSet c || [' ', '"', '<', '>', '`'].contains c

/-- What is escaped in a query; for the special schemes also the apostrophe. -/
def inQuerySet (special : Bool) (c : Char) : Bool :=
  inControlSet c || [' ', '"', '#', '<', '>'].contains c || (special && c == '\'')

/-- What is escaped in a segment of a path. -/
def inPathSet (c : Char) : Bool := inFragmentSet c || ['#', '?', '\x7b', '\x7d'].contains c

/-- What is escaped in a user name or password. -/
def inUserinfoSet (c : Char) : Bool :=
  inPathSet c || ['/', ':', ';', '=', '@', '[', '\\', ']', '^', '|'].contains c

/-- A hexadecimal digit in upper case. -/
def upperHexDigit (n : Nat) : Char := (Nat.digitChar n).toUpper

/-- A byte as an escape. -/
def escapeByte (b : UInt8) : List Char :=
  ['%', upperHexDigit (b.toNat / 16), upperHexDigit (b.toNat % 16)]

/-- A text in which the characters of a set are escaped. -/
def escape (set : Char → Bool) (s : List Char) : List Char :=
  s.flatMap fun c => if set c then (String.utf8EncodeChar c).flatMap escapeByte else [c]

/-- A text none of whose characters has to be escaped stays as it is. -/
theorem escape_eq_self {set : Char → Bool} {s : List Char} (h : ∀ c ∈ s, set c = false) :
    escape set s = s := by
  induction s with
  | nil => rfl
  | cons c s ih =>
    have hc := h c (by simp)
    have hs := ih fun d hd => h d (by simp [hd])
    simp only [escape] at hs
    simp [escape, hc, hs]

/-- The bytes of a text whose escapes are undone.  A percent sign without two digits behind it
stands for itself. -/
def unescape : List Char → List UInt8
  | [] => []
  | '%' :: a :: b :: s =>
    match Json.hexDigit? a, Json.hexDigit? b with
    | some x, some y => UInt8.ofNat (x * 16 + y) :: unescape s
    | _, _ => 0x25 :: unescape (a :: b :: s)
  | c :: s => String.utf8EncodeChar c ++ unescape s
termination_by s => s.length

/-- A text whose escapes are undone; none where the bytes are no text. -/
def unescapeText? (s : List Char) : Option (List Char) :=
  (String.fromUTF8? ⟨(unescape s).toArray⟩).map String.toList

end ParseLens.Url
