import ParseLens.Text.Printable

set_option autoImplicit false

/-!
# Text: quoted strings

Error messages quote the names they speak of, so that blanks at the ends, line breaks and marks
without a shape of their own can be seen.  A quoted string stands between double quotes.  Inside,
the quote, the backslash, the null character, tab, line feed and carriage return have escapes of
two characters; a character that is not printable is written by its code point in lower case
hexadecimal digits between braces; every other character stands for itself.
-/

namespace ParseLens.Text

/-- One character of a quoted string. -/
def quoteChar (c : Char) : List Char :=
  if c = '\x00' then ['\\', '0']
  else if c = '\t' then ['\\', 't']
  else if c = '\n' then ['\\', 'n']
  else if c = '\r' then ['\\', 'r']
  else if c = '"' then ['\\', '"']
  else if c = '\\' then ['\\', '\\']
  else if isPrintable c then [c]
  else ['\\', 'u', '\x7b'] ++ Nat.toDigits 16 c.toNat ++ ['\x7d']

/-- A string between double quotes, with escapes. -/
def quoted (s : String) : String :=
  String.ofList ('"' :: s.toList.flatMap quoteChar ++ ['"'])

example : quoteChar '\u00ad' = "\\u\x7bad\x7d".toList := by decide

end ParseLens.Text
