import ParseLens.Json.Value
import ParseLens.Text.Quoted

set_option autoImplicit false

/-!
# JSON: faults

Why a JSON text is refused, and where.  A reader that meets a fault knows the text it has not read
yet; the place of the fault is a number of bytes into that.  Line and column are worked out from
the whole text only when the message is written (`Fault.message`).

A position lies behind the bytes that have been read.  Most faults of the grammar also count the
byte that is out of place, so they are `ahead` by one byte; at the end of the text nothing is
there to be counted.
-/

namespace ParseLens.Json

/-- What stands in a place where something else was expected. -/
inductive Found where
  | null
  | bool (b : Bool)
  | number (n : Number)
  | string (s : String)
  | list
  | map
  deriving Repr, Inhabited

/-- The name that a message has for what stands there. -/
def Found.describe : Found → String
  | .null => "null"
  | .bool true => "boolean `true`"
  | .bool false => "boolean `false`"
  | .number (.int n) => "integer `" ++ String.ofList (Number.int n).text ++ "`"
  | .number n => "floating point `" ++ String.ofList n.text ++ "`"
  | .string s => "string " ++ Text.quoted s
  | .list => "sequence"
  | .map => "map"

/-- Why a text is refused. -/
inductive Cause where
  /-- The text ends where a value is due, or inside a word or number. -/
  | endInValue
  /-- The text ends inside an array. -/
  | endInList
  /-- The text ends inside an object. -/
  | endInObject
  /-- The text ends inside a string. -/
  | endInString
  /-- No value starts with this character. -/
  | valueExpected
  /-- A word other than `true`, `false` and `null`. -/
  | wordExpected
  /-- No colon after the name of a member. -/
  | colonExpected
  /-- Neither a comma nor the end of the array after an element. -/
  | listEndExpected
  /-- Neither a comma nor the end of the object after a member. -/
  | objectEndExpected
  /-- A member whose name is not a string. -/
  | nameExpected
  /-- A closing bracket after a comma. -/
  | trailingComma
  /-- Something after the end. -/
  | trailingCharacters
  /-- A number that lacks digits, or starts with a zero too many. -/
  | invalidNumber
  /-- A number beyond the largest floating point number. -/
  | numberOutOfRange
  /-- An escape that is not one of the known ones. -/
  | invalidEscape
  /-- Half of a pair of escapes, or two first halves. -/
  | loneSurrogate
  /-- The first half of a pair of escapes without another escape after it. -/
  | secondEscapeExpected
  /-- A control character inside a string. -/
  | controlCharacter
  /-- More brackets inside each other than are allowed. -/
  | tooDeep
  /-- A value of another kind than expected. -/
  | wrongKind (found : Found) (expected : String)
  /-- A number of the expected kind that does not fit. -/
  | wrongValue (found : Found) (expected : String)
  /-- An array with too few elements. -/
  | wrongLength (length : Nat) (expected : String)
  /-- A member that has to be there is not. -/
  | missingField (name : String)
  /-- A member is there twice. -/
  | duplicateField (name : String)
  /-- A name that is neither of the two alternatives. -/
  | unknownVariant (name first second : String)
  /-- A value that is well formed, but none of the alternative shapes of the named type. -/
  | noShape (type : String)
  deriving Repr, Inhabited

/-- The message for a cause, without the place. -/
def Cause.message : Cause → String
  | .endInValue => "EOF while parsing a value"
  | .endInList => "EOF while parsing a list"
  | .endInObject => "EOF while parsing an object"
  | .endInString => "EOF while parsing a string"
  | .valueExpected => "expected value"
  | .wordExpected => "expected ident"
  | .colonExpected => "expected `:`"
  | .listEndExpected => "expected `,` or `]`"
  | .objectEndExpected => "expected `,` or `\x7d`"
  | .nameExpected => "key must be a string"
  | .trailingComma => "trailing comma"
  | .trailingCharacters => "trailing characters"
  | .invalidNumber => "invalid number"
  | .numberOutOfRange => "number out of range"
  | .invalidEscape => "invalid escape"
  | .loneSurrogate => "lone leading surrogate in hex escape"
  | .secondEscapeExpected => "unexpected end of hex escape"
  | .controlCharacter => "control character (\\u0000-\\u001F) found while parsing a string"
  | .tooDeep => "recursion limit exceeded"
  | .wrongKind found expected => "invalid type: " ++ found.describe ++ ", expected " ++ expected
  | .wrongValue found expected => "invalid value: " ++ found.describe ++ ", expected " ++ expected
  | .wrongLength n expected => "invalid length " ++ toString n ++ ", expected " ++ expected
  | .missingField name => "missing field `" ++ name ++ "`"
  | .duplicateField name => "duplicate field `" ++ name ++ "`"
  | .unknownVariant name first second =>
    "unknown variant `" ++ name ++ "`, expected `" ++ first ++ "` or `" ++ second ++ "`"
  | .noShape type => "data did not match any variant of untagged enum " ++ type

/-! ## Places -/

/-- A fault, as the reader that meets it sees it. -/
structure Fault where
  /-- Why the text is refused. -/
  cause : Cause
  /-- The text that has not been read. -/
  unread : List Char
  /-- How many bytes of it the place of the fault lies ahead. -/
  ahead : Nat
  deriving Repr, Inhabited

/-- The length of a text in bytes. -/
def byteLength (s : List Char) : Nat := s.foldr (fun c n => c.utf8Size + n) 0

/-- The number of lines that end, and the bytes since the last of these ends, in the first `n`
bytes of a text; `line` and `column` are what came before. -/
def placeFrom (line column : Nat) : List Char → Nat → Nat × Nat
  | [], _ => (line, column)
  | c :: s, n =>
    if n < c.utf8Size then (line, column + n)
    else if c = '\n' then placeFrom (line + 1) 0 s (n - c.utf8Size)
    else placeFrom line (column + c.utf8Size) s (n - c.utf8Size)

namespace Fault

/-- Line, from one, and column in bytes of a fault in the given text. -/
def place (f : Fault) (text : List Char) : Nat × Nat :=
  placeFrom 1 0 text (byteLength text - byteLength f.unread + f.ahead)

/-- The message for a fault in the given text.  That a value has none of several shapes is said
of the whole of it, so that message has no place. -/
def message (f : Fault) (text : List Char) : String :=
  match f.cause with
  | .noShape type => (Cause.noShape type).message
  | cause =>
    let (line, column) := f.place text
    cause.message ++ " at line " ++ toString line ++ " column " ++ toString column

end Fault

end ParseLens.Json
