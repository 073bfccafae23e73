import ParseLens.Url.Path

set_option autoImplicit false

/-!
# Url: reading and joining

Reading an address: blanks and control characters at the ends are dropped, line breaks and tabs
everywhere, and what is left is cut into its parts from left to right.  In the path of a file a line
break or tab is dropped last, since a drive may end there.

`Url.join` resolves a relative path against an address: its last segment makes room for the
segments of the path, and query and fragment are dropped.
-/

namespace ParseLens.Url

/-! ## Cutting -/

/-- Drop blanks and control characters at the ends. -/
def trimEnds (s : List Char) : List Char :=
  let outer (c : Char) : Bool := c.toNat ≤ 0x20
  ((s.dropWhile outer).reverse.dropWhile outer).reverse

/-- Split at the first character of a kind; what it splits at begins the second part. -/
def spanUntil (stop : Char → Bool) (s : List Char) : List Char × List Char :=
  s.span fun c => !stop c

/-- Split off the scheme and its colon: a letter, then letters, digits, plus, minus and points. -/
def cutScheme (s : List Char) : Option (String × List Char) :=
  let inScheme (c : Char) : Bool := c.isAlphanum || c == '+' || c == '-' || c == '.'
  match spanUntil (· == ':') s with
  | (_, []) => none
  | (front, _ :: rest) =>
    let name := visible front
    if (name.head?.any Char.isAlpha) && name.all inScheme then
      some (String.ofList (name.map Char.toLower), rest)
    else none

/-- Split a text at the last place where a character stands. -/
def cutLast (sep : Char) (s : List Char) : Option (List Char × List Char) :=
  match s.reverse.span (· != sep) with
  | (_, []) => none
  | (back, _ :: front) => some (front.reverse, back.reverse)

/-- Query and fragment at the end of an address; `s` is empty or starts with the mark of one. -/
def parseTail (special : Bool) (s : List Char) : Option String × Option String :=
  let fragmentOf : List Char → Option String
    | '#' :: f => some (String.ofList (escape inFragmentSet f))
    | _ => none
  match s with
  | '?' :: rest =>
    let (q, f) := spanUntil (· == '#') rest
    (some (String.ofList (escape (inQuerySet special) q)), fragmentOf f)
  | f => (none, fragmentOf f)

/-- Whether a query or fragment starts. -/
def startsTail (c : Char) : Bool := c == '?' || c == '#'

/-! ## Authorities -/

/-- User name and password, and the text behind them; they end at the last `@`. -/
def parseUserinfo (style : PathStyle) (s : List Char) :
    Except Fault (String × String × List Char) :=
  let (authority, rest) := spanUntil (fun c => style.separates c || startsTail c) s
  match cutLast '@' authority with
  | none => .ok ("", "", s)
  | some ([], []) => if rest.isEmpty then .ok ("", "", []) else .error .emptyHost
  | some (credentials, host) =>
    let (user, password) := spanUntil (· == ':') credentials
    .ok (String.ofList (escape inUserinfoSet user),
      String.ofList (escape inUserinfoSet (password.drop 1)), host ++ rest)

/-- Split off the text of a host.  It ends at a colon, unless that stands in brackets. -/
def cutHost (style : PathStyle) : Bool → List Char → List Char × List Char
  | _, [] => ([], [])
  | bracketed, c :: s =>
    if (c == ':' && !bracketed) || style.separates c || startsTail c then ([], c :: s)
    else
      let inner := if c == '[' then true else if c == ']' then false else bracketed
      ((c :: (cutHost style inner s).1), (cutHost style inner s).2)

/-- Read a port behind its colon.  The port of the scheme itself is not kept. -/
def parsePort (default : Option Nat) (s : List Char) : Except Fault (Option Nat × List Char) :=
  let (digits, rest) := s.span Char.isDigit
  let port := Nat.ofDigitChars 10 digits 0
  if 0xFFFF < port then .error .badPort
  else
    let kept := if digits.isEmpty ∨ default = some port then none else some port
    match rest with
    | [] => .ok (kept, [])
    | c :: _ =>
      if c == '/' || c == '\\' || startsTail c then .ok (kept, rest) else .error .badPort

/-- Read an authority, from behind its slashes. -/
def parseAuthority (scheme : String) (s : List Char) : Except Fault (Authority × List Char) := do
  let style := pathStyle scheme
  let (username, password, s) ← parseUserinfo style s
  let (hostText, rest) := cutHost style false s
  if style = .special ∧ hostText = [] then throw .emptyHost
  let host ← if style = .special then parseSpecialHost hostText else parseOpaqueHost hostText
  if hostText = [] ∧ rest.head? = some ':' then throw .emptyHost
  if hostText = [] ∧ (username ≠ "" ∨ password ≠ "") then throw .emptyHost
  match rest with
  | ':' :: afterColon =>
    let (port, rest) ← parsePort (defaultPort scheme) afterColon
    return (⟨username, password, host, port⟩, rest)
  | _ => return (⟨username, password, host, none⟩, rest)

/-! ## Addresses -/

/-- Finish an address whose authority has been read. -/
def withPath (scheme : String) (authority : Option Authority) (s : List Char) : Url :=
  let (path, tail) := spanUntil startsTail s
  let (query, fragment) := parseTail (isSpecial scheme) tail
  ⟨scheme, authority, .segments (parsePath (pathStyle scheme) path), query, fragment⟩

/-- Read an address of another scheme than the special ones, from behind its colon. -/
def parseOther (scheme : String) (s : List Char) : Except Fault Url :=
  match s with
  | '/' :: '/' :: rest => do
    let (authority, rest) ← parseAuthority scheme rest
    return withPath scheme (some authority) rest
  | '/' :: _ => .ok (withPath scheme none s)
  | _ =>
    let (path, tail) := spanUntil startsTail s
    let (query, fragment) := parseTail false tail
    .ok ⟨scheme, none, .opaqueText (String.ofList (escape inControlSet path)), query, fragment⟩

/-- The address of a file, with the segments of its path and the text behind the path. -/
def fileAddress (host : Host) (path : List String) (tail : List Char) : Url :=
  let (query, fragment) := parseTail true (visible tail)
  ⟨"file", some ⟨"", "", host, none⟩, .segments path, query, fragment⟩

/-- The host of a file on this machine. -/
def localHost : Host := .name ""

/-- The address of a file on this machine, from behind the slash that starts its path. -/
def localFile (s : List Char) : Url :=
  let (path, tail) := spanUntil startsTail s
  fileAddress localHost (parseFilePath path) tail

/-- Read the address of a file, from behind its colon.  Only behind two slashes there is a host, and
what looks like a drive is none.  A path that gets a drive belongs to this machine.  Where the host
is empty, or is said to be this machine, the slash behind it belongs to the path. -/
def parseFile (s : List Char) : Except Fault Url :=
  match cutSeparator? .file s with
  | none => .ok (localFile s)
  | some s =>
    match cutSeparator? .file s with
    | none => .ok (localFile s)
    | some s => do
      let (hostText, after) := spanUntil (fun c => PathStyle.file.separates c || startsTail c) s
      if isDrive (visible hostText) then return localFile s
      if (visible hostText).isEmpty then return localFile after
      let host ← parseSpecialHost (visible hostText)
      if host = .name "localhost" then return localFile after
      let (path, tail) := spanUntil startsTail ((cutSeparator? .file after).getD after)
      let owner := if getsDrive [] (splitSegments .file path) then localHost else host
      return fileAddress owner (parseFilePath path) tail

/-- Read an address that is not relative. -/
def parse (text : String) : Except Fault Url :=
  match cutScheme (trimEnds text.toList) with
  | none => .error .relative
  | some (scheme, rest) =>
    match pathStyle scheme with
    | .file => parseFile rest
    | .special => do
      let (authority, rest) ←
        parseAuthority scheme ((visible rest).dropWhile PathStyle.special.separates)
      return withPath scheme (some authority) rest
    | .plain => parseOther scheme (visible rest)

/-! ## Joining -/

/-- The address with a slash at the end of its path.  Where a slash is added to the path of a file,
the path is read once more, and its first segment may now be a drive. -/
def closePath (u : Url) : Url :=
  match u.path with
  | .segments l =>
    if l.getLast? = some "" then u
    else if u.scheme = "file" then
      { u with path := .segments (dropEmptyFront
          (addSegments .file [] ((l ++ [""]).map String.toList))) }
    else { u with path := .segments (l ++ [""]) }
  | .opaqueText s => if s.endsWith "/" then u else { u with path := .opaqueText (s ++ "/") }

/-- Resolve a relative path against an address. -/
def join (u : Url) (reference : String) : Except Fault Url :=
  match u.path with
  | .segments l =>
    let style := pathStyle u.scheme
    let path := addSegments style l.dropLast (splitSegments style reference.toList)
    .ok { u with path := .segments path, query := none, fragment := none }
  | .opaqueText _ => .error .opaqueBase

end ParseLens.Url
