import ParseLens.Url.Host

set_option autoImplicit false

/-!
# Url: addresses

An address in its parts.  Some schemes are special: they always have a host and a path, and read
backslashes as slashes.  An address without slashes behind its scheme has an opaque path, which is
a mere text; any other path is a list of segments, the last of which is empty when the path ends
in a slash.
-/

namespace ParseLens

namespace Url

/-- Who is spoken to, and where. -/
structure Authority where
  /-- The user name, escaped; empty when there is none. -/
  username : String
  /-- The password, escaped; empty when there is none. -/
  password : String
  /-- The host. -/
  host : Host
  /-- The port, where it is not the one of the scheme. -/
  port : Option Nat
  deriving DecidableEq, Repr, Inhabited

/-- The path of an address. -/
inductive Path where
  /-- A text without structure. -/
  | opaqueText (s : String)
  /-- Segments, each behind a slash. -/
  | segments (l : List String)
  deriving DecidableEq, Repr, Inhabited

end Url

/-- An address. -/
structure Url where
  /-- The scheme, in small letters. -/
  scheme : String
  /-- The authority, if there is one. -/
  authority : Option Url.Authority
  /-- The path. -/
  path : Url.Path
  /-- What stands behind a question mark. -/
  query : Option String
  /-- What stands behind a number sign. -/
  fragment : Option String
  deriving DecidableEq, Repr, Inhabited

namespace Url

/-- The special schemes with their ports. -/
def specialSchemes : List (String × Option Nat) :=
  [("http", some 80), ("https", some 443), ("ws", some 80), ("wss", some 443), ("ftp", some 21),
    ("file", none)]

/-- Whether a scheme is special. -/
def isSpecial (scheme : String) : Bool := (specialSchemes.lookup scheme).isSome

/-- The port of a scheme. -/
def defaultPort (scheme : String) : Option Nat := (specialSchemes.lookup scheme).join

/-- The text of the credentials. -/
def Authority.userinfo (a : Authority) : String :=
  if a.username = "" ∧ a.password = "" then ""
  else a.username ++ (if a.password = "" then "" else ":" ++ a.password) ++ "@"

/-- The text of an authority. -/
def Authority.text (a : Authority) : String :=
  a.userinfo ++ a.host.text ++
    match a.port with
    | none => ""
    | some n => ":" ++ toString n

/-- The text of a path. -/
def Path.text : Path → String
  | .opaqueText s => s
  | .segments l => String.join (l.map ("/" ++ ·))

/-- What keeps a path apart from the scheme: the authority, or a dot where the path would look like
one. -/
def authorityText (u : Url) : String :=
  match u.authority, u.path with
  | some a, _ => "//" ++ a.text
  | none, .segments ("" :: _ :: _) => "/."
  | none, _ => ""

/-- The text of an address. -/
def text (u : Url) : String :=
  u.scheme ++ ":" ++ u.authorityText ++ u.path.text ++
    (match u.query with
      | none => ""
      | some q => "?" ++ q) ++
    match u.fragment with
    | none => ""
    | some f => "#" ++ f

end Url

end ParseLens
