import ParseLens.Url.Basic

set_option autoImplicit false

/-!
# Url: paths

A path is read segment by segment.  A single dot stands for no segment and a double dot takes the
last one back, also where the dots are escaped; behind such a segment at the very end the path
ends in a slash.  What looks like the drive of a file is never taken back, whatever the scheme.

The first segment of a file path is a drive if it looks like one: a bar in it is written as a
colon.  Empty segments in front of the others are dropped when all are read, so a drive behind one
of them was not the first.
-/

namespace ParseLens.Url

/-- What a scheme decides about paths. -/
inductive PathStyle where
  /-- Slashes separate. -/
  | plain
  /-- Slashes and backslashes separate. -/
  | special
  /-- The same, and a first segment may be a drive. -/
  | file
  deriving DecidableEq, Repr, Inhabited

/-- The style of the paths of a scheme. -/
def pathStyle (scheme : String) : PathStyle :=
  if scheme = "file" then .file else if isSpecial scheme then .special else .plain

/-- Whether a character separates segments. -/
def PathStyle.separates (style : PathStyle) (c : Char) : Bool :=
  c == '/' || (style != .plain && c == '\\')

/-- A text in which escaped dots are dots. -/
def revealDots : List Char → List Char
  | '%' :: '2' :: 'e' :: s | '%' :: '2' :: 'E' :: s => '.' :: revealDots s
  | c :: s => c :: revealDots s
  | [] => []

/-- Whether a segment stands for no segment. -/
def isSingleDot (s : List Char) : Bool := revealDots s == ['.']

/-- Whether a segment takes the last one back. -/
def isDoubleDot (s : List Char) : Bool := revealDots s == ['.', '.']

/-- Tabs and line breaks, which are not part of an address. -/
def isLayout (c : Char) : Bool := c == '\t' || c == '\n' || c == '\r'

/-- A text without its tabs and line breaks. -/
def visible (s : List Char) : List Char := s.filter fun c => !isLayout c

theorem visible_eq_self {s : List Char} (h : ∀ c ∈ s, isLayout c = false) : visible s = s :=
  List.filter_eq_self.2 fun c hc => by simp [h c hc]

@[simp] theorem visible_visible (s : List Char) : visible (visible s) = visible s := by
  simp [visible]

/-! ## Drives -/

/-- Whether a segment names a drive: a letter and a colon, or a bar in its place. -/
def isDrive : List Char → Bool
  | [c, d] => c.isAlpha && (d == ':' || d == '|')
  | _ => false

/-- Whether a segment looks like a drive, up to a backslash. -/
def startsWithDrive (s : List Char) : Bool := isDrive (s.takeWhile (· != '\\'))

example : startsWithDrive ['C', '|'] ∧ startsWithDrive ['c', ':', '\\', 'x'] := by decide

example : ¬ startsWithDrive ['1', ':'] ∧ ¬ startsWithDrive ['C', ':', 'x'] := by decide

/-- A drive with layout behind it ends there, also where the segment goes on: the drive, and what it
goes on with. -/
def cutDrive? (s : List Char) : Option (List Char × List Char) :=
  match s.dropWhile isLayout with
  | [] => none
  | c :: s =>
    match s.dropWhile isLayout with
    | ':' :: d :: s =>
      if c.isAlpha && isLayout d && !(visible s).isEmpty then some ([c, ':'], visible s) else none
    | _ => none

example : cutDrive? ['C', ':', '\t', 'u'] = some (['C', ':'], ['u']) := by decide

example : cutDrive? ['C', ':', 'u'] = none ∧ cutDrive? ['C', ':', '\t'] = none := by decide

/-! ## Segments -/

/-- A segment as it is kept. -/
def keep (s : List Char) : String := String.ofList (escape inPathSet s)

/-- What is kept of the first segment of a file path. -/
def keepFirst (s : List Char) : List String :=
  match cutDrive? s, visible s with
  | some (drive, rest), _ => [String.ofList drive, keep rest]
  | none, [c, '|'] => if c.isAlpha then [String.ofList [c, ':']] else [keep [c, '|']]
  | none, t => [keep t]

/-- Take the last segment back. -/
def takeBack (l : List String) : List String :=
  match l.getLast? with
  | some s => if startsWithDrive s.toList then l else l.dropLast
  | none => l

/-- No more is taken back than the last segment. -/
theorem takeBack_eq_or (l : List String) : takeBack l = l ∨ takeBack l = l.dropLast := by
  unfold takeBack
  split
  · split
    · exact .inl rfl
    · exact .inr rfl
  · exact .inl rfl

/-- Add a segment to a path; `last` says that no other one follows. -/
def addSegment (style : PathStyle) (l : List String) (s : List Char) (last : Bool) : List String :=
  let ending (l : List String) : List String := if last then l ++ [""] else l
  if isDoubleDot (visible s) then ending (takeBack l)
  else if isSingleDot (visible s) then ending l
  else if style = .file ∧ l = [] then keepFirst s
  else l ++ [keep (visible s)]

/-- Add segments to a path, one after the other. -/
def addSegments (style : PathStyle) : List String → List (List Char) → List String
  | l, [] => l
  | l, s :: more => addSegments style (addSegment style l s more.isEmpty) more

/-- Whether a file path, while it is read, gets a drive as its first segment. -/
def getsDrive : List String → List (List Char) → Bool
  | _, [] => false
  | l, s :: more =>
    (l.isEmpty && isDrive (visible s)) || getsDrive (addSegment .file l s more.isEmpty) more

/-- The parts of a text between separators. -/
def splitSegments (style : PathStyle) : List Char → List (List Char)
  | [] => [[]]
  | c :: s =>
    match splitSegments style s with
    | [] => [[c]]
    | part :: parts => if style.separates c then [] :: part :: parts else (c :: part) :: parts

/-- A file path has no empty segments at its front, unless it is empty altogether. -/
def dropEmptyFront (l : List String) : List String :=
  match l.dropWhile (· = "") with
  | [] => [""]
  | rest => rest

/-- The text behind the character that separates the first segment from what is in front of it, if
there is such a character. -/
def cutSeparator? (style : PathStyle) (s : List Char) : Option (List Char) :=
  match s.dropWhile isLayout with
  | c :: rest => if style.separates c then some rest else none
  | [] => none

/-- The segments of a path that starts behind the authority. -/
def parsePath (style : PathStyle) (s : List Char) : List String :=
  if style = .plain ∧ s = [] then []
  else addSegments style [] (splitSegments style ((cutSeparator? style s).getD s))

/-- The segments of a file path, from behind the slash that starts it. -/
def parseFilePath (s : List Char) : List String :=
  dropEmptyFront (addSegments .file [] (splitSegments .file s))

end ParseLens.Url
