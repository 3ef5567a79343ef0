import PenPlotter.AddressReader

/-!
# Schemes of addresses

An address begins with its scheme and a colon, and the scheme decides how the rest is read
(`Uri.Kind`).  Control characters and spaces at the ends of an address do not belong to it, and tabs
and line ends are passed over wherever they stand.
-/

namespace PenPlotter

namespace Uri

/-! ## 1. What is passed over -/

/-- The text of an address without the control characters and spaces at its ends. -/
def withoutEdges (t : Text) : Text :=
  let isEdge (c : Char) : Bool := c ≤ ' '
  Text.dropEndWhile isEdge (t.dropWhile isEdge)

/-- Whether a character is passed over: tabs and line ends are. -/
def isIgnored (c : Char) : Bool :=
  c == '\t' || c == '\n' || c == '\r'

/-- The text without the characters that are passed over. -/
def clean (t : Text) : Text :=
  t.filter fun c => !isIgnored c

/-! ## 2. Kinds of schemes -/

/-- How the rest of an address is read. -/
inductive Kind where
  | file
  | web
  | other
deriving DecidableEq, Repr

/-- How the rest of an address with the given scheme is read. -/
def kind (scheme : Text) : Kind :=
  if scheme = "file".toList then .file
  else if (["http", "https", "ws", "wss", "ftp"].map String.toList).contains scheme then .web
  else .other

/-- Whether a character stands for a slash. -/
def Kind.isSlash (k : Kind) (c : Char) : Bool :=
  c == '/' || (c == '\\' && k != .other)

/-- Whether a character ends the authority. -/
def Kind.endsAuthority (k : Kind) (c : Char) : Bool :=
  k.isSlash c || c == '?' || c == '#'

/-- The text after a slash, if one comes first. -/
def Kind.afterSlash? (k : Kind) (t : Text) : Option Text :=
  match t.dropWhile isIgnored with
  | c :: rest => if k.isSlash c then some rest else none
  | [] => none

/-! ## 3. Schemes -/

/-- The characters of a scheme after the first, which is a letter. -/
def isSchemeRest (c : Char) : Bool :=
  c.isAlphanum || c == '+' || c == '-' || c == '.'

/-- The scheme, in lower case, and the text after its colon. -/
def splitScheme? (t : Text) : Option (Text × Text) :=
  let scheme := clean (t.takeWhile (· ≠ ':'))
  match t.dropWhile (· ≠ ':') with
  | _ :: rest =>
    if scheme.head?.any Char.isAlpha && scheme.all isSchemeRest then
      some (scheme.map Char.toLower, rest)
    else none
  | [] => none

end Uri

end PenPlotter
