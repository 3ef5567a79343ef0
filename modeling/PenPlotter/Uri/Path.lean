import PenPlotter.Uri.Scheme

/-!
# Paths of addresses

A path is cut into segments at its slashes, and the segments are resolved one by one
(`Uri.resolve`): `.` is left out and `..` takes back the segment before it.  A segment that names a
drive, a letter with a colon or a bar, is never taken back; as the first segment of a `file` path it
is written with a colon.  Characters that have no place in a path are written as percent signs with
two digits for each byte.
-/

namespace PenPlotter.Uri

/-! ## 1. Characters -/

/-- A digit of a hexadecimal number, in capitals. -/
def hexDigit (n : Nat) : Char :=
  (Nat.digitChar n).toUpper

/-- A byte as a percent sign and two digits. -/
def percent (b : UInt8) : Text :=
  ['%', hexDigit (b.toNat / 16), hexDigit (b.toNat % 16)]

/-- A text in which the characters that `p` holds of are encoded. -/
def encode (p : Char → Bool) (t : Text) : Text :=
  t.flatMap fun c => if p c then (String.utf8EncodeChar c).flatMap percent else [c]

/-- The characters that are encoded in an opaque path: controls, and all beyond ASCII. -/
def isEncodedOpaque (c : Char) : Bool :=
  c.toNat < 0x20 || 0x7E < c.toNat

/-- The characters that are encoded in a path. -/
def isEncoded (c : Char) : Bool :=
  isEncodedOpaque c || [' ', '"', '#', '<', '>', '?', '\x60', '\x7b', '\x7d'].contains c

/-- The text of an address up to its query or fragment. -/
def beforeQuery (t : Text) : Text :=
  t.takeWhile fun c => c ≠ '?' ∧ c ≠ '#'

/-! ## 2. Segments -/

/-- Whether two characters name a drive. -/
def isDrive : Text → Bool
  | [letter, mark] => letter.isAlpha && (mark == ':' || mark == '|')
  | _ => false

/-- A segment that names a drive, with a colon for its mark. -/
def normalDrive : Text → Text
  | [letter, _] => [letter, ':']
  | segment => segment

/-- A drive and what follows it in the same segment, where a tab or a line end parts the two. -/
def partDrive? (t : Text) : Option (Text × Text) :=
  match t.dropWhile isIgnored with
  | letter :: t =>
    match t.dropWhile isIgnored with
    | ':' :: t =>
      if isDrive [letter, ':'] ∧ t.head?.any isIgnored ∧ clean t ≠ [] then
        some ([letter, ':'], clean t)
      else none
    | _ => none
  | [] => none

/-- A segment with encoded points decoded, to recognise those that are points alone. -/
def decodedPoints : Text → Text
  | '%' :: '2' :: c :: rest =>
    if c = 'e' ∨ c = 'E' then '.' :: decodedPoints rest else '%' :: decodedPoints ('2' :: c :: rest)
  | c :: rest => c :: decodedPoints rest
  | [] => []

/-- The segments left of a path when the last one is taken back; a drive stays. -/
def withoutLast (segments : List Text) : List Text :=
  match segments.getLast? with
  | some last => if isDrive last then segments else segments.dropLast
  | none => []

/-- The segments that a segment as it stands in an address comes to, when it holds no points alone;
whether it is the first one of a `file` path makes a difference to drives. -/
def plainSegments (firstOfFile : Bool) (raw : Text) : List Text :=
  let segment := clean raw
  if firstOfFile then
    match partDrive? raw with
    | some (drive, rest) => [drive, encode isEncoded rest]
    | none => [if isDrive segment then normalDrive segment else encode isEncoded segment]
  else [encode isEncoded segment]

/-- The segments of a path, added one by one to those before it.  A path that ends in points ends in
a slash. -/
def resolve (k : Kind) : List Text → List Text → List Text
  | done, [] => done
  | done, raw :: rest =>
    let ending : List Text := if rest.isEmpty then [[]] else []
    let points := decodedPoints (clean raw)
    if points = ['.', '.'] then resolve k (withoutLast done ++ ending) rest
    else if points = ['.'] then resolve k (done ++ ending) rest
    else resolve k (done ++ plainSegments (k = .file && done.isEmpty) raw) rest

/-! ## 3. Paths -/

/-- The path whose text follows its first slash.  Slashes at the beginning of a `file` path are one
slash. -/
def pathAfterSlash (k : Kind) (t : Text) : Text :=
  let segments := resolve k [] ((beforeQuery t).splitOnP k.isSlash)
  '/' :: ['/'].intercalate (if k = .file then segments.dropWhile List.isEmpty else segments)

/-- The path at the beginning of the text after an authority.  Without a path there is none, except
that a web address has at least a slash. -/
def pathAt (k : Kind) (t : Text) : Text :=
  if k = .other ∧ (t.head?.all fun c => c == '?' || c == '#') then []
  else pathAfterSlash k ((k.afterSlash? t).getD t)

/-- A path that is no list of segments. -/
def opaquePath (t : Text) : Text :=
  encode isEncodedOpaque (clean (beforeQuery t))

end PenPlotter.Uri
