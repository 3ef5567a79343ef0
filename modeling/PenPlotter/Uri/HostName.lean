import PenPlotter.Number.Radix
import PenPlotter.Text.Bytes
import PenPlotter.Uri.Direction
import PenPlotter.Uri.Punycode

/-!
# Names of hosts

Schemes of the web and `file` take the name of a host in any script and any letter case, and with
characters written as percent signs and digits.  `HostName.read?` gives its canonical form, or
nothing if it is no international domain name.

Only what is ASCII in the canonical form is of interest: whether there is anything left of the name,
whether it is a number, and whether it is `localhost`.  So characters beyond ASCII are kept as they
are, unless they are forms of an ASCII character.
-/

namespace PenPlotter.Uri

/-! ## 1. Bytes -/

/-- The bytes of a text in which a percent sign and two digits are one byte. -/
def percentDecoded : Text → List UInt8
  | '%' :: a :: b :: rest =>
    match Radix.number? 16 [a, b] with
    | some n => UInt8.ofNat n :: percentDecoded rest
    | none => Text.toBytes ['%'] ++ percentDecoded (a :: b :: rest)
  | c :: rest => Text.toBytes [c] ++ percentDecoded rest
  | [] => []

namespace HostName

/-! ## 2. Characters -/

/-- The ASCII characters that cannot stand in a name. -/
def isForbidden (c : Char) : Bool :=
  c ≤ ' ' || c == '\x7f' ||
    ['%', '#', '/', ':', '<', '>', '?', '@', '[', '\\', ']', '^', '|'].contains c

/-- The ASCII character that a character is a form of. -/
def formOf? (c : Char) : Option Char :=
  (formRanges.find? fun (first, last, _) => first ≤ c.toNat && c.toNat ≤ last).map
    fun (first, _, form) => Char.ofNat (form.toNat + (c.toNat - first))

/-- The whole numbers in a circle from ten on, each a single character: the first and the last code
point of a range, and the first number. -/
def circledRanges : List (Nat × Nat × Nat) :=
  [(0x2469, 0x2473, 10), (0x3251, 0x325F, 21), (0x32B1, 0x32BF, 36)]

/-- The number that a character is a form of. -/
def circled? (c : Char) : Option Text :=
  (circledRanges.find? fun (first, last, _) => first ≤ c.toNat && c.toNat ≤ last).map
    fun (first, _, n) => Text.ofNat (n + (c.toNat - first))

/-- What a character is in the canonical form; nothing if it cannot stand in a name. -/
def canonical? (c : Char) : Option Text :=
  if c.toNat < 0x80 then if isForbidden c then none else some [c.toLower]
  else if Text.inRanges ignoredRanges c.toNat then some []
  else if Text.inRanges keptRanges c.toNat then
    some (((formOf? c).map fun form => [form]).or (circled? c) |>.getD [c])
  else none

/-- Whether a character stands in names in its canonical form. -/
def isCanonical (c : Char) : Bool :=
  if c.toNat < 0x80 then !isForbidden c && c.toLower == c
  else Text.inRanges keptRanges c.toNat && !Text.inRanges alteredRanges c.toNat

/-! ## 3. Neighbours -/

/-- Whether a character is a mark, which belongs to the one before it. -/
def isMark (c : Char) : Bool :=
  Text.inRanges markRanges c.toNat

/-- Whether the joiners in a text stand where they may: after a sign that a consonant has no vowel
or, the one that keeps letters apart, between letters that would join.  The text before is given
with its last character first. -/
def joinersFit (before : Text) : Text → Bool
  | [] => true
  | c :: rest =>
    let afterVirama := before.head?.any fun d => Text.inRanges viramaRanges d.toNat
    let between :=
      ((before.dropWhile isMark).head?.any fun d => Text.inRanges joinsNextRanges d.toNat) &&
        ((rest.dropWhile isMark).head?.any fun d => Text.inRanges joinsPreviousRanges d.toNat)
    (if c = '\u200C' then afterVirama || between
      else if c = '\u200D' then afterVirama
      else true) &&
    joinersFit (c :: before) rest

/-- Whether a part of a name is well formed as far as the neighbours of its characters go. -/
def isPlainPart (part : Text) : Bool :=
  !part.head?.any isMark && joinersFit [] part

/-- What a part that is not ASCII begins with when it is written in ASCII. -/
def asciiMark : Text :=
  "xn--".toList

/-- The characters that a part of a name stands for; nothing if it is not well formed.  A part that
is marked as written in ASCII has to stand for one in canonical form that is not ASCII. -/
def readPart? (part : Text) : Option Text :=
  if asciiMark.isPrefixOf part then
    (Punycode.decode? (part.drop asciiMark.length)).filter fun decoded =>
      decoded.any (fun c => 0x80 ≤ c.toNat) && decoded.all isCanonical && isPlainPart decoded
  else if isPlainPart part then some part
  else none

/-! ## 4. Names -/

/-- The canonical form of a name. -/
def read? (t : Text) : Option Text := do
  let t ← Bytes.text? (percentDecoded t)
  let name ← t.mapM canonical?
  let parts ← (name.flatten.splitOn '.').mapM readPart?
  if !parts.any Direction.hasLeft || parts.all Direction.fits then some name.flatten else none

end HostName

end PenPlotter.Uri
