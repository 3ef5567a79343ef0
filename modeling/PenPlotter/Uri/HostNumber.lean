import PenPlotter.Number.Radix

/-!
# Hosts that are numbers

A host may be given by its number instead of a name.

* In the older form (`isDotted`) there are up to four numbers with points between them, in octal
  behind `0` and hexadecimal behind `0x`.  The last one fills the bytes that the others leave.  A
  name counts as such a number by its last part alone (`endsInNumber`), so that `a.1` is a broken
  number and no name.
* In the newer form (`isGrouped`), which stands in brackets, there are eight groups of four
  hexadecimal digits with colons between them.  Groups of zeros may be left out at one place, where
  two colons stand, and the last two groups may be four decimal numbers.
-/

namespace PenPlotter.Uri

/-! ## 1. Four numbers -/

/-- A number in the base that its beginning tells.  Nothing but the beginning is zero. -/
def partValue? : Text → Option Nat
  | [] => none
  | '0' :: c :: digits =>
    if c = 'x' ∨ c = 'X' then Radix.number? 16 digits else Radix.number? 8 (c :: digits)
  | digits => Radix.number? 10 digits

/-- The parts of a name between its points.  A point at the end is left out. -/
def nameParts (name : Text) : List Text :=
  let parts := name.splitOn '.'
  if 1 < parts.length ∧ parts.getLast? = some [] then parts.dropLast else parts

/-- Whether a name is to be read as a number: its last part is one, or consists of digits. -/
def endsInNumber (name : Text) : Bool :=
  (nameParts name).getLast?.any fun last =>
    (last ≠ [] ∧ last.all Char.isDigit) || (partValue? last).isSome

/-- Whether the numbers fit: each but the last one into a byte, and the last one into the bytes left
of four. -/
def fitBytes : Nat → List Nat → Bool
  | _, [] => false
  | bytes, [last] => last < 1 <<< (8 * bytes)
  | bytes + 1, n :: rest => n < 256 && fitBytes bytes rest
  | 0, _ :: _ => false

/-- Whether a name is a number in the older form. -/
def isDotted (name : Text) : Bool :=
  let parts := nameParts name
  parts.length ≤ 4 && ((parts.mapM partValue?).any fun numbers => fitBytes 4 numbers)

/-! ## 2. Eight groups -/

/-- Whether a text is a decimal number that fits into a byte, without leading zeros. -/
def isByte (t : Text) : Bool :=
  t ≠ [] && t.all Char.isDigit && (t.head? ≠ some '0' || t.length = 1) && Text.natValue t < 256

/-- Whether a text is four decimal numbers with points between them. -/
def isFourBytes (t : Text) : Bool :=
  let parts := t.splitOn '.'
  parts.length = 4 && parts.all isByte

/-- Whether a text is a group of digits. -/
def isGroup (t : Text) : Bool :=
  t ≠ [] && t.length ≤ 4 && t.all Radix.isHex

/-- How many groups the parts of a number stand for; four decimal numbers, which stand for two, may
come last. -/
def groupCount? : List Text → Option Nat
  | [] => some 0
  | [last] => if isGroup last then some 1 else if isFourBytes last then some 2 else none
  | part :: rest => if isGroup part then (groupCount? rest).map (· + 1) else none

/-- The text before two colons and the text after them. -/
def splitGap? : Text → Option (Text × Text)
  | ':' :: ':' :: rest => some ([], rest)
  | c :: rest => (splitGap? rest).map fun (before, after) => (c :: before, after)
  | [] => none

/-- The parts of a text between its colons; an empty text has none. -/
def groupParts (t : Text) : List Text :=
  if t = [] then [] else t.splitOn ':'

/-- Whether a text is a number in the newer form. -/
def isGrouped (t : Text) : Bool :=
  match splitGap? t with
  | none => groupCount? (groupParts t) = some 8
  | some (before, after) =>
    let groups := groupParts before
    groups.all isGroup && (groupCount? (groupParts after)).any fun n => groups.length + n < 8

end PenPlotter.Uri
