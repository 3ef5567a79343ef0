import PenPlotter.Text
import PenPlotter.Number.Binary64

/-!
# Numerals

The notation of numbers in plot files, settings and arguments: an optional sign, then either
one of the words `inf`, `infinity` and `nan` in any mixture of letter cases, or digits with at most
one point among them and an optional exponent.  There is at least one digit, before the point or
after it, and nothing follows: no blank, no unit, no digit separator.

`Numeral.read?` recognises the notation and keeps the number exactly; `Numeral.value` is the
double nearest to it.
-/

namespace PenPlotter

/-- What a numeral says, exactly. -/
inductive Numeral where
  /-- The number `± mantissa · 10 ^ exponent`. -/
  | decimal (negative : Bool) (mantissa : Nat) (exponent : Int)
  | infinite (negative : Bool)
  | undefined (negative : Bool)
deriving DecidableEq, Repr

namespace Numeral

/-- The text after an optional sign, and whether the sign is a minus. -/
def splitSign : Text → Bool × Text
  | '-' :: rest => (true, rest)
  | '+' :: rest => (false, rest)
  | rest => (false, rest)

/-- The exponent that ends a numeral: nothing, which is zero, or the letter `e`, an optional sign
and at least one digit. -/
def readExponent? : Text → Option Int
  | [] => some 0
  | c :: rest =>
    if c = 'e' ∨ c = 'E' then
      let (negative, digits) := splitSign rest
      if digits ≠ [] ∧ digits.all Char.isDigit then
        some (if negative then -(Text.natValue digits : Int) else Text.natValue digits)
      else none
    else none

/-- The digits after the point, if there is a point, and what follows them. -/
def splitPlaces : Text → Text × Text
  | '.' :: rest => (rest.takeWhile Char.isDigit, rest.dropWhile Char.isDigit)
  | rest => ([], rest)

/-- The numeral whose sign has been taken off. -/
def readUnsigned? (negative : Bool) (t : Text) : Option Numeral :=
  let word := t.map Char.toLower
  if word = ['i', 'n', 'f'] ∨ word = ['i', 'n', 'f', 'i', 'n', 'i', 't', 'y'] then
    some (.infinite negative)
  else if word = ['n', 'a', 'n'] then some (.undefined negative)
  else
    let digits := t.takeWhile Char.isDigit
    let (places, rest) := splitPlaces (t.dropWhile Char.isDigit)
    if digits = [] ∧ places = [] then none
    else
      (readExponent? rest).map fun exponent =>
        .decimal negative (Text.natValue (digits ++ places)) (exponent - places.length)

/-- The numeral that a text is, if it is one. -/
def read? (t : Text) : Option Numeral :=
  let (negative, rest) := splitSign t
  readUnsigned? negative rest

/-- The double nearest to a numeral.  A number too large for a double becomes infinite, one too
small becomes a zero of its sign. -/
def value : Numeral → Float
  | .decimal negative mantissa exponent => Binary64.ofDecimal negative mantissa exponent
  | .infinite negative => Binary64.infinite negative
  | .undefined _ => Binary64.undefined

/-- The double that a text is the notation of. -/
def readDouble? (t : Text) : Option Float :=
  (read? t).map value

/-- The finite double that a text is the notation of.  The words for infinities and for what is not
a number are no plot coordinates, and neither is a number too large for a double. -/
def readFinite? (t : Text) : Option Float :=
  (readDouble? t).filter Float.isFinite

end Numeral

end PenPlotter
