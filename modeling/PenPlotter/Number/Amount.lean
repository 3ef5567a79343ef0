import PenPlotter.Number.Shortest

/-!
# Amounts

An amount is the value of a setting.  It is a double, and is written in the shortest notation.
What is not a number has a sign as an amount: `-NaN` is written as such and read back as such, while
among doubles it is the same as `NaN`.
-/

namespace PenPlotter

/-- A double, or what is not a number with its sign. -/
inductive Amount where
  | number (x : Float) (isNumber : x.isNaN = false)
  | undefined (negative : Bool)
deriving DecidableEq

namespace Amount

/-- The double that an amount is. -/
def toFloat : Amount → Float
  | number x _ => x
  | undefined _ => Binary64.undefined

/-- The amount that a double is.  What is not a number has no sign among doubles, and has the
positive one as an amount. -/
def ofFloat (x : Float) : Amount :=
  if h : x.isNaN = false then number x h else undefined false

/-- The amount that is a whole number. -/
def ofInt (n : Int) : Amount :=
  ofFloat (Binary64.ofInt n)

/-- The amount that a numeral says. -/
def ofNumeral : Numeral → Amount
  | .undefined negative => undefined negative
  | n => ofFloat n.value

/-- The amount that a text is the notation of. -/
def read? (t : Text) : Option Amount :=
  (Numeral.read? t).map ofNumeral

/-- The notation of an amount. -/
def text : Amount → Text
  | number x _ => Shortest.text x
  | undefined false => Shortest.text Binary64.undefined
  | undefined true => '-' :: Shortest.text Binary64.undefined

end Amount

end PenPlotter
