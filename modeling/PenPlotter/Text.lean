/-!
# Text: blank ends, lines and whole numbers

Plotter programs, templates and command lines are all handled as lists of characters, so that
every operation on them is a function on lists.  This module holds the three notions that the
readers share:

* *blank* characters, which are dropped at either end of a command or a field (`Text.trim`);
* *lines*, which end at a line feed, take one carriage return with it, and leave no empty line
  behind the last line feed (`Text.lines`);
* whole numbers in decimal notation (`Text.ofInt`).

A text is cut at a separator by `List.splitOn`, which keeps empty fields: a text without the
separator is its own only field.
-/

namespace PenPlotter

/-- A text is the list of its characters. -/
abbrev Text := List Char

namespace Text

/-! ## 1. Blank ends -/

/-- The characters with the `White_Space` property.  The zero width space, the byte order mark
and the separators `U+001C` to `U+001F` are not among them. -/
def isBlank (c : Char) : Bool :=
  let n := c.toNat
  (0x09 ≤ n && n ≤ 0x0D) || n == 0x20 || n == 0x85 || n == 0xA0 || n == 0x1680 ||
    (0x2000 ≤ n && n ≤ 0x200A) || n == 0x2028 || n == 0x2029 || n == 0x202F || n == 0x205F ||
    n == 0x3000

/-- The text without the characters at its end that `p` holds of. -/
def dropEndWhile (p : Char → Bool) (t : Text) : Text :=
  (t.reverse.dropWhile p).reverse

/-- The text without the blank characters at either end. -/
def trim (t : Text) : Text :=
  dropEndWhile isBlank (t.dropWhile isBlank)

/-! ## 2. Lines -/

/-- The text without the carriage return that ends it, if one does. -/
def dropReturn (t : Text) : Text :=
  if t.getLast? = some '\r' then t.dropLast else t

/-- The lines among the pieces between line feeds: all but the last piece were ended by a line
feed and lose one carriage return; the last piece is a line only if it is not empty, and it keeps
its carriage return. -/
def linesOfPieces : List Text → List Text
  | [] => []
  | [last] => if last.isEmpty then [] else [last]
  | piece :: next :: more => dropReturn piece :: linesOfPieces (next :: more)

/-- The lines of a text. -/
def lines (t : Text) : List Text :=
  linesOfPieces (t.splitOn '\n')

/-! ## 3. Whole numbers -/

/-- The decimal digits of a natural number, without leading zeros. -/
def ofNat (n : Nat) : Text :=
  Nat.toDigits 10 n

/-- The decimal notation of a whole number: a minus sign where it is negative, then its digits. -/
def ofInt : Int → Text
  | .ofNat n => ofNat n
  | .negSucc n => '-' :: ofNat (n + 1)

/-- The number that a digit text stands for, most significant digit first. -/
def natValue (digits : Text) : Nat :=
  Nat.ofDigitChars 10 digits 0

/-- Reading the digits of a number gives the number. -/
theorem natValue_ofNat (n : Nat) : natValue (ofNat n) = n :=
  Nat.ofDigitChars_ten_toDigits

/-- The digits of a number are decimal digits. -/
theorem isDigit_of_mem_ofNat {n : Nat} {c : Char} (h : c ∈ ofNat n) : c.isDigit = true :=
  Nat.isDigit_of_mem_toDigits (by decide) (by decide) h

/-- A number has at least one digit. -/
theorem ofNat_ne_nil (n : Nat) : ofNat n ≠ [] :=
  Nat.toDigits_ne_nil

/-! ## 4. Bytes -/

/-- The bytes that a text is written as, in UTF-8. -/
def toBytes (t : Text) : List UInt8 :=
  t.flatMap String.utf8EncodeChar

/-- Texts one after the other are written as their bytes one after the other. -/
theorem toBytes_append (s t : Text) : toBytes (s ++ t) = toBytes s ++ toBytes t := by
  simp [toBytes]

/-- The number of bytes that a text is written as. -/
def byteLength : Text → Nat
  | [] => 0
  | c :: rest => c.utf8Size + byteLength rest

end Text

end PenPlotter
