import PenPlotter.Notation.Extensions
import PenPlotter.Notation.Quoted

/-!
# Values of any form

A field that nobody knows may have a value of any form of the notation, and the value is passed over
(`skipValue?`).  It still has to be a value: a number outside the range of its unit, an escape that
is none, or a bracket that is not closed is an error.

Values may hold values, but not without bound.  Each value is read with some *room*, which brackets
use up: the brackets take one, what stands in them another one.  The parentheses of `Some( … )` and
what stands in them take one together.  Where the room is used up there are only values without
anything in them.
-/

namespace PenPlotter.Notation

/-! ## 1. Numbers -/

/-- A unit of whole numbers: the word, the greatest number and, without its sign, the least one. -/
structure WholeUnit where
  word : String
  greatest : Nat
  least : Nat

/-- The unit of whole numbers with a sign that have the given number of bits. -/
def WholeUnit.signed (word : String) (bits : Nat) : WholeUnit :=
  ⟨word, 1 <<< (bits - 1) - 1, 1 <<< (bits - 1)⟩

/-- The unit of whole numbers without a sign that have the given number of bits. -/
def WholeUnit.unsigned (word : String) (bits : Nat) : WholeUnit :=
  ⟨word, 1 <<< bits - 1, 0⟩

/-- The units that a whole number may have. -/
def wholeUnits : List WholeUnit :=
  [.signed "i8" 8, .signed "i16" 16, .signed "i32" 32, .signed "i64" 64,
    .unsigned "u8" 8, .unsigned "u16" 16, .unsigned "u32" 32, .unsigned "u64" 64]

/-- The range of whole numbers without a unit. -/
def unitless : WholeUnit :=
  ⟨"", 1 <<< 64 - 1, 1 <<< 63⟩

/-- The characters that whole numbers are made of. -/
def isWholeChar (c : Char) : Bool :=
  Radix.isHex c || c == '_'

/-- The base that the first two characters of a whole number tell, and its digits. -/
def splitBase : Text → Nat × Text
  | '0' :: 'b' :: rest => (2, rest)
  | '0' :: 'o' :: rest => (8, rest)
  | '0' :: 'x' :: rest => (16, rest)
  | t => (10, t)

/-- The number that digits with underscores among them stand for; nothing if there is no digit, if
an underscore comes first, or if a digit is not one of the base. -/
def wholeValue? (base : Nat) (t : Text) : Option Nat :=
  if t = [] ∨ t.head? = some '_' then none
  else Radix.number? base (t.filter (· ≠ '_'))

/-- The text after a whole number in the range of the unit, whose sign has been read; the unit
itself is not looked for. -/
def skipWhole? (unit : WholeUnit) (negative : Bool) (t : Text) : Option Text :=
  let (base, digits) := splitBase t
  (wholeValue? base (digits.takeWhile isWholeChar)).bind fun n =>
    if n ≤ (if negative then unit.least else unit.greatest) then
      some (digits.dropWhile isWholeChar)
    else none

/-- The unit behind the digits of a number, if one stands there alone, and the text after it. -/
def unitBehind? (t : Text) : Option (WholeUnit × Text) :=
  wholeUnits.findSome? fun unit =>
    (expectAlone? unit.word.toList (t.dropWhile isWholeChar)).map fun rest => (unit, rest)

/-- The text after a number with a point or an exponent. -/
def skipDouble? (t : Text) : Option Text :=
  (numberWithUnit? anyUnits t).bind fun (_, rest) =>
    if rest.length < t.length then some rest else none

/-- The text after a number.  With a unit of whole numbers it has to be one, and in range.  Without
a unit it is a whole number if it can be read as one, and else a double. -/
def skipNumber? (t : Text) : Option Text :=
  let (negative, digits) := Numeral.splitSign t
  if (digits.takeWhile isWholeChar).length < (digits.takeWhile isNumberChar).length then
    skipDouble? t
  else
    match unitBehind? digits with
    | some (unit, rest) => (skipWhole? unit negative digits).map fun _ => rest
    | none => (skipWhole? unitless negative digits).or (skipDouble? t)

/-! ## 2. What parentheses hold -/

/-- The text after a name and a colon, if a field begins with them. -/
def skipFieldName? (t : Text) : Option Text := do
  let (_, rest) ← identifier? t
  let rest ← skipBlank? rest
  let rest ← expect? ':' rest
  skipBlank? rest

/-- What the parentheses of a value that might be missing hold, where they may serve as the
parentheses of the value. -/
inductive Contents where
  | fields
  | items
  | value
deriving DecidableEq, Repr

/-- What the parentheses hold whose first item has ended with a comma. -/
def contentsAfterComma? (t : Text) : Option Contents :=
  (skipBlank? t).map fun rest => if (expect? ')' rest).isSome then .value else .items

/-- The text after an item in which brackets and commas mean nothing, if one comes next; nothing if
it has no end. -/
def skipOpaque? (t : Text) : Option Text := do
  let t ← skipBlank? t
  let t := (skipCharacter? t).getD t
  let t ← afterQuoted? t (skipString t)
  afterQuoted? t (skipByteString t)
where
  /-- What is left of a text that might have begun with a quoted item. -/
  afterQuoted? (t : Text) : Quoted → Option Text
    | .ended rest => some rest
    | .unended => none
    | .invalid => some t

/-- Looks for the end of the first item in parentheses, in which `nested` brackets have been opened,
to tell what the parentheses hold. -/
def contentsFrom? (nested : Nat) (t : Text) : Option Contents :=
  match skipOpaque? t with
  | none | some [] => none
  | some (c :: rest) =>
    if rest.length < t.length then
      if ['(', '[', '\x7b'].contains c then contentsFrom? (nested + 1) rest
      else if [')', ']', '\x7d'].contains c then
        match nested with
        | 0 => some .value
        | nested + 1 => contentsFrom? nested rest
      else if c = ',' ∧ nested = 0 then contentsAfterComma? rest
      else contentsFrom? nested rest
    else none
termination_by t.length

/-- Tells what parentheses hold by looking ahead. -/
def contents? (t : Text) : Option Contents :=
  match identifier? t with
  | none => contentsFrom? 0 t
  | some (_, rest) =>
    match skipBlank? rest with
    | none => none
    | some (':' :: _) => some .fields
    | some (',' :: rest) => contentsAfterComma? rest
    | some (')' :: _) => some .value
    | some rest => contentsFrom? 0 rest

/-! ## 3. Values -/

/-- The text after one of the words that are values by themselves. -/
def skipWord? (t : Text) : Option Text :=
  match ["true", "false", "None"].findSome? fun word => expectAlone? word.toList t with
  | some rest => some rest
  | none => (numberWord? anyUnits t).map Prod.snd

/-- The ways on from a value: how what stands in it is passed over.  There is no way where the room
does not suffice. -/
structure Within where
  brackets : Bool
  item : Text → Option Text
  /-- Passes over what stands in the parentheses of a value that might be missing, or in their
  place. -/
  present : Text → Option Text
  /-- Passes over the inside of the parentheses of a value that might be missing where they may
  serve as those of the value, up to the closing parenthesis. -/
  unwrapped : Text → Option Text

namespace Within

/-- The text after items up to the closing character. -/
def skipItems? (w : Within) (close : Char) (item : Text → Option Text) (t : Text) : Option Text :=
  if w.brackets then
    (separated? close (fun _ t => (item t).map fun rest => ((), rest)) () t).map Prod.snd
  else none

/-- The text after a field. -/
def skipField? (w : Within) (t : Text) : Option Text :=
  (skipFieldName? t).bind w.item

/-- The text after a key and its value. -/
def skipEntry? (w : Within) (t : Text) : Option Text := do
  let rest ← w.item t
  let rest ← skipBlank? rest
  let rest ← expect? ':' rest
  let rest ← skipBlank? rest
  w.item rest

/-- The text after fields or items, whose opening parenthesis has been read. -/
def skipGroup? (w : Within) (t : Text) : Option Text := do
  let inner ← skipBlank? t
  w.skipItems? ')' (if (skipFieldName? inner).isSome then w.skipField? else w.item) inner

/-- The text after the parentheses of a value that might be missing, or after what stands in their
place. -/
def skipPresent? (w : Within) (x : Extensions) (t : Text) : Option Text := do
  let t ← skipBlank? t
  match expect? '(' t with
  | some inner =>
    let inner ← skipBlank? inner
    let rest ← if x.unwrapVariants then w.unwrapped inner else w.present inner
    let rest ← skipBlank? rest
    let rest ← skipBlank? ((expect? ',' rest).getD rest)
    expect? ')' rest
  | none => if x.implicitSome then w.present t else none

/-- The text after what may follow a name: a group, or nothing. -/
def skipNamed? (w : Within) (t : Text) : Option Text := do
  let rest ← skipBlank? t
  match expect? '(' rest with
  | some inner => w.skipGroup? inner
  | none => some rest

/-- The text after a value that is known by its first characters. -/
def skipMarked? (w : Within) : Text → Option Text
  | '(' :: rest => w.skipGroup? rest
  | '[' :: rest => w.skipItems? ']' w.item rest
  | '\x7b' :: rest => w.skipItems? '\x7d' w.skipEntry? rest
  | '\'' :: rest => skipCharacter? ('\'' :: rest)
  | 'b' :: '\'' :: rest => skipByte? ('b' :: '\'' :: rest)
  | 'b' :: rest => (skipByteString ('b' :: rest)).rest?
  | c :: rest =>
    if c = '"' ∨ c = 'r' then (skipString (c :: rest)).rest?
    else if c.isDigit ∨ c = '+' ∨ c = '-' ∨ c = '.' then skipNumber? (c :: rest)
    else none
  | [] => none

/-- The text after a value. -/
def skip? (w : Within) (x : Extensions) (t : Text) : Option Text :=
  match (skipWord? t).or (expectWord? "()".toList t) with
  | some rest => some rest
  | none =>
    match expectAlone? "Some".toList t with
    | some rest => w.skipPresent? x rest
    | none =>
      match identifier? t with
      | some (_, rest) => w.skipNamed? rest
      | none => w.skipMarked? t

/-- The text after the inside of parentheses that may serve as those of the value in them, up to the
closing parenthesis. -/
def skipUnwrapped? (w : Within) (x : Extensions) (t : Text) : Option Text :=
  if (expect? ')' t).isSome then some t
  else
    (contents? t).bind fun
      | .value => w.skip? x t
      | .fields => (w.skipItems? ')' w.skipField? t).map (')' :: ·)
      | .items => (w.skipItems? ')' w.item t).map (')' :: ·)

end Within

/-- The ways on from a value that is read with the given room.  Each is a function of the text that
is passed over, so that none is prepared before it is taken. -/
def within (x : Extensions) : Nat → Within
  | 0 => ⟨false, fun _ => none, fun _ => none, fun _ => none⟩
  | 1 =>
    ⟨true, fun _ => none, fun t => (within x 0).skip? x t, fun t => (within x 0).skipUnwrapped? x t⟩
  | room + 2 =>
    ⟨true, fun t => (within x room).skip? x t, fun t => (within x (room + 1)).skip? x t,
      fun t => (within x (room + 1)).skipUnwrapped? x t⟩

/-- The room that the value of a field has. -/
def fieldRoom : Nat :=
  126

/-- The text after a value of any form. -/
def skipValue? (x : Extensions) : Text → Option Text :=
  (within x fieldRoom).skip? x

end PenPlotter.Notation
