import PenPlotter.Number.Numeral
import PenPlotter.Text.Name

/-!
# Object notation

Settings are kept in a notation of named fields in parentheses,
`(x_div: 4.0, header: true)`.  This module holds what the notation is made of; which fields there
are is said elsewhere.

A reader takes a text and gives what it read and the text after it, or nothing if the text does not
begin with what is read:

* `skipBlank?` passes over blanks and comments;
* `identifier?` reads a name;
* `number?` reads a double;
* `separated?` reads items separated by commas up to a closing character.

Fields that are not known may have a value of any form; passing over one is a matter of its own.

Comments run to the end of the line, or between `/*` and `*/`; the latter nest.
-/

namespace PenPlotter.Notation

/-! ## 1. Blanks and comments -/

/-- The characters that may stand between the parts of the notation. -/
def isBlank (c : Char) : Bool :=
  let n := c.toNat
  n == 0x20 || (0x09 ≤ n && n ≤ 0x0D) || n == 0x85 || n == 0x200E || n == 0x200F ||
    n == 0x2028 || n == 0x2029

/-- The text after the comments that have been opened, of which there are `depth`. -/
def afterComments? : Nat → Text → Option Text
  | 0, t => some t
  | depth + 1, '/' :: '*' :: rest => afterComments? (depth + 2) rest
  | depth + 1, '*' :: '/' :: rest => afterComments? depth rest
  | depth + 1, _ :: rest => afterComments? (depth + 1) rest
  | _ + 1, [] => none

/-- Leaving a comment uses up text. -/
theorem length_of_afterComments? (depth : Nat) (t rest : Text)
    (h : afterComments? depth t = some rest) : rest.length ≤ t.length := by
  fun_induction afterComments? depth t with
  | case1 => simp_all
  | case2 _ _ ih | case3 _ _ ih => have := ih h; simp only [List.length_cons]; omega
  | case4 _ _ _ _ _ ih => have := ih h; simp only [List.length_cons]; omega
  | case5 => simp at h

/-- The text after blanks and comments; nothing if a comment is not closed, or if a slash begins
none. -/
def skipBlank? : Text → Option Text
  | [] => some []
  | '/' :: '/' :: rest => skipBlank? (rest.dropWhile (· ≠ '\n'))
  | '/' :: '*' :: rest =>
    match _h : afterComments? 1 rest with
    | some after => skipBlank? after
    | none => none
  | '/' :: _ => none
  | c :: rest => if isBlank c then skipBlank? rest else some (c :: rest)
termination_by t => t.length
decreasing_by
  · have := (List.dropWhile_sublist (· ≠ '\n') (l := rest)).length_le
    simp only [List.length_cons]; omega
  · have := length_of_afterComments? 1 rest after _h
    simp only [List.length_cons]; omega
  · simp

/-- The text after a character, which has to come first. -/
def expect? (c : Char) : Text → Option Text
  | d :: rest => if d = c then some rest else none
  | [] => none

/-- The text after a word, which has to come first. -/
def expectWord? : Text → Text → Option Text
  | [], t => some t
  | c :: word, t => (expect? c t).bind (expectWord? word)

/-- The text after words with blanks between and after them. -/
def expectWords? : List Text → Text → Option Text
  | [], t => some t
  | word :: more, t => ((expectWord? word t).bind skipBlank?).bind (expectWords? more)

/-! ## 2. Names and words -/

/-- The characters of a name that has been marked as raw. -/
def isRawName (c : Char) : Bool :=
  Text.isNameRest c || c == '.' || c == '+' || c == '-'

/-- The characters that must not follow a name: a point or a sign would belong to it if it were
marked as raw, and with a quote or a number sign it is the beginning of a quoted text. -/
def isNoNameEnd (c : Char) : Bool :=
  isRawName c || c == '"' || c == '\'' || c == '#'

/-- A name.  After the mark `r#` it may hold points and signs. -/
def identifier? : Text → Option (Text × Text)
  | 'r' :: '#' :: rest =>
    let name := rest.takeWhile isRawName
    if name = [] then none else some (name, rest.dropWhile isRawName)
  | c :: rest =>
    if Text.isNameStart c then
      let after := rest.dropWhile Text.isNameRest
      if after.head?.any isNoNameEnd then none
      else some (c :: rest.takeWhile Text.isNameRest, after)
    else none
  | [] => none

/-- The text after a word that stands alone: no character of a name follows it. -/
def expectAlone? (word t : Text) : Option Text :=
  (expectWord? word t).filter fun rest => !rest.head?.any Text.isNameRest

/-- A truth value. -/
def truth? (t : Text) : Option (Bool × Text) :=
  match expectAlone? "true".toList t with
  | some rest => some (true, rest)
  | none => (expectAlone? "false".toList t).map fun rest => (false, rest)

/-! ## 3. Numbers -/

/-- The characters that numbers are made of. -/
def isNumberChar (c : Char) : Bool :=
  c.isDigit || c == 'e' || c == 'E' || c == '.' || c == '+' || c == '-' || c == '_'

/-- A number without the underscores between its digits.  There is none before the first digit and
none right behind the point; `after` says whether one may come next. -/
def withoutUnderscores? (after : Bool) : Text → Option Text
  | [] => some []
  | '_' :: rest => if after then withoutUnderscores? after rest else none
  | '.' :: rest => (withoutUnderscores? false rest).map ('.' :: ·)
  | c :: rest =>
    (withoutUnderscores? (after || c.isDigit || c == 'e' || c == 'E') rest).map (c :: ·)

/-- The words for infinities and for what is not a number, which differ from numerals in that the
letter case counts. -/
def numberWords : List Text :=
  ["inf", "+inf", "-inf", "NaN", "+NaN", "-NaN"].map String.toList

/-- The unit that a double may have. -/
def doubleUnits : List Text :=
  ["f64".toList]

/-- The units that a number with a point may have where it does not matter what it is. -/
def anyUnits : List Text :=
  ["f32".toList, "f64".toList]

/-- A number word, alone or with one of the units. -/
def numberWord? (units : List Text) (t : Text) : Option (Text × Text) :=
  numberWords.findSome? fun word =>
    ([] :: units).findSome? fun unit =>
      (expectAlone? (word ++ unit) t).map fun rest => (word, rest)

/-- The text after one of the units, if one comes first. -/
def skipUnit (units : List Text) (t : Text) : Text :=
  (units.findSome? fun unit => expectAlone? unit t).getD t

/-- A number word, or a numeral with underscores between its digits and perhaps one of the units
behind it. -/
def numberWithUnit? (units : List Text) (t : Text) : Option (Numeral × Text) :=
  match numberWord? units t with
  | some (word, rest) => (Numeral.read? word).map fun n => (n, rest)
  | none => do
    let numeral ← withoutUnderscores? false (t.takeWhile isNumberChar)
    let n ← Numeral.read? numeral
    -- The words are not numerals here: the run holds no letters but those of exponents.
    return (n, skipUnit units (t.dropWhile isNumberChar))

/-- A double. -/
def number? (t : Text) : Option (Numeral × Text) :=
  numberWithUnit? doubleUnits t

/-! ## 4. Items -/

/-- What is left after items up to the closing character, with what they have been gathered into.
Items are separated by commas, and a comma may follow the last one.  An item has to use up text. -/
def separated? {σ : Type} (close : Char) (item : σ → Text → Option (σ × Text)) (s : σ) (t : Text) :
    Option (σ × Text) :=
  match skipBlank? t with
  | none => none
  | some t₁ =>
    match expect? close t₁ with
    | some rest => some (s, rest)
    | none =>
      match item s t₁ with
      | none => none
      | some (s', t₂) =>
        match skipBlank? t₂ with
        | none => none
        | some t₃ =>
          match expect? ',' t₃ with
          | some rest =>
            if rest.length < t.length then separated? close item s' rest else none
          | none => (expect? close t₃).map fun rest => (s', rest)
termination_by t.length

end PenPlotter.Notation
