import PenPlotter.Notation.Value
import PenPlotter.RecordFormat

/-!
# Records in object notation

A record is written as one parenthesis with its fields in their order and no blanks
(`Notation.recordText`).  It is read from the wider notation that people write
(`Notation.readRecord?`): fields in any order, blanks and comments in between, and fields of
unknown names passed over.  Values without a field name are an error.

The parenthesis may be preceded by the name of the record, and the text by attributes that switch
extensions of the notation on.  One of these makes the name obligatory; the others matter only to
the values that are passed over.
-/

namespace PenPlotter

namespace Notation

/-! ## 1. Writing -/

/-- A value as it is written. -/
def valueText : FieldValue → Text
  | .number a => a.text
  | .truth b => if b then "true".toList else "false".toList

/-- A field as it is written. -/
def fieldText : Text × FieldValue → Text
  | (name, value) => name ++ ':' :: valueText value

/-- A record as it is written, without its name. -/
def recordText (fields : List (Text × FieldValue)) : Text :=
  '(' :: [','].intercalate (fields.map fieldText) ++ [')']

/-! ## 2. Reading -/

/-- A value of the given kind. -/
def value? : FieldKind → Text → Option (FieldValue × Text)
  | .number, t => (number? t).map fun (n, rest) => (.number (.ofNumeral n), rest)
  | .truth, t => (truth? t).map fun (b, rest) => (.truth b, rest)

/-- Adds a field to those read before, if its name is known. -/
def field? (x : Extensions) (kinds : List (Text × FieldKind))
    (fields : List (Text × FieldValue)) (t : Text) :
    Option (List (Text × FieldValue) × Text) := do
  let (name, t) ← identifier? t
  let t ← skipBlank? t
  let t ← expect? ':' t
  let t ← skipBlank? t
  match kinds.lookup name with
  | some kind =>
    let (value, rest) ← value? kind t
    return (fields ++ [(name, value)], rest)
  | none =>
    let rest ← skipValue? x t
    return (fields, rest)

/-- The text after the name of the record, if it is there; another name is not accepted. -/
def afterName? (record : Text) (required : Bool) (t : Text) : Option Text :=
  if t.head?.any Text.isNameRest then do
    let (name, rest) ← identifier? t
    if name = record then skipBlank? rest else none
  else if required then none
  else some t

/-- The fields of the record that a text is; nothing follows them but blanks and comments. -/
def readRecord? (record : Text) (kinds : List (Text × FieldKind)) (t : Text) :
    Option (List (Text × FieldValue)) := do
  let t ← skipBlank? t
  let (x, t) ← Extensions.attributes? {} t
  let t ← afterName? record x.namesRequired t
  let t ← expect? '(' t
  let (fields, t) ← separated? ')' (field? x kinds) [] t
  let t ← skipBlank? t
  if t = [] then return fields else none

end Notation

/-- Records in object notation. -/
def RecordFormat.objects : RecordFormat where
  write _ fields := Notation.recordText fields
  read := Notation.readRecord?

end PenPlotter
