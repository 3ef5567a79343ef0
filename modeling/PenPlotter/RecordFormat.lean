import PenPlotter.Number.Amount

/-!
# Records as text

Settings are kept as a record: named fields, each with a number or a truth value.  How a record is
put into a text is the business of a notation.  `RecordFormat` is what is asked of one: it writes
the fields of a record, and reads those that have known names, each as a value of the kind that is
wanted.
-/

namespace PenPlotter

/-- What a field may hold. -/
inductive FieldKind where
  | number
  | truth
deriving DecidableEq, Repr

/-- The value of a field. -/
inductive FieldValue where
  | number (a : Amount)
  | truth (b : Bool)
deriving DecidableEq

/-- What a value is one of. -/
def FieldValue.kind : FieldValue → FieldKind
  | number _ => .number
  | truth _ => .truth

/-- A notation for records.  `write` gives the text of a record of a name with the given fields.
`read` gives the fields with known names, in the order in which they come and as often as they come;
it passes over all other fields, and gives nothing if the text is no such record. -/
structure RecordFormat where
  write : Text → List (Text × FieldValue) → Text
  read : Text → List (Text × FieldKind) → Text → Option (List (Text × FieldValue))

end PenPlotter
