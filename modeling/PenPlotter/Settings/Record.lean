import PenPlotter.RecordFormat
import PenPlotter.Settings
import PenPlotter.Text.Bytes

/-!
# Settings as a record

Settings are a record with a field for each of them (`Settings.fields`).  Records with fewer fields
are settings as well: a field left out has its default.  A field that comes twice is an error
(`Settings.ofFields?`).  `Settings.load` reads settings from a file and checks them.
-/

namespace PenPlotter.Settings

/-- The name of the record. -/
def recordName : Text :=
  "ConvertConfig".toList

/-- The name of the field that is not a number. -/
def headerName : String :=
  "header"

/-- The fields of settings. -/
def fields (s : Settings) : List (Text × FieldValue) :=
  Quantity.all.map (fun q => (q.name.toList, .number (s.get q))) ++
    [(headerName.toList, .truth s.header)]

/-- The known names, and what the fields of these names hold. -/
def kinds : List (Text × FieldKind) :=
  Quantity.all.map (fun q => (q.name.toList, .number)) ++ [(headerName.toList, .truth)]

/-- The settings with the value of a field, if there is such a field and it holds such values. -/
def put? (s : Settings) : Text × FieldValue → Option Settings
  | (name, .number a) =>
    (Quantity.all.find? fun q => q.name.toList == name).map fun q => s.set a q
  | (name, .truth b) =>
    if name = headerName.toList then some { s with header := b } else none

/-- The settings that fields make, starting from the defaults. -/
def ofFields? (fields : List (Text × FieldValue)) : Option Settings :=
  if (fields.map Prod.fst).Nodup then fields.foldlM put? {} else none

/-- Settings as they are written. -/
def text (format : RecordFormat) (s : Settings) : Text :=
  format.write recordName s.fields

/-- Why a file holds no accepted settings. -/
inductive LoadFault where
  | notText
  | unreadable
  | rejected (fault : Fault)
deriving DecidableEq, Repr

/-- The accepted settings that a file holds. -/
def load (format : RecordFormat) (bytes : List UInt8) : Except LoadFault Settings :=
  match Bytes.text? bytes with
  | none => .error .notText
  | some t =>
    match (format.read recordName kinds t).bind ofFields? with
    | none => .error .unreadable
    | some s =>
      match s.check with
      | some fault => .error (.rejected fault)
      | none => .ok s

end PenPlotter.Settings
