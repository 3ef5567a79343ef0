import PenPlotter.Position
import PenPlotter.Text

/-!
# What stops a conversion

A conversion is done in one go, and the first fault ends it.  A fault names its cause; the wording
is in `message` alone.
-/

namespace PenPlotter

/-- Why the parameters of a command could not be used. -/
inductive Unreadable where
  | missingNumber
  | notANumber (field : Text)
  | unpaired (count : Nat)
  | outOfRange
deriving DecidableEq, Repr

/-- The wording of a reason. -/
def Unreadable.message : Unreadable → String
  | missingNumber => "missing number"
  | notANumber field => s!"'{String.ofList field}' is not a number"
  | unpaired count => s!"{count} coordinates do not form x,y pairs"
  | outOfRange => "coordinate out of range"

/-- A fault in a plot program. -/
inductive Fault where
  | malformedObject (line vertices : Nat)
  | noObject (line : Nat)
  /-- A fill was asked for that has no last stroke: the pen is so thin against the circle that
  taking it off the radius changes nothing. -/
  | endlessFill (line : Nat)
  | unreadable (line : Nat) (command : Text) (reason : Unreadable)
deriving DecidableEq, Repr

namespace Fault

/-- The line in which the fault was found. -/
def line : Fault → Nat
  | malformedObject line _ => line
  | noObject line => line
  | endlessFill line => line
  | unreadable line _ _ => line

/-- The wording of a fault. -/
def message : Fault → String
  | malformedObject line vertices =>
    s!"malformed object: {vertices} vertices after PM 2 in line {line}"
  | noObject line => s!"fill requested in line {line} but no object has been defined"
  | endlessFill line => s!"fill requested in line {line} has no end"
  | unreadable line command reason =>
    s!"line {line}: cannot parse '{String.ofList command}': {reason.message}"

end Fault

end PenPlotter
