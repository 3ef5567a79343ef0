import PenPlotter.Settings

/-!
# Converting a plot program

A plot program is converted line by line under accepted settings.  The result is the list of device
commands, or the first fault.
-/

namespace PenPlotter

/-- Why a plot program has no conversion. -/
inductive ConversionFault where
  | settings (fault : Settings.Fault)
  | program (fault : Fault)
deriving DecidableEq, Repr

/-- The wording of a fault. -/
def ConversionFault.message : ConversionFault → String
  | settings fault => fault.message
  | program fault => fault.message

/-- The step that converts all of a plot program from the start. -/
def conversionStep (setup : Setup Float) (source : Text) : Step :=
  Session.start.run setup source.lines

/-- The device commands of a plot program. -/
def convert (source : Text) (settings : Settings) : Except ConversionFault (List Command) :=
  match settings.check with
  | some fault => .error (.settings fault)
  | none =>
    let step := conversionStep settings.setup source
    match step.fault with
    | some fault => .error (.program fault)
    | none => .ok step.commands

variable {source : Text} {settings : Settings}

/-- A program is converted if it is gone through without a fault under accepted settings. -/
theorem convert_eq_ok_iff {commands : List Command} :
    convert source settings = .ok commands ↔ settings.check = none ∧
      (conversionStep settings.setup source).fault = none ∧
      (conversionStep settings.setup source).commands = commands := by
  rw [convert]
  cases settings.check with
  | some fault => simp
  | none => cases hend : (conversionStep settings.setup source).fault <;> simp [hend]

/-- A program is at fault if going through it is, under accepted settings. -/
theorem convert_eq_program_iff {fault : Fault} :
    convert source settings = .error (.program fault) ↔ settings.check = none ∧
      (conversionStep settings.setup source).fault = some fault := by
  rw [convert]
  cases settings.check with
  | some fault => simp
  | none => cases hend : (conversionStep settings.setup source).fault <;> simp [hend]

end PenPlotter
