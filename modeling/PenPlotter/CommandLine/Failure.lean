import PenPlotter.Connection
import PenPlotter.Conversion
import PenPlotter.Settings.Record
import PenPlotter.Template

/-!
# What ends a run of the program

A failure says what went wrong and, where there is one, the cause behind it.  Its wording puts the
cause after a colon.  A fault of the system that a connection met is told twice, once as what the
connection says and once as its cause.

Where nobody takes what is to be printed, the program is broken off (`Failure.unprinted`).
-/

namespace PenPlotter

/-- What ends a run of the program. -/
inductive Failure where
  | missingConfigFile
  | badScale (text : Text)
  | unexpectedArgument (text : Text)
  | missingName
  | configUnread (path : Text) (fault : SystemFault)
  | configUnloaded (path : Text) (fault : Settings.LoadFault)
  | settings (fault : Settings.Fault)
  | noSource (name : Text)
  | unread (path : Text) (fault : SystemFault)
  | unconverted (path : Text) (fault : ConversionFault)
  | dialect (fault : TemplateFault)
  | unwritten (path : Text) (fault : SystemFault)
  | missingDelay
  | badDelay (text : Text) (fault : UnsignedFault)
  | sendArguments
  | unopened (address : Text) (fault : ConnectionFault)
  | unsent (fault : SystemFault)
  | unprinted (fault : SystemFault)
deriving DecidableEq, Repr

namespace Failure

/-- The wording of what is wrong with a text that should be a number. -/
def numberMessage (t : Text) : String :=
  if t.isEmpty then "cannot parse float from empty string" else "invalid float literal"

/-- The wording of what is wrong with the content of a settings file. -/
def loadMessage : Settings.LoadFault → String
  | .notText => SystemFault.notText.message
  | .unreadable => "not in the notation of settings"
  | .rejected fault => fault.message

/-- The wording of a fault of a connection together with its cause. -/
def connectionMessage : ConnectionFault → String
  | .system fault => s!"{(ConnectionFault.system fault).message}: {fault.message}"
  | fault => fault.message

/-- The wording of a failure. -/
def message : Failure → String
  | missingConfigFile => "--config needs a file"
  | badScale t => s!"scale '{String.ofList t}' is not a number: {numberMessage t}"
  | unexpectedArgument t => s!"unexpected argument '{String.ofList t}'"
  | missingName => "missing file name"
  | configUnread path fault => s!"cannot load config {String.ofList path}: {fault.message}"
  | configUnloaded path fault => s!"cannot load config {String.ofList path}: {loadMessage fault}"
  | settings fault => fault.message
  | noSource name =>
    s!"neither {String.ofList name}.plt nor {String.ofList name}.hpgl can be accessed"
  | unread path fault => s!"cannot read {String.ofList path}: {fault.message}"
  | unconverted path fault => s!"cannot convert {String.ofList path}: {fault.message}"
  | dialect fault => fault.message
  | unwritten path fault => s!"cannot write {String.ofList path}: {fault.message}"
  | missingDelay => "--delay-us needs a value"
  | badDelay t fault => s!"delay '{String.ofList t}' is not a number: {fault.message}"
  | sendArguments => "send needs a file and a plotter uri"
  | unopened address fault =>
    s!"cannot open plotter at {String.ofList address}: {connectionMessage fault}"
  | unsent fault => connectionMessage (.system fault)
  | unprinted fault => s!"failed printing to stdout: {fault.message}"

/-- The exit status that a failure gives: two if there is no plot file, 101 if the program is broken
off, and else one. -/
def status : Failure → Nat
  | noSource _ => 2
  | unprinted _ => 101
  | _ => 1

end Failure

end PenPlotter
