/-!
# What the system refuses

Files, directories and wires are not the program's own, and using them may fail.  The wording is
that of the system: its reason (`SystemFault.reason`), mostly with the number that it has for it
(`SystemFault.message`).
-/

namespace PenPlotter

/-- Why an operation on a file or a wire failed. -/
inductive SystemFault where
  | notFound
  | notDirectory
  | isDirectory
  | nameTooLong
  | tooManyLinks
  | notTerminal
  | notText
  | wireCut
  | other (message : String)
deriving DecidableEq, Repr

namespace SystemFault

/-- The reason of a fault in words. -/
def reason : SystemFault → String
  | notFound => "No such file or directory"
  | notDirectory => "Not a directory"
  | isDirectory => "Is a directory"
  | nameTooLong => "File name too long"
  | tooManyLinks => "Too many levels of symbolic links"
  | notTerminal => "Not a typewriter"
  | notText => "stream did not contain valid UTF-8"
  | wireCut => "wire cut"
  | other message => message

/-- The number that the system has for a fault; some faults are not the system's. -/
def code? : SystemFault → Option Nat
  | notFound => some 2
  | notDirectory => some 20
  | isDirectory => some 21
  | notTerminal => some 25
  | nameTooLong => some 36
  | tooManyLinks => some 40
  | notText | wireCut | other _ => none

/-- The wording of a fault: the reason, and the number if there is one. -/
def message (fault : SystemFault) : String :=
  match fault.code? with
  | some n => s!"{fault.reason} (os error {n})"
  | none => fault.reason

end SystemFault

end PenPlotter
