import PenPlotter.CommandLine
import PenPlotter.Libraries.Usual
import Std.Time.Format
import Std.Time.Zoned

/-!
# Acting

The platform that acts on the files and the terminal at hand, and the entry point.
-/

namespace PenPlotter

/-- The fault that an error of the system is. -/
def faultOf : IO.Error → SystemFault
  | .noFileOrDirectory .. => .notFound
  | .inappropriateType _ code _ => if code = 20 then .notDirectory else .isDirectory
  | .invalidArgument _ 36 _ => .nameTooLong
  | error => .other (toString error)

/-- Does something that the system may refuse. -/
def acting {α : Type} (action : IO α) : IO (Except SystemFault α) := do
  try
    return .ok (← action)
  catch error =>
    return .error (faultOf error)

/-- Writes bytes one by one, with a pause after each. -/
def writeSlowly (path : String) (delay : Nat) (bytes : List UInt8) : IO Unit := do
  let handle ← IO.FS.Handle.mk path .append
  for b in bytes do
    handle.write ⟨#[b]⟩
    handle.flush
    if 0 < delay then
      IO.sleep (UInt32.ofNat ((delay + 999) / 1000))

/-- The platform that acts. -/
def acts : Platform IO where
  isFile path := do
    try
      return (← ((← IO.currentDir) / String.ofList path).metadata).type == .file
    catch _ => return false
  read path := acting do
    return (← IO.FS.readBinFile (String.ofList path)).toList
  write path bytes := acting (IO.FS.writeBinFile (String.ofList path) ⟨bytes.toArray⟩)
  portFault path := do
    match ← acting (IO.FS.Handle.mk (String.ofList path) .readWrite) with
    | .ok _ => return .notTerminal
    | .error fault => return fault
  transmit path delay bytes := acting (writeSlowly (String.ofList path) delay bytes)
  lookup name := do
    return (← IO.getEnv name).map String.toList
  date := do
    let now ← Std.Time.PlainDateTime.now
    return (now.format "uuuu-MM-dd 'at' HH:mm").toList
  print t := acting do
    IO.print (String.ofList t)
    (← IO.getStdout).flush
  printError t := acting (IO.eprint (String.ofList t))

end PenPlotter

/-- Runs the program with the arguments of the command line. -/
def main (args : List String) : IO UInt32 := do
  let program := (← IO.appPath).toString.toList
  let status ← PenPlotter.CommandLine.run .usual PenPlotter.acts program (args.map String.toList)
  return UInt32.ofNat status
