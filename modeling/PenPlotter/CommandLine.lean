import PenPlotter.CommandLine.Arguments
import PenPlotter.Libraries
import PenPlotter.Platform
import PenPlotter.Wire

/-!
# The program

The program has two commands.  Without a word for a command it converts a plot file: of the paths
`NAME.plt`, `NAME.hpgl` and `NAME` the first that leads to a file is read, and the commands are
written to a file with the extension `hita`, after comment lines that say where they come from.
The word `send` streams such a file to a plotter.

A conversion writes its file last, when everything else has succeeded, and then says that it is
done.  A failure is printed in one line and decides the exit status.  What cannot be printed, a
failure or anything else, breaks the program off.
-/

namespace PenPlotter.CommandLine

/-! ## 1. Names of files -/

/-- A name with an extension put behind it. -/
def withSuffix (name : Text) (suffix : String) : Text :=
  name ++ '.' :: suffix.toList

/-- The paths at which a plot file may be, the preferred one first. -/
def sourcePaths (name : Text) : List Text :=
  [withSuffix name "plt", withSuffix name "hpgl", name]

/-- The name of a file without its extension.  A point at the beginning begins no extension. -/
def stem (fileName : Text) : Text :=
  let extension := (fileName.reverse.takeWhile (· ≠ '.')).reverse
  let before := fileName.take (fileName.length - extension.length - 1)
  if before = [] then fileName else before

/-- A path with the extension of its last name replaced.  Of a name such as `..x` nothing but the
two points is left, and they are the name of a directory, which takes no extension. -/
def replaceExtension (path : Text) (suffix : String) : Text :=
  let fileName := (path.reverse.takeWhile (· ≠ '/')).reverse
  let directory := path.take (path.length - fileName.length)
  if stem fileName = ['.'] then directory ++ ['.', '.']
  else withSuffix (directory ++ stem fileName) suffix

/-- The path that is written to.  A plot file that was found under its own name has its extension
replaced. -/
def targetPath (name source : Text) : Text :=
  if source = name then replaceExtension source "hita" else withSuffix name "hita"

/-! ## 2. What is written -/

/-- The comment lines at the head of a converted file. -/
def headerLines (source target date user program : Text) : List Text :=
  let rule := "# ------------------------------------------------------------".toList
  ["# Hitachi 671-20 plot file converted from a .plt or .hpgl file.".toList,
    "# In-file: ".toList ++ source ++ " - Out-file: ".toList ++ target,
    "# Date converted: ".toList ++ date,
    "# Converted by: ".toList ++ user ++ " - with: ".toList ++ program,
    rule,
    "# ------------ Plot it with \"hpgl2dxy send\" ------------------".toList,
    rule]

/-- The text of a converted file: lines separated and ended by carriage return and line feed. -/
def fileText (lines : List Text) : Text :=
  lineEnd.intercalate lines ++ lineEnd

/-! ## 3. Commands -/

section

variable {m : Type → Type} [Monad m] (lib : Libraries)

/-- Asks the platform for something that may be refused. -/
def attempt {α β : Type} (failure : β → Failure) (action : m (Except β α)) : ExceptT Failure m α :=
  ExceptT.mk do
    match ← action with
    | .ok a => return .ok a
    | .error fault => return .error (failure fault)

/-- Gives a result, or a failure. -/
def result {α β : Type} (failure : β → Failure) (r : Except β α) : ExceptT Failure m α :=
  attempt failure (pure r)

/-- Prints on the standard output. -/
def say (p : Platform m) (t : Text) : ExceptT Failure m Unit :=
  attempt .unprinted (p.print t)

/-- The settings that a file holds, or the defaults if no file is given. -/
def loadSettings (p : Platform m) : Option Text → ExceptT Failure m Settings
  | none => return {}
  | some path => do
    let bytes ← attempt (.configUnread path) (p.read path)
    result (.configUnloaded path) (Settings.load lib.records bytes)

/-- The first path that leads to a file. -/
def findFile (p : Platform m) : List Text → m (Option Text)
  | [] => return none
  | path :: rest => do
    if ← p.isFile path then return some path else findFile p rest

/-- The name of the user, as the environment gives it. -/
def userName (p : Platform m) : m Text := do
  match ← p.lookup "USER" with
  | some user => return user
  | none => return (← p.lookup "USERNAME").getD "unknown".toList

/-- The comment lines that are written, if they are wanted. -/
def header (p : Platform m) (program source target : Text) (wanted : Bool) : m (List Text) := do
  if wanted then return headerLines source target (← p.date) (← userName p) program
  else return []

/-- What is said before a conversion. -/
def announcement (source target : Text) : Text :=
  "Converting ".toList ++ source ++ " to ".toList ++ target ++ " ... \n".toList

/-- Converts a plot file. -/
def convertFile (p : Platform m) (program : Text) (args : List Text) : ExceptT Failure m Unit := do
  let request ← result id (ConvertRequest.read args)
  let settings := request.adjust (← loadSettings lib p request.config)
  if let some fault := settings.check then
    throw (.settings fault)
  let some source ← ExceptT.lift (findFile p (sourcePaths request.name))
    | throw (.noSource request.name)
  let target := targetPath request.name source
  say p (announcement source target)
  let bytes ← attempt (.unread source) (p.read source)
  let commands ← result (.unconverted source) (convert (Bytes.text bytes) settings)
  let templates ← result .dialect lib.templates.roland
  let head ← ExceptT.lift (header p program source target settings.header)
  let lines ← result .dialect (lib.templates.post templates commands)
  attempt (.unwritten target) (p.write target (Text.toBytes (fileText (head ++ lines))))
  say p "... done!\n".toList

/-- Makes a device ready, and gives its path: what it held is gone. -/
def openDevice (p : Platform m) (address : Text) : ExceptT Failure m Text := do
  match ← result (.unopened address) (Destination.read lib.addresses address) with
  | .serial path _ => throw (.unopened address (.serial (← p.portFault path)))
  | .device path =>
    attempt (fun fault => .unopened address (.system fault)) (p.write path [])
    return path

/-- Streams a program to a plotter. -/
def sendFile (p : Platform m) (args : List Text) : ExceptT Failure m Unit := do
  let request ← result id (SendRequest.read args)
  let bytes ← attempt (.unread request.file) (p.read request.file)
  let some program := Bytes.text? bytes | throw (.unread request.file .notText)
  let path ← openDevice lib p request.address
  say p ("Plotting file: ".toList ++ request.file ++ ['\n'])
  let (wire, sent) := (Wire.fresh none none).send program
  attempt .unsent (p.transmit path request.delay wire.written.toList)
  let count ← result .unsent sent
  say p ("Done! ".toList ++ Text.ofNat count ++ " lines sent.\n".toList)

/-! ## 4. The program -/

/-- How the program is used, line by line. -/
def usage (program : Text) : List Text :=
  ["Usage: ".toList ++ program ++ " <name> [scale] [--config <file.ron>] [--no-header]\n".toList,
    "       ".toList ++ program ++ " send <file> <uri> [--delay-us <n>]\n".toList,
    "Converts name.plt or name.hpgl into name.hita. Default scale is 1.0.\n".toList,
    "send streams a .hita file to file:///dev/lp0 or serial:///dev/ttyUSB0@9600.\n".toList]

/-- Gives the exit status of a failure, which is printed.  Of a program that is broken off nothing
more is printed here. -/
def report (p : Platform m) (failure : Failure) : m Nat := do
  if let .unprinted _ := failure then
    return failure.status
  match ← p.printError ("Error: ".toList ++ failure.message.toList ++ ['\n']) with
  | .ok _ => return failure.status
  | .error fault => return (Failure.unprinted fault).status

/-- Runs a command and gives the exit status. -/
def finish (p : Platform m) (command : ExceptT Failure m Unit) : m Nat := do
  match ← command.run with
  | .ok _ => return 0
  | .error failure => report p failure

/-- Whether the first argument asks how the program is used. -/
def asksForUsage : List Text → Bool
  | [] => true
  | arg :: _ => arg == "-h".toList || arg == "--help".toList

/-- Says how the program is used, and gives the exit status of that. -/
def explain (p : Platform m) (program : Text) : m Nat := do
  match ← ((usage program).forM (say p)).run with
  | .ok _ => return 1
  | .error failure => report p failure

/-- Runs the program, which was called by the given name, and gives the exit status. -/
def run (p : Platform m) (program : Text) (args : List Text) : m Nat := do
  if asksForUsage args then explain p program
  else
    match args with
    | word :: rest =>
      if word = "send".toList then finish p (sendFile lib p rest)
      else finish p (convertFile lib p program args)
    | [] => finish p (convertFile lib p program args)

end

end PenPlotter.CommandLine
