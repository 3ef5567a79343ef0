import PenPlotter.Disk

/-!
# What a program asks of its surroundings

A command line program reads and writes files, looks up variables, asks for the time and prints.
`Platform m` is the list of these operations in a monad `m`, and programs are written over any of
them.  Two are of interest: the one that acts, and `World.platform`, in which the surroundings are
a value, so that what a program does to them can be stated.

Surroundings may refuse what is asked of them.  Paths that lead nowhere are one reason.  A world
has others as well, whatever they are: a file may not be readable, it may not be open to changes, a
write may stop after it has begun, and what is to be printed may find no one to take it
(`Refusals`).
-/

namespace PenPlotter

/-- The operations that a program asks for.  `write` makes a file hold the bytes and nothing else,
`portFault` says why no serial port can be opened at a path, and `transmit` sends bytes to a device
one by one, with a pause of so many microseconds after each. -/
structure Platform (m : Type → Type) where
  isFile : Text → m Bool
  read : Text → m (Except SystemFault (List UInt8))
  write : Text → List UInt8 → m (Except SystemFault Unit)
  portFault : Text → m SystemFault
  transmit : Text → Nat → List UInt8 → m (Except SystemFault Unit)
  lookup : String → m (Option Text)
  date : m Text
  print : Text → m (Except SystemFault Unit)
  printError : Text → m (Except SystemFault Unit)

/-- What surroundings refuse for reasons of their own: to read the file at a place, to open it for a
change, to take more than a number of bytes in one change of it, and to print more after what has
been printed so far. -/
structure Refusals where
  reading : Place → Option SystemFault := fun _ => none
  opening : Place → Option SystemFault := fun _ => none
  writing : Place → Option (Nat × SystemFault) := fun _ => none
  printing : Text → Option SystemFault := fun _ => none
  printingErrors : Text → Option SystemFault := fun _ => none

/-- The surroundings of a program as a value.  Relative paths lead from the directory. -/
structure World where
  disk : Disk
  directory : Place
  environment : List (String × Text)
  date : Text
  output : Text
  errorOutput : Text
  refusals : Refusals := {}

namespace World

/-! ## 1. Files -/

/-- The bytes of the file that a path leads to. -/
def readFile (w : World) (path : Text) : Except SystemFault (List UInt8) :=
  (w.disk.fileToRead w.directory path).bind fun p =>
    match w.refusals.reading p with
    | some fault => .error fault
    | none => .ok (w.disk.contentAt p)

/-- The place of the file that a path leads to and that is opened for a change. -/
def openFile (w : World) (path : Text) : Except SystemFault Place :=
  (w.disk.fileToChange w.directory path).bind fun p =>
    match w.refusals.opening p with
    | some fault => .error fault
    | none => .ok p

/-- The bytes that a file takes of those that it is given, and the fault that stops the change. -/
def taken (w : World) (p : Place) (bytes : List UInt8) : List UInt8 × Option SystemFault :=
  match w.refusals.writing p with
  | some (n, fault) => if n < bytes.length then (bytes.take n, some fault) else (bytes, none)
  | none => (bytes, none)

/-- Opens a file and puts bytes behind what is kept of its content.  Once the file is open it has
lost the rest, and it is made if it was not there; so a change that is stopped is still a change. -/
def change (kept : List UInt8 → List UInt8) (path : Text) (bytes : List UInt8) :
    StateM World (Except SystemFault Unit) :=
  fun w =>
    match w.openFile path with
    | .error fault => (.error fault, w)
    | .ok p =>
      let (written, fault) := w.taken p bytes
      let content := kept (w.disk.contentAt p) ++ written
      (fault.elim (.ok ()) .error, { w with disk := w.disk.put p (.file content) })

/-! ## 2. Printing -/

/-- Prints on the standard output. -/
def print (t : Text) : StateM World (Except SystemFault Unit) :=
  fun w =>
    match w.refusals.printing w.output with
    | some fault => (.error fault, w)
    | none => (.ok (), { w with output := w.output ++ t })

/-- Prints on the standard error output. -/
def printError (t : Text) : StateM World (Except SystemFault Unit) :=
  fun w =>
    match w.refusals.printingErrors w.errorOutput with
    | some fault => (.error fault, w)
    | none => (.ok (), { w with errorOutput := w.errorOutput ++ t })

/-! ## 3. The platform -/

/-- The platform that does everything in the world at hand.  Pauses pass at once. -/
def platform : Platform (StateM World) where
  isFile path := fun w => (w.disk.isFile w.directory path, w)
  read path := fun w => (w.readFile path, w)
  write := change fun _ => []
  portFault path := fun w => (w.disk.portFault w.directory path, w)
  transmit path _ := change id path
  lookup name := fun w => (w.environment.lookup name, w)
  date := fun w => (w.date, w)
  print := print
  printError := printError

end World

end PenPlotter
