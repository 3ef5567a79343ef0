import PenPlotter.SystemFault
import PenPlotter.Text

/-!
# Files and directories

A disk is a tree of directories with files in it, kept as the list of what stands at each place.  A
place is the list of names that lead to it from the root; the root is always there.

A link is another name for what stands elsewhere.  It is kept with the place that it leads to in
the end, so that a link that leads to a link leads round and round.  It may lead to a place where
nothing stands yet.  Files with several names are kept as a file at one of them and links at the
others.

A path is a text.  It leads from the root if it begins with a slash and from a given directory if
not, names are separated by slashes, `.` stays where it is, `..` goes up, and links are followed
(`Disk.place`).  Every name but the last has to be that of a directory, and no name may be too
long.  Where a path leads may be free: then a file can be made there, but not read.
-/

namespace PenPlotter

/-- Where something stands on a disk: the names that lead there from the root. -/
abbrev Place := List Text

/-- What stands at a place. -/
inductive Node where
  | file (content : List UInt8)
  | directory
  | link (place : Place)
deriving DecidableEq, Repr

/-- A disk: what stands at each place other than the root. -/
structure Disk where
  entries : List (Place × Node)
deriving DecidableEq, Repr

namespace Disk

/-- What stands at a place. -/
def node? (d : Disk) (p : Place) : Option Node :=
  if p = [] then some .directory else d.entries.lookup p

/-- The disk with something put at a place, instead of what stood there. -/
def put (d : Disk) (p : Place) (n : Node) : Disk :=
  if (d.entries.lookup p).isSome then
    ⟨d.entries.map fun entry => if entry.1 = p then (p, n) else entry⟩
  else ⟨d.entries ++ [(p, n)]⟩

/-! ## 1. Paths -/

/-- The longest name, in bytes. -/
def longestName : Nat :=
  255

/-- The longest path, in bytes. -/
def longestPath : Nat :=
  4095

/-- The names in a path; a name left out stays where it is. -/
def names (path : Text) : List Text :=
  (path.splitOn '/').filter (· ≠ [])

/-- Whether a path can only be that of a directory, because it ends in a slash. -/
def endsInSlash (path : Text) : Bool :=
  path.getLast? == some '/'

/-- Where a path leads from: the root if it begins with a slash, and else the given directory. -/
def origin (directory : Place) (path : Text) : Place :=
  if path.head? = some '/' then [] else directory

/-- The place that is meant by a place, which is another one if a link stands there.  Where nothing
stands that a link leads to, something can be made only in a directory. -/
def follow (d : Disk) (p : Place) : Except SystemFault Place :=
  match d.node? p with
  | some (.link q) =>
    match d.node? q with
    | some (.link _) => .error .tooManyLinks
    | some _ => .ok q
    | none => if d.node? q.dropLast = some .directory then .ok q else .error .notFound
  | _ => .ok p

/-- Goes on from a place, name by name.  A place has to be a directory to go on from there, even to
stay there or to go up. -/
def walk (d : Disk) : Place → List Text → Except SystemFault Place
  | p, [] => .ok p
  | p, name :: rest =>
    match d.node? p with
    | some .directory =>
      if name = ['.'] then walk d p rest
      else if name = ['.', '.'] then walk d p.dropLast rest
      else if longestName < Text.byteLength name then .error .nameTooLong
      else
        match d.follow (p ++ [name]) with
        | .ok q => walk d q rest
        | .error fault => .error fault
    | none => .error .notFound
    | some _ => .error .notDirectory

/-- The place that names lead to on a path from a directory.  The path must be neither empty nor too
long, whatever the names. -/
def placeOf (d : Disk) (directory : Place) (path : Text) (names : List Text) :
    Except SystemFault Place :=
  if path = [] then .error .notFound
  else if longestPath < Text.byteLength path then .error .nameTooLong
  else d.walk (origin directory path) names

/-- The place that a path leads to from a directory.  What comes before the last name has to be
there. -/
def place (d : Disk) (directory : Place) (path : Text) : Except SystemFault Place :=
  d.placeOf directory path (names path)

/-! ## 2. Reading and writing -/

/-- The place of the file that a path leads to. -/
def fileToRead (d : Disk) (directory : Place) (path : Text) : Except SystemFault Place :=
  (d.place directory path).bind fun p =>
    match d.node? p with
    | some (.file _) => if endsInSlash path then .error .notDirectory else .ok p
    | some .directory => .error .isDirectory
    | some (.link _) => .error .tooManyLinks
    | none => .error .notFound

/-- Whether a path leads to a file. -/
def isFile (d : Disk) (directory : Place) (path : Text) : Bool :=
  (d.fileToRead directory path).isOk

/-- Why no serial port can be opened at a path.  It fails as reading a file does, and what can be
read is a file and no serial port. -/
def portFault (d : Disk) (directory : Place) (path : Text) : SystemFault :=
  match d.fileToRead directory path with
  | .error fault => fault
  | .ok _ => .notTerminal

/-- The place of the file that a path leads to, if there may be one.  A path that ends in a slash is
that of a directory, whether there is one or not; only the directory that it would be in has to be
there. -/
def fileToChange (d : Disk) (directory : Place) (path : Text) : Except SystemFault Place :=
  if endsInSlash path then
    (d.placeOf directory path ((names path).dropLast ++ [['.']])).bind fun _ => .error .isDirectory
  else
    (d.place directory path).bind fun p =>
      match d.node? p with
      | some .directory => .error .isDirectory
      | some (.link _) => .error .tooManyLinks
      | _ => .ok p

/-- The bytes of the file at a place; where there is no file there are none. -/
def contentAt (d : Disk) (p : Place) : List UInt8 :=
  match d.node? p with
  | some (.file content) => content
  | _ => []

/-- The bytes of the file that a path leads to. -/
def read (d : Disk) (directory : Place) (path : Text) : Except SystemFault (List UInt8) :=
  (d.fileToRead directory path).map d.contentAt

end Disk

end PenPlotter
