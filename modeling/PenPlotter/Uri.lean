import PenPlotter.Uri.Authority

/-!
# Web addresses

Addresses are read by the rules of web addresses (`Uri.read`), which forgive much:

* control characters and spaces at the ends are dropped, and tabs and line ends are passed over;
* the scheme is written in lower case;
* an authority (user, host and port) may stand between two slashes and the path, and is not used,
  but it has to be well formed;
* the query and the fragment are cut off;
* the segments `.` and `..` of a path are resolved;
* the characters of a path that have no place in one are written as percent signs and two digits for
  each of their bytes.

Schemes of the web and `file` take a backslash for a slash.  Slashes at the beginning of a `file`
path are one slash.  An address whose scheme is not followed by a slash has an opaque path, which is
kept as it is but for control characters and characters beyond ASCII.
-/

namespace PenPlotter

namespace Uri

/-- The name of this system, which is as good as no host in a `file` address. -/
def localName : Text :=
  "localhost".toList

/-- The path of a `file` address, whose text follows two slashes.  A drive in the place of the host
belongs to the path.  Without a host the slash after it is one more slash of the path. -/
def filePathAfterSlashes (t : Text) : Except UriFault Text :=
  let host := clean (t.takeWhile fun c => !Kind.file.endsAuthority c)
  let rest := t.dropWhile fun c => !Kind.file.endsAuthority c
  if isDrive host then .ok (pathAfterSlash .file t)
  else if host = [] then .ok (pathAfterSlash .file (clean rest))
  else
    (readHost host).map fun name =>
      if name = localName then pathAfterSlash .file (clean rest)
      else pathAt .file rest

/-- The path of a `file` address, whose text follows the colon. -/
def filePath (t : Text) : Except UriFault Text :=
  match Kind.file.afterSlash? t with
  | none => .ok (pathAfterSlash .file t)
  | some rest =>
    match Kind.file.afterSlash? rest with
    | none => .ok (pathAfterSlash .file rest)
    | some rest => filePathAfterSlashes rest

/-- The path of an address, whose text follows the colon. -/
def readPath (k : Kind) (t : Text) : Except UriFault Text :=
  match k with
  | .file => filePath t
  | .web => (afterAuthority k ((clean t).dropWhile k.isSlash)).map (pathAt k)
  | .other =>
    match clean t with
    | '/' :: '/' :: rest => (afterAuthority k rest).map (pathAt k)
    | '/' :: rest => .ok (pathAfterSlash k rest)
    | rest => .ok (opaquePath rest)

/-- The address that a text is. -/
def read (t : Text) : Except UriFault Uri :=
  match splitScheme? (withoutEdges t) with
  | none => .error .noScheme
  | some (scheme, rest) => (readPath (kind scheme) rest).map fun path => ⟨scheme, path⟩

end Uri

end PenPlotter
