import PenPlotter.Uri.HostName
import PenPlotter.Uri.HostNumber
import PenPlotter.Uri.Path

/-!
# Authorities

Between two slashes and the path of an address there may stand the user, the host and the port.
Nothing of them is used, but they have to be well formed, and what comes first in the text is found
fault with first.
-/

namespace PenPlotter.Uri

/-! ## 1. Hosts -/

/-- The characters that cannot stand in a host without a name. -/
def isForbiddenOpaque (c : Char) : Bool :=
  c == '\x00' || isIgnored c ||
    [' ', '#', '/', ':', '<', '>', '?', '@', '[', '\\', ']', '^', '|'].contains c

/-- Checks a number in brackets, of which the opening one has been read. -/
def checkBracketed (t : Text) : Except UriFault Unit :=
  if t.getLast? = some ']' ∧ isGrouped t.dropLast then .ok () else .error .invalidBracketed

/-- Checks the host of an address of no scheme of the web. -/
def checkOpaqueHost : Text → Except UriFault Unit
  | '[' :: rest => checkBracketed rest
  | host => if host.any isForbiddenOpaque then .error .invalidCharacter else .ok ()

/-- Checks a host, which has to be a name or a number, and says which name it is. -/
def readHost : Text → Except UriFault Text
  | '[' :: rest => (checkBracketed rest).map fun _ => []
  | host =>
    match HostName.read? host with
    | none => .error .invalidName
    | some name =>
      if name = [] then .error .emptyHost
      else if endsInNumber name && !isDotted name then .error .invalidNumber
      else .ok name

/-! ## 2. Authorities -/

/-- The text before the last `@` of an authority, if there is one, and the text after it. -/
def splitUser (k : Kind) (t : Text) : Option Text × Text :=
  let authority := t.takeWhile fun c => !k.endsAuthority c
  let place := (authority.reverse.takeWhile (· ≠ '@')).reverse
  if place.length = authority.length then (none, t)
  else
    let size := authority.length - place.length
    (some (t.take (size - 1)), t.drop size)

/-- The host that a text begins with, up to a colon that is not in brackets. -/
def hostAt (k : Kind) (inBrackets : Bool) : Text → Text
  | [] => []
  | c :: rest =>
    if k.endsAuthority c || (c == ':' && !inBrackets) then []
    else c :: hostAt k (c == '[' || (inBrackets && c != ']')) rest

/-- The largest number of a port. -/
def highestPort : Nat :=
  65535

/-- The text after a port, if a colon begins one.  Its number may be left out, and an end of the
authority has to follow it; here a backslash always counts as one. -/
def afterPort (t : Text) : Except UriFault Text :=
  match t with
  | ':' :: rest =>
    let digits := rest.takeWhile Char.isDigit
    let rest := rest.dropWhile Char.isDigit
    if highestPort < Text.natValue digits ∨ ¬ rest.head?.all Kind.web.endsAuthority then
      .error .invalidPort
    else .ok rest
  | _ => .ok t

/-- Whether the user of an authority counts: an empty one does not, nor does an empty name with an
empty password. -/
def namesUser : Option Text → Bool
  | some user => user ≠ [] ∧ user ≠ [':']
  | none => false

/-- The text after an authority. -/
def afterAuthority (k : Kind) (t : Text) : Except UriFault Text := do
  let (user, place) := splitUser k t
  if user = some [] ∧ place.head?.any k.endsAuthority then throw .emptyHost
  let host := hostAt k false place
  let rest := place.drop host.length
  if k = .web then
    if host = [] then throw .emptyHost
    let _ ← readHost host
  else checkOpaqueHost host
  if host = [] ∧ rest.head? = some ':' then throw .emptyHost
  let rest ← afterPort rest
  if host = [] ∧ namesUser user then throw .emptyHost
  return rest

end PenPlotter.Uri
