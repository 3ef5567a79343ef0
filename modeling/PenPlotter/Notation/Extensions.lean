import PenPlotter.Notation

/-!
# Extensions of the object notation

A text may begin with attributes such as `#![enable(implicit_some)]`, which switch extensions of the
notation on.  `Extensions.attributes?` reads them.

Four extensions have names.  Three of them make a difference to which texts are accepted; the
fourth, `unwrap_newtypes`, is about records of a single field, and there are none.
-/

namespace PenPlotter.Notation

/-- The extensions that are switched on.  With the last one, a record is written with its name. -/
structure Extensions where
  /-- A value stands for itself where it might be missing: `Some 5` for `Some(5)`. -/
  implicitSome : Bool := false
  /-- The parentheses of a value that might be missing serve also as those of the value:
  `Some(1,2)` for `Some((1,2))`. -/
  unwrapVariants : Bool := false
  namesRequired : Bool := false
deriving DecidableEq, Repr

namespace Extensions

/-- Switches on the extension of a name; nothing if no extension has the name. -/
def enable? (x : Extensions) (name : Text) : Option Extensions :=
  if name = "unwrap_newtypes".toList then some x
  else if name = "implicit_some".toList then some { x with implicitSome := true }
  else if name = "unwrap_variant_newtypes".toList then some { x with unwrapVariants := true }
  else if name = "explicit_struct_names".toList then some { x with namesRequired := true }
  else none

/-- Reads the name of an extension and switches it on. -/
def extension? (x : Extensions) (t : Text) : Option (Extensions × Text) := do
  let (name, t) ← identifier? t
  let x ← x.enable? name
  return (x, t)

/-- The words that an attribute begins with. -/
def attributeWords : List Text :=
  ["#", "!", "[", "enable", "("].map String.toList

/-- Reads the attributes that a text begins with.  An attribute names at least one extension. -/
def attributes? (x : Extensions) (t : Text) : Option (Extensions × Text) :=
  match expect? '#' t with
  | none => some (x, t)
  | some _ => do
    let names ← expectWords? attributeWords t
    let (x, rest) ← if (expect? ')' names).isSome then none else separated? ')' extension? x names
    let rest ← skipBlank? rest
    let rest ← expect? ']' rest
    let rest ← skipBlank? rest
    if rest.length < t.length then attributes? x rest else none
termination_by t.length

/-- A text that begins with no attribute switches nothing on. -/
theorem attributes?_of_expect?_eq_none {x : Extensions} {t : Text} (h : expect? '#' t = none) :
    attributes? x t = some (x, t) := by
  rw [attributes?, h]

end Extensions

end PenPlotter.Notation
