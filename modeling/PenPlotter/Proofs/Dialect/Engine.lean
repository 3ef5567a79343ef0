import PenPlotter.Template

/-!
# What a template language promises

The templates that commands are written through are literal text with names in double braces.  Here
they are kept piece by piece (`Template`), and a set of them under their names is a `Dialect`.  As a
text, a template is what its pieces are written out as (`Template.source`), provided that no
character of it opens anything else together with what follows (`Template.IsWritten`).

A template language is lawful (`TemplateEngine.Lawful`) if it does with such templates what the
manual of one says: literal text is written as it is, and a name as the value that it has in the
context, in decimal notation; a name without a value is an error, and so is a template that is not
there.  A few words are names of the language itself (`ownWords`), the truth values and the name of
the whole context.  They need no value, and what they are written as is left open.  Names that begin
with one may not be taken in.

Nothing else is promised: neither what the faults are, nor what becomes of texts that are no such
templates.
-/

namespace PenPlotter

/-! ## 1. Templates piece by piece -/

/-- A part of a template: a character that stands for itself, or a name in double braces. -/
inductive Piece where
  | char (c : Char)
  | placeholder (name : Text)
deriving DecidableEq, Repr

/-- A template is written piece by piece. -/
abbrev Template := List Piece

/-- Templates under their names.  Of two templates of one name the later one counts. -/
abbrev Dialect := List (Text × Template)

/-- A piece of a template as it stands in a text. -/
def Piece.source : Piece → Text
  | .char c => [c]
  | .placeholder name => '\x7b' :: '\x7b' :: (name ++ ['\x7d', '\x7d'])

/-- The words that a template language has a meaning of its own for. -/
def ownWords : List Text :=
  ["true", "True", "false", "False", "__tera_context"].map String.toList

namespace Template

/-- The text that a template is written out as. -/
def source (t : Template) : Text :=
  t.flatMap Piece.source

/-- The names in a template. -/
def names : Template → List Text
  | [] => []
  | .char _ :: rest => names rest
  | .placeholder name :: rest => name :: names rest

/-- Whether a word may be the name of a parameter: it begins with a letter or an underscore and goes
on with these and digits. -/
def isName : Text → Bool
  | [] => false
  | c :: rest => (c.isAlpha || c == '_') && rest.all fun d => d.isAlphanum || d == '_'

/-- Whether a brace that the given text follows would open something. -/
def opens (after : Text) : Bool :=
  after.head?.any fun c => c == '\x7b' || c == '%' || c == '#'

/-- Whether a template can be written out: no character of it opens anything together with what
follows, and what stands in braces are names. -/
def isWritten : Template → Bool
  | [] => true
  | .char c :: rest => !(c == '\x7b' && opens (source rest)) && isWritten rest
  | .placeholder name :: rest => isName name && isWritten rest

/-- Whether no name in a template begins with a word of the language itself. -/
def IsPlain (t : Template) : Prop :=
  ∀ name ∈ t.names, ∀ word ∈ ownWords, ¬ word <+: name

instance (t : Template) : Decidable t.IsPlain :=
  inferInstanceAs (Decidable (∀ name ∈ t.names, ∀ word ∈ ownWords, ¬ word <+: name))

/-- Whether a context has values for all names in a template but those of the language itself. -/
def Suits (t : Template) (context : List (Text × Int)) : Prop :=
  ∀ name ∈ t.names, name ∈ ownWords ∨ name ∈ context.map Prod.fst

instance (t : Template) (context : List (Text × Int)) : Decidable (t.Suits context) :=
  inferInstanceAs (Decidable (∀ name ∈ t.names, name ∈ ownWords ∨ name ∈ context.map Prod.fst))

/-- A piece of a template with the value of a name in its place. -/
def filledPiece (context : List (Text × Int)) : Piece → Text
  | .char c => [c]
  | .placeholder name => ((context.lookup name).map Text.ofInt).getD []

/-- A template with values in the places of the names. -/
def filled (t : Template) (context : List (Text × Int)) : Text :=
  t.flatMap (filledPiece context)

end Template

namespace Dialect

/-- The template of the given name that counts. -/
def find? (d : Dialect) (name : Text) : Option Template :=
  d.reverse.lookup name

/-- A template that has been found is one of the dialect. -/
theorem mem_of_find? {d : Dialect} {name : Text} {t : Template} (h : d.find? name = some t) :
    (name, t) ∈ d := by
  obtain ⟨before, after, hsplit, -⟩ := List.lookup_eq_some_iff.mp h
  rw [← List.mem_reverse, hsplit]
  simp

/-- The texts of the templates of a dialect. -/
def sources (d : Dialect) : List (Text × Text) :=
  d.map fun (name, t) => (name, t.source)

/-- Whether all templates of a dialect can be written out. -/
def IsWritten (d : Dialect) : Prop :=
  ∀ entry ∈ d, entry.2.isWritten = true

instance (d : Dialect) : Decidable d.IsWritten :=
  inferInstanceAs (Decidable (∀ entry ∈ d, entry.2.isWritten = true))

end Dialect

/-! ## 2. The promise -/

namespace TemplateEngine

/-- Whether a template language has taken in the templates of a dialect. -/
structure Holds (e : TemplateEngine) (templates : e.Templates) (d : Dialect) : Prop where
  written : d.IsWritten
  added : e.add d.sources = .ok templates

/-- Whether a template language takes in and writes templates as its manual says.  The names in a
context are different ones. -/
structure Lawful (e : TemplateEngine) : Prop where
  takes (d : Dialect) : d.IsWritten → (∀ entry ∈ d, entry.2.IsPlain) →
    ∃ templates, e.add d.sources = .ok templates
  misses {d : Dialect} {templates : e.Templates} : e.Holds templates d →
    ∀ name context, d.find? name = none →
      ∃ fault, e.render templates name context = .error fault
  writes {d : Dialect} {templates : e.Templates} : e.Holds templates d →
    ∀ name context t, (context.map Prod.fst).Nodup → d.find? name = some t → t.Suits context →
      ∃ u, e.render templates name context = .ok u ∧ (t.IsPlain → u = t.filled context)
  refuses {d : Dialect} {templates : e.Templates} : e.Holds templates d →
    ∀ name context t, (context.map Prod.fst).Nodup → d.find? name = some t → ¬ t.Suits context →
      ∃ fault, e.render templates name context = .error fault

end TemplateEngine

end PenPlotter
