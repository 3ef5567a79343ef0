import PenPlotter.Command

/-!
# Writing commands through templates

A command may be written in any dialect for which there are templates: texts under the names of the
kinds of commands, in which parameters of the command stand in double braces, as in
`M{{x}},{{y}}`.  What is done with a template is the business of a template language.
`TemplateEngine` is what is asked of one: it takes templates in, and writes the one of a given name
with given values for the names in it.

`TemplateEngine.post` writes commands one after the other, each on as many lines as its template has
become; the first command that cannot be written is the fault, and then nothing is written.  The
device itself has the templates `rolandTexts`.
-/

namespace PenPlotter

/-- Why a template cannot be taken in or written. -/
inductive TemplateFault where
  | unreadable (name : Text)
  | missing (name : Text)
  | unknownParameter (name : Text)
deriving DecidableEq, Repr

/-- The wording of a fault. -/
def TemplateFault.message : TemplateFault → String
  | unreadable name => s!"template error: Failed to parse '{String.ofList name}'"
  | missing name => s!"template error: Template '{String.ofList name}' not found"
  | unknownParameter name => s!"template error: Failed to render '{String.ofList name}'"

/-- A template language.  `add` takes in templates under their names, of which the later one counts
if two are the same; `render` writes the template of a name with the values of a context. -/
structure TemplateEngine where
  Templates : Type
  add : List (Text × Text) → Except TemplateFault Templates
  render : Templates → Text → List (Text × Int) → Except TemplateFault Text

/-- The templates of the device, under the kinds of the commands. -/
def rolandTexts : List (Text × Text) :=
  [("reset", "H"),
    ("select_pen", "J\x7b\x7bpen\x7d\x7d"),
    ("move", "M\x7b\x7bx\x7d\x7d,\x7b\x7by\x7d\x7d"),
    ("draw", "D\x7b\x7bx\x7d\x7d,\x7b\x7by\x7d\x7d"),
    ("relative_move", "R\x7b\x7bx\x7d\x7d,\x7b\x7by\x7d\x7d"),
    ("relative_draw", "I\x7b\x7bx\x7d\x7d,\x7b\x7by\x7d\x7d"),
    ("circle", "C\x7b\x7bx\x7d\x7d,\x7b\x7by\x7d\x7d,\x7b\x7bradius\x7d\x7d," ++
      "\x7b\x7bstart\x7d\x7d,\x7b\x7bend\x7d\x7d")].map
    fun (name, t) => (name.toList, t.toList)

namespace TemplateEngine

variable (e : TemplateEngine)

/-- The templates of the device, taken in. -/
def roland : Except TemplateFault e.Templates :=
  e.add rolandTexts

/-- What a command is written as. -/
def write (templates : e.Templates) (c : Command) : Except TemplateFault Text :=
  e.render templates c.kind c.named

/-- The lines that commands are written as. -/
def post (templates : e.Templates) : List Command → Except TemplateFault (List Text)
  | [] => .ok []
  | c :: rest =>
    match e.write templates c with
    | .error fault => .error fault
    | .ok t => (post templates rest).map (t.splitOn '\n' ++ ·)

end TemplateEngine

end PenPlotter
