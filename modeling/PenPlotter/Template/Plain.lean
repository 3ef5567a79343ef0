import PenPlotter.Template

/-!
# A plain template language

A template is literal text with names in double braces, around which there may be blanks; it may
hold line feeds, so that one command may become several lines.  A name stands for the value that the
context has for it.  The words for truth values are no names and stand for themselves, and
`__tera_context` stands for the whole context.  All templates are read before the first one is
written.
-/

namespace PenPlotter

namespace Plain

/-- A part of a template as it is read. -/
inductive Token where
  | char (c : Char)
  | variable (name : Text)
  | everything
deriving DecidableEq, Repr

/-! ## 1. Names -/

/-- The blanks that may surround a name. -/
def isBlank (c : Char) : Bool :=
  c == ' ' || c == '\t' || c == '\r' || c == '\n'

/-- The characters that a name begins with. -/
def isNameStart (c : Char) : Bool :=
  c.isAlpha || c == '_'

/-- The characters of a name. -/
def isNameRest (c : Char) : Bool :=
  c.isAlphanum || c == '_'

/-- Whether a word is a name where the given text follows it.  The word that negates is none before
a blank, where something to negate would have to follow. -/
def isName (word after : Text) : Bool :=
  word.head?.any isNameStart && !(word == "not".toList && after.head?.any isBlank)

/-- The name in double braces, of which the opening ones have been read, and the text after the
closing ones. -/
def readName? (t : Text) : Option (Text × Text) :=
  let inner := t.dropWhile isBlank
  let name := inner.takeWhile isNameRest
  let after := inner.dropWhile isNameRest
  match after.dropWhile isBlank with
  | '\x7d' :: '\x7d' :: rest => if isName name after then some (name, rest) else none
  | _ => none

/-- Reading a name uses up text. -/
theorem length_of_readName? {t name rest : Text} (h : readName? t = some (name, rest)) :
    rest.length < t.length := by
  have blank (p : Char → Bool) (l : Text) : (l.dropWhile p).length ≤ l.length :=
    (List.dropWhile_sublist p).length_le
  have h₁ := blank isBlank t
  have h₂ := blank isNameRest (t.dropWhile isBlank)
  have h₃ := blank isBlank ((t.dropWhile isBlank).dropWhile isNameRest)
  unfold readName? at h
  simp only at h
  split at h
  · next rest' heq =>
    split at h
    · simp only [Option.some.injEq, Prod.mk.injEq] at h
      rw [heq] at h₃
      simp only [List.length_cons] at h₃
      rw [← h.2]
      omega
    · simp at h
  · simp at h

/-- The words for truth values, which are written as they are but for the case of their letters. -/
def truthWords : List (Text × Text) :=
  [("true", "true"), ("True", "true"), ("false", "false"), ("False", "false")].map fun (word, t) =>
    (word.toList, t.toList)

/-- The name that stands for the whole context. -/
def everythingName : Text :=
  "__tera_context".toList

/-! ## 2. Reading -/

/-- What a name in double braces stands for; nothing if it goes on after a word for a truth value,
which cannot be the beginning of a name. -/
def ofName? (name : Text) : Option (List Token) :=
  match truthWords.find? fun (word, _) => word.isPrefixOf name with
  | some (word, t) => if word = name then some (t.map .char) else none
  | none => some [if name = everythingName then .everything else .variable name]

/-- The template that a text is; nothing if double braces open and there is no name in them. -/
def read? : Text → Option (List Token)
  | [] => some []
  | '\x7b' :: '\x7b' :: rest =>
    match _h : readName? rest with
    | some (name, after) =>
      match ofName? name, read? after with
      | some tokens, some more => some (tokens ++ more)
      | _, _ => none
    | none => none
  | c :: rest => (read? rest).map (.char c :: ·)
termination_by t => t.length
decreasing_by
  · have := length_of_readName? _h
    simp only [List.length_cons]; omega
  · simp

/-- Templates under their names; the first text that is no template is a fault. -/
def readAll : List (Text × Text) → Except TemplateFault (List (Text × List Token))
  | [] => .ok []
  | (name, t) :: rest =>
    match read? t with
    | none => .error (.unreadable name)
    | some template => (readAll rest).map ((name, template) :: ·)

/-! ## 3. Writing -/

/-- The names of parameters in alphabetical order. -/
def sortedNames : List Text :=
  ["end", "pen", "radius", "start", "x", "y"].map String.toList

/-- A context as an object that has a line for each parameter. -/
def everything (context : List (Text × Int)) : Text :=
  let lines := sortedNames.filterMap fun name =>
    (context.lookup name).map fun value =>
      "\n  \"".toList ++ name ++ "\": ".toList ++ Text.ofInt value
  if lines = [] then "\x7b\x7d".toList
  else '\x7b' :: [','].intercalate lines ++ "\n\x7d".toList

/-- What a token is written as, if there is a value for it. -/
def renderToken? (context : List (Text × Int)) : Token → Option Text
  | .char c => some [c]
  | .variable name => (context.lookup name).map Text.ofInt
  | .everything => some (everything context)

/-- What tokens are written as, if there are values for all of them. -/
def renderTokens? (context : List (Text × Int)) (tokens : List Token) : Option Text :=
  (tokens.mapM (renderToken? context)).map List.flatten

/-- What the template of a name is written as; of two templates of one name the later one counts. -/
def render (templates : List (Text × List Token)) (name : Text) (context : List (Text × Int)) :
    Except TemplateFault Text :=
  match templates.reverse.lookup name with
  | none => .error (.missing name)
  | some tokens =>
    match renderTokens? context tokens with
    | none => .error (.unknownParameter name)
    | some t => .ok t

end Plain

/-- The plain template language. -/
def TemplateEngine.plain : TemplateEngine where
  Templates := List (Text × List Plain.Token)
  add := Plain.readAll
  render := Plain.render

end PenPlotter
