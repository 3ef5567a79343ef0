import Mathlib.Data.List.Basic
import PenPlotter.Proofs.Wire.Delivery

/-!
# The text of a program says which commands it has

Nothing in a program says where a command ends but the line end, and nothing says which parameter
is which but its place.  That is enough.  A text of commands is cut into the texts of the commands
at its line ends (`Command.lines_programText`), the text of a command into its letter and its
parameters at the commas (`Command.parameters_injective`), and neither a line end nor a comma can
stand inside of what it separates.  The letter tells the kind of the command and the kind how many
parameters there are, so that no two lists of commands have the same text
(`Command.programText_eq_iff`).

The file of a conversion is such a text, unless there are no commands: then it is a line end alone.
-/

namespace PenPlotter

/-! ## 1. Whole numbers -/

namespace Text

theorem ofNat_injective : Function.Injective ofNat :=
  Function.LeftInverse.injective natValue_ofNat

/-- The notation of a natural number has nothing but digits. -/
theorem not_mem_ofNat {c : Char} (hc : c.isDigit = false) (n : Nat) : c ∉ ofNat n := by
  intro h
  rw [isDigit_of_mem_ofNat h] at hc
  cases hc

/-- **Whole numbers of the same notation are the same.**  The minus sign is no digit, so that it is
seen from the notation which numbers are negative. -/
theorem ofInt_injective : Function.Injective ofInt := by
  intro n k h
  cases n with
  | ofNat n =>
    cases k with
    | ofNat k => exact congrArg Int.ofNat (ofNat_injective h)
    | negSucc k =>
      have hminus : '-' ∈ ofNat n := by
        rw [show ofNat n = '-' :: ofNat (k + 1) from h]
        exact List.mem_cons_self
      exact absurd hminus (not_mem_ofNat rfl n)
  | negSucc n =>
    cases k with
    | ofNat k =>
      have hminus : '-' ∈ ofNat k := by
        rw [← show '-' :: ofNat (n + 1) = ofNat k from h]
        exact List.mem_cons_self
      exact absurd hminus (not_mem_ofNat rfl k)
    | negSucc k =>
      have hdigits : ofNat (n + 1) = ofNat (k + 1) := List.tail_eq_of_cons_eq h
      have hsucc := ofNat_injective hdigits
      rw [Nat.succ.inj hsucc]

theorem ofInt_ne_nil (n : Int) : ofInt n ≠ [] := by
  cases n with
  | ofNat n => exact ofNat_ne_nil n
  | negSucc n => exact List.cons_ne_nil _ _

theorem comma_not_mem_ofInt (n : Int) : ',' ∉ ofInt n := by
  cases n with
  | ofNat n => exact not_mem_ofNat rfl n
  | negSucc n =>
    intro h
    rcases List.mem_cons.mp h with h | h
    · revert h
      decide
    · exact not_mem_ofNat rfl (n + 1) h

end Text

namespace Command

/-! ## 2. Parameters -/

/-- The parameters come back when their text is cut at the commas. -/
theorem splitOn_parameters {values : List Int} (hne : values ≠ []) :
    (parameters values).splitOn ',' = values.map Text.ofInt := by
  refine List.splitOn_intercalate ',' ?_ (by simpa using hne)
  intro t ht
  obtain ⟨value, -, rfl⟩ := List.mem_map.mp ht
  exact Text.comma_not_mem_ofInt value

theorem parameters_eq_nil_iff {values : List Int} : parameters values = [] ↔ values = [] := by
  cases values with
  | nil => exact iff_of_true rfl rfl
  | cons value rest =>
    refine iff_of_false ?_ (List.cons_ne_nil value rest)
    cases rest with
    | nil =>
      rw [parameters_singleton]
      exact Text.ofInt_ne_nil value
    | cons next more => simp [parameters_cons_cons]

/-- **Parameters of the same text are the same**, and there are as many of them. -/
theorem parameters_injective : Function.Injective parameters := by
  intro values values' h
  by_cases hnil : values = []
  · rw [hnil, eq_comm] at h ⊢
    exact parameters_eq_nil_iff.mp h
  · have hnil' : values' ≠ [] := by
      intro hnil'
      rw [hnil'] at h
      exact hnil (parameters_eq_nil_iff.mp h)
    have htexts : values.map Text.ofInt = values'.map Text.ofInt := by
      rw [← splitOn_parameters hnil, ← splitOn_parameters hnil', h]
    exact Text.ofInt_injective.list_map htexts

/-! ## 3. Commands -/

/-- The letter that the text of a command begins with. -/
def letter : Command → Char
  | reset => 'H'
  | selectPen _ => 'J'
  | move _ => 'M'
  | draw _ => 'D'
  | relativeMove _ => 'R'
  | relativeDraw _ => 'I'
  | circle .. => 'C'

/-- The text of a command is its letter and all its parameters. -/
theorem text_eq (command : Command) :
    command.text = command.letter :: parameters (command.named.map Prod.snd) := by
  cases command <;> rfl

/-- The command of a letter and its parameters, if there are as many as the letter asks for. -/
def ofParts? : Char → List Int → Option Command
  | 'H', [] => some .reset
  | 'J', [pen] => some (.selectPen pen.toNat)
  | 'M', [x, y] => some (.move ⟨x, y⟩)
  | 'D', [x, y] => some (.draw ⟨x, y⟩)
  | 'R', [x, y] => some (.relativeMove ⟨x, y⟩)
  | 'I', [x, y] => some (.relativeDraw ⟨x, y⟩)
  | 'C', [x, y, r, a, b] => some (.circle ⟨x, y⟩ r a b)
  | _, _ => none

/-- The letter and the parameters of a command make the command. -/
theorem ofParts?_letter (command : Command) :
    ofParts? command.letter (command.named.map Prod.snd) = some command := by
  cases command <;> rfl

/-- **Commands of the same text are the same.** -/
theorem text_injective : Function.Injective text := by
  intro c d h
  rw [text_eq, text_eq] at h
  obtain ⟨hletter, hparameters⟩ := List.cons.inj h
  have hvalues := parameters_injective hparameters
  have hparts : some c = some d := by
    rw [← ofParts?_letter c, ← ofParts?_letter d, hletter, hvalues]
  exact Option.some.inj hparts

/-! ## 4. Programs -/

/-- The text of commands in a row: that of each and a line end. -/
def programText (commands : List Command) : Text :=
  commands.flatMap fun command => command.text ++ lineEnd

/-- **The lines of a program are the texts of its commands.** -/
theorem lines_programText (commands : List Command) :
    (programText commands).lines = commands.map text := by
  induction commands with
  | nil => rfl
  | cons command rest ih =>
    have hline : '\n' ∉ command.text := not_mem_text rfl command
    rw [programText, List.flatMap_cons, CommandLine.lines_append_lineEnd hline, List.map_cons]
    exact congrArg (command.text :: ·) ih

theorem programText_injective : Function.Injective programText := by
  intro commands others h
  have htexts : commands.map text = others.map text := by
    rw [← lines_programText, ← lines_programText, h]
  exact text_injective.list_map htexts

/-- The file of no commands is not empty, but nothing of it is sent. -/
theorem fileText_injective :
    Function.Injective fun commands : List Command =>
      CommandLine.fileText (commands.map text) := by
  intro commands others h
  have hlines : sentLines (CommandLine.fileText (commands.map text)) =
      sentLines (CommandLine.fileText (others.map text)) := congrArg sentLines h
  have htexts : commands.map text = others.map text := by
    rwa [sentLines_commands, sentLines_commands] at hlines
  exact text_injective.list_map htexts

/-- **The text of a program says which commands it has**, whatever their number and parameters: no
two programs have the same text, no two are converted to the same file, and no two commands have the
same text. -/
theorem programText_eq_iff (commands others : List Command) :
    (programText commands = programText others ↔ commands = others) ∧
      (CommandLine.fileText (commands.map text) = CommandLine.fileText (others.map text) ↔
        commands = others) ∧
      ∀ c d : Command, c.text = d.text ↔ c = d :=
  ⟨programText_injective.eq_iff, fileText_injective.eq_iff, fun _ _ => text_injective.eq_iff⟩

end Command

end PenPlotter
