import PenPlotter.Proofs.Dialect.Plain

/-!
# The dialect of the device

A command is written in two ways: as its text, and through the template of its kind among those of
the device.  The two agree on all commands, whatever their parameters, in every template language
that keeps its promise (`TemplateEngine.write_roland`).  For that the templates need not be looked
at piece by piece: each is a letter and names separated by commas, and such a template is written
as the letter and the values of the names (`Template.filled_letterAnd`).

A text holds nothing but letters, digits, commas and minus signs
(`Command.isPrinted_of_mem_text`).  No command becomes more than one line therefore, and the lines
of a program are its commands one by one (`TemplateEngine.post_roland`).
-/

namespace PenPlotter

/-! ## 1. The characters of a command -/

/-- Whether a text of a command can hold a character: one of the letters, a comma, a minus sign or a
digit. -/
def isPrinted (c : Char) : Bool :=
  c.isAlphanum || c == ',' || c == '-'

theorem isPrinted_of_mem_ofNat {n : Nat} {c : Char} (h : c ∈ Text.ofNat n) :
    isPrinted c = true := by
  rw [isPrinted, Char.isAlphanum, Text.isDigit_of_mem_ofNat h, Bool.or_true, Bool.true_or,
    Bool.true_or]

theorem isPrinted_of_mem_ofInt {n : Int} {c : Char} (h : c ∈ Text.ofInt n) :
    isPrinted c = true := by
  cases n with
  | ofNat n => exact isPrinted_of_mem_ofNat h
  | negSucc n =>
    rcases List.mem_cons.mp h with rfl | h
    · rfl
    · exact isPrinted_of_mem_ofNat h

namespace Command

theorem parameters_singleton (value : Int) : parameters [value] = Text.ofInt value :=
  List.intercalate_singleton ..

theorem parameters_cons_cons (value next : Int) (rest : List Int) :
    parameters (value :: next :: rest) = Text.ofInt value ++ ',' :: parameters (next :: rest) := by
  rw [parameters, List.map_cons, List.map_cons, List.intercalate_cons_cons, List.append_assoc]
  rfl

theorem isPrinted_of_mem_parameters {values : List Int} {c : Char} (h : c ∈ parameters values) :
    isPrinted c = true := by
  induction values with
  | nil => cases h
  | cons value rest ih =>
    cases rest with
    | nil =>
      rw [parameters_singleton] at h
      exact isPrinted_of_mem_ofInt h
    | cons next more =>
      rw [parameters_cons_cons] at h
      rcases List.mem_append.mp h with h | h
      · exact isPrinted_of_mem_ofInt h
      · rcases List.mem_cons.mp h with rfl | h
        · rfl
        · exact ih h

/-- **The text of a command is made of letters, digits, commas and minus signs.** -/
theorem isPrinted_of_mem_text {command : Command} {c : Char} (h : c ∈ command.text) :
    isPrinted c = true := by
  cases command with
  | reset =>
    rw [List.mem_singleton.mp h]
    rfl
  | selectPen | move | draw | relativeMove | relativeDraw | circle =>
    rcases List.mem_cons.mp h with rfl | h
    · rfl
    · exact isPrinted_of_mem_parameters h

theorem not_mem_text {c : Char} (hc : isPrinted c = false) (command : Command) :
    c ∉ command.text := by
  intro h
  rw [isPrinted_of_mem_text h] at hc
  cases hc

end Command

/-! ## 2. Templates of a letter and parameters -/

namespace Template

variable {context : List (Text × Int)} {names : List String} {values : List Int}

/-- The names with commas between them. -/
def commaNames (names : List String) : Template :=
  [Piece.char ','].intercalate (names.map fun name => [.placeholder name.toList])

/-- A letter, and names separated by commas. -/
def letterAnd (letter : Char) (names : List String) : Template :=
  .char letter :: commaNames names

theorem commaNames_cons_cons (name next : String) (rest : List String) :
    commaNames (name :: next :: rest) =
      .placeholder name.toList :: .char ',' :: commaNames (next :: rest) := by
  rw [commaNames, List.map_cons, List.map_cons, List.intercalate_cons_cons, List.append_assoc]
  rfl

theorem names_commaNames (names : List String) :
    Template.names (commaNames names) = names.map String.toList := by
  induction names with
  | nil => rfl
  | cons name rest ih =>
    cases rest with
    | nil => rfl
    | cons next more =>
      rw [commaNames_cons_cons, Template.names, Template.names, ih]
      rfl

/-- Names that have values are written as these, separated by commas. -/
theorem filled_commaNames
    (h : names.map (fun name => context.lookup name.toList) = values.map some) :
    (commaNames names).filled context = Command.parameters values := by
  induction names generalizing values with
  | nil =>
    rw [List.map_eq_nil_iff.mp h.symm]
    rfl
  | cons name rest ih =>
    obtain ⟨value, more, rfl, hvalue, hmore⟩ := List.map_eq_cons_iff.mp h.symm
    have hlookup : context.lookup name.toList = some value := hvalue.symm
    have hpiece : filledPiece context (.placeholder name.toList) = Text.ofInt value := by
      rw [filledPiece, hlookup]
      rfl
    have hrest := ih hmore.symm
    cases rest with
    | nil =>
      rw [List.map_eq_nil_iff.mp hmore, Command.parameters_singleton, ← hpiece]
      exact List.append_nil _
    | cons next names =>
      obtain ⟨second, others, rfl, -, -⟩ := List.map_eq_cons_iff.mp hmore
      rw [commaNames_cons_cons, filled, List.flatMap_cons, List.flatMap_cons, hpiece, ← filled,
        hrest, Command.parameters_cons_cons]
      rfl

theorem filled_letterAnd (letter : Char)
    (h : names.map (fun name => context.lookup name.toList) = values.map some) :
    (letterAnd letter names).filled context = letter :: Command.parameters values := by
  rw [letterAnd, filled, List.flatMap_cons, ← filled, filled_commaNames h]
  rfl

/-- A context suits names that it has values for. -/
theorem suits_letterAnd (letter : Char)
    (h : names.map (fun name => context.lookup name.toList) = values.map some) :
    (letterAnd letter names).Suits context := by
  intro name hname
  rw [letterAnd, Template.names, names_commaNames] at hname
  obtain ⟨word, hword, rfl⟩ := List.mem_map.mp hname
  have hmem : context.lookup word.toList ∈ values.map some := h ▸ List.mem_map_of_mem hword
  obtain ⟨value, -, hvalue⟩ := List.mem_map.mp hmem
  obtain ⟨before, after, rfl, -⟩ := List.lookup_eq_some_iff.mp hvalue.symm
  exact .inr (by simp)

end Template

/-- The templates of the device, piece by piece. -/
def Dialect.roland : Dialect :=
  [("reset".toList, .letterAnd 'H' []),
    ("select_pen".toList, .letterAnd 'J' ["pen"]),
    ("move".toList, .letterAnd 'M' ["x", "y"]),
    ("draw".toList, .letterAnd 'D' ["x", "y"]),
    ("relative_move".toList, .letterAnd 'R' ["x", "y"]),
    ("relative_draw".toList, .letterAnd 'I' ["x", "y"]),
    ("circle".toList, .letterAnd 'C' ["x", "y", "radius", "start", "end"])]

/-- The texts of the templates are those that the device has. -/
theorem Dialect.sources_roland : Dialect.roland.sources = rolandTexts := by
  decide

theorem Dialect.isWritten_roland : Dialect.roland.IsWritten := by
  decide

theorem Dialect.isPlain_roland : ∀ entry ∈ Dialect.roland, entry.2.IsPlain := by
  decide

/-! ## 3. The two ways of writing a command -/

/-- The parameters of a command have different names. -/
theorem Command.nodup_named (c : Command) : (c.named.map Prod.fst).Nodup := by
  cases c <;> (simp only [named, List.map_cons, List.map_nil]; decide)

namespace TemplateEngine

variable {e : TemplateEngine} {templates : e.Templates}

/-- The templates of the device are taken in. -/
theorem Lawful.exists_roland (h : e.Lawful) : ∃ templates, e.roland = .ok templates := by
  rw [roland, ← Dialect.sources_roland]
  exact h.takes _ Dialect.isWritten_roland Dialect.isPlain_roland

theorem holds_roland (h : e.roland = .ok templates) : e.Holds templates Dialect.roland := by
  refine ⟨Dialect.isWritten_roland, ?_⟩
  rw [Dialect.sources_roland]
  exact h

/-- A template of a letter and parameters that a command has is written as the letter and their
values. -/
theorem write_of_letterAnd (h : e.Lawful) (hroland : e.roland = .ok templates) {c : Command}
    (letter : Char) (names : List String) (values : List Int)
    (hfind : Dialect.roland.find? c.kind = some (.letterAnd letter names))
    (hvalues : names.map (fun name => c.named.lookup name.toList) = values.map some) :
    e.write templates c = .ok (letter :: Command.parameters values) := by
  obtain ⟨u, hu, hfilled⟩ := h.writes (holds_roland hroland) c.kind c.named _ c.nodup_named hfind
    (Template.suits_letterAnd letter hvalues)
  have hplain := Dialect.isPlain_roland _ (Dialect.mem_of_find? hfind)
  rw [write, hu, hfilled hplain, Template.filled_letterAnd letter hvalues]

/-- **Among the templates of the device, that of a command writes its text.** -/
theorem write_roland (h : e.Lawful) (hroland : e.roland = .ok templates) (c : Command) :
    e.write templates c = .ok c.text := by
  cases c with
  | reset => exact write_of_letterAnd h hroland 'H' [] [] rfl rfl
  | selectPen pen => exact write_of_letterAnd h hroland 'J' ["pen"] [pen] rfl rfl
  | move p => exact write_of_letterAnd h hroland 'M' ["x", "y"] [p.x, p.y] rfl rfl
  | draw p => exact write_of_letterAnd h hroland 'D' ["x", "y"] [p.x, p.y] rfl rfl
  | relativeMove d => exact write_of_letterAnd h hroland 'R' ["x", "y"] [d.x, d.y] rfl rfl
  | relativeDraw d => exact write_of_letterAnd h hroland 'I' ["x", "y"] [d.x, d.y] rfl rfl
  | circle c r a b =>
    exact write_of_letterAnd h hroland 'C' ["x", "y", "radius", "start", "end"]
      [c.x, c.y, r, a, b] rfl rfl

/-- **Commands are written one a line, each as its text.** -/
theorem post_roland (h : e.Lawful) (hroland : e.roland = .ok templates)
    (commands : List Command) : e.post templates commands = .ok (commands.map Command.text) := by
  induction commands with
  | nil => rfl
  | cons c rest ih =>
    have hline : c.text.splitOn '\n' = [c.text] :=
      List.splitOn_eq_singleton (Command.not_mem_text rfl c)
    simp only [post, write_roland h hroland, ih, hline, Except.map, List.singleton_append,
      List.map_cons]

/-- **The templates of the device write all commands, and each on a line of its own as its text**,
in every template language that keeps its promise. -/
theorem post_of_rolandTexts (e : TemplateEngine) (h : e.Lawful) (commands : List Command) :
    ∃ templates, e.add rolandTexts = .ok templates ∧
      e.post templates commands = .ok (commands.map Command.text) := by
  obtain ⟨templates, htemplates⟩ := h.exists_roland
  exact ⟨templates, htemplates, post_roland h htemplates commands⟩

/-- The plain template language writes a pen, a move and an arc at the ends of their ranges. -/
theorem post_of_rolandTexts_at_extremes :
    ∃ templates, plain.add rolandTexts = .ok templates ∧
      plain.post templates [.selectPen 255, .move ⟨-9223372036854775808, 9223372036854775807⟩,
          .circle ⟨0, -1⟩ 9223372036854775807 0 360] =
        .ok ["J255".toList, "M-9223372036854775808,9223372036854775807".toList,
          "C0,-1,9223372036854775807,0,360".toList] := by
  obtain ⟨templates, htemplates, hpost⟩ := post_of_rolandTexts plain plain_lawful
    [.selectPen 255, .move ⟨-9223372036854775808, 9223372036854775807⟩,
      .circle ⟨0, -1⟩ 9223372036854775807 0 360]
  exact ⟨templates, htemplates, hpost⟩

end TemplateEngine

end PenPlotter
