import PenPlotter.Proofs.Session.PenPosition
import PenPlotter.Proofs.Text.Lines

/-!
# Housekeeping

A reset, a change of pen, a command that means nothing here and a polygon mode that is not acted on
are housekeeping.  A reset and a change of pen are passed on to the plotter, and the number of the
pen is remembered; nothing else is done about them.

No other instruction looks at this number, changes it or gives a command of this kind, so that it
does the same whichever pen is held (`Session.execute_holding`).  The steps of a program are
therefore those of the program without its housekeeping: they fail with the same command, and what
they give differs by the housekeeping alone (`Step.IsDrawnBy.each_filter`,
`Step.IsDrawnBy.passed_filter` and `Step.IsDrawnBy.left_filter`).
-/

namespace PenPlotter

/-! ## 1. What is housekeeping -/

/-- Whether an instruction is housekeeping. -/
def Instruction.isHousekeeping {K : Type} : Instruction K → Bool
  | .reset | .selectPen _ | .polygonMode .other | .ignored => true
  | .penUp _ | .penDown _ | .plotAbsolute _ | .plotRelative _ | .polygonMode .start
  | .polygonMode .finish | .circle _ | .edge | .fill => false

/-- Whether a command text stands for housekeeping; one that cannot be read does not. -/
def Text.isHousekeeping (text : Text) : Bool :=
  (Instruction.parse text).toOption.any Instruction.isHousekeeping

/-- Whether a device command is housekeeping. -/
def Command.isHousekeeping : Command → Bool
  | .reset | .selectPen _ => true
  | .move _ | .draw _ | .relativeMove _ | .relativeDraw _ | .circle .. => false

/-- The pen that a device command takes. -/
def Command.pen? : Command → Option Nat
  | .selectPen n => some n
  | _ => none

/-- A session that holds a pen of the given number instead of its own. -/
def Session.holding (number : Option Nat) (s : Session) : Session :=
  { s with pen.number := number }

/-- A step as it is drawn with a pen of the given number: without housekeeping. -/
def Step.drawing (number : Option Nat) (t : Step) : Step :=
  ⟨t.session.holding number, t.commands.filter (!·.isHousekeeping), t.fault⟩

/-! ## 2. Steps in a row -/

namespace Step

variable {α : Type}

/-- The members of a list that are gone through, up to the one with which the first fault comes. -/
def passed (step : α → Session → Step) : List α → Session → List α
  | [], _ => []
  | a :: rest, s =>
    match (step a s).fault with
    | some _ => []
    | none => a :: passed step rest (step a s).session

/-- The members of a list that are left when the first fault comes, beginning with the one with
which it comes. -/
def left (step : α → Session → Step) : List α → Session → List α
  | [], _ => []
  | a :: rest, s =>
    match (step a s).fault with
    | some _ => a :: rest
    | none => left step rest (step a s).session

variable {step : α → Session → Step} {a : α} {s : Session}

theorem passed_of_fault {fault : Fault} (h : (step a s).fault = some fault) (rest : List α) :
    passed step (a :: rest) s = [] := by
  rw [passed, h]

theorem passed_of_no_fault (h : (step a s).fault = none) (rest : List α) :
    passed step (a :: rest) s = a :: passed step rest (step a s).session := by
  rw [passed, h]

theorem left_of_fault {fault : Fault} (h : (step a s).fault = some fault) (rest : List α) :
    left step (a :: rest) s = a :: rest := by
  rw [left, h]

theorem left_of_no_fault (h : (step a s).fault = none) (rest : List α) :
    left step (a :: rest) s = left step rest (step a s).session := by
  rw [left, h]

/-- What is passed and what is left make up the list. -/
theorem passed_append_left (step : α → Session → Step) (l : List α) (s : Session) :
    passed step l s ++ left step l s = l := by
  induction l generalizing s with
  | nil => rfl
  | cons a rest ih =>
    cases hfault : (step a s).fault with
    | some fault => rw [passed_of_fault hfault, left_of_fault hfault, List.nil_append]
    | none => rw [passed_of_no_fault hfault, left_of_no_fault hfault, List.cons_append, ih]

/-- A list of steps is without fault if nothing is left of it. -/
theorem fault_each_eq_none_iff (step : α → Session → Step) (l : List α) (s : Session) :
    (each step l s).fault = none ↔ left step l s = [] := by
  induction l generalizing s with
  | nil => exact iff_of_true rfl rfl
  | cons a rest ih =>
    cases hfault : (step a s).fault with
    | some fault =>
      rw [each, andThen_of_fault hfault, left_of_fault hfault, hfault]
      exact iff_of_false (Option.some_ne_none fault) (List.cons_ne_nil a rest)
    | none =>
      rw [each, andThen_of_no_fault hfault, left_of_no_fault hfault]
      exact ih (step a s).session

/-- Steps one after the other draw what the first and what the second one draws. -/
theorem drawing_andThen {n : Option Nat} {first : Step} {next next' : Session → Step}
    (h : ∀ s : Session, next' (s.holding n) = (next s).drawing n) :
    (first.andThen next).drawing n = (first.drawing n).andThen next' := by
  cases hfault : first.fault with
  | some fault =>
    have hdrawing : (first.drawing n).fault = some fault := hfault
    rw [andThen_of_fault hfault, andThen_of_fault hdrawing]
  | none =>
    have hdrawing : (first.drawing n).fault = none := hfault
    have hsession : (first.drawing n).session = first.session.holding n := rfl
    rw [andThen_of_no_fault hfault, andThen_of_no_fault hdrawing, hsession, h, drawing, drawing,
      drawing, List.filter_append]

/-- If the steps do the same whichever pen is held, so does a list of them. -/
theorem each_holding {n : Option Nat}
    (h : ∀ a (s : Session), step a (s.holding n) = (step a s).drawing n) (l : List α)
    (s : Session) : each step l (s.holding n) = (each step l s).drawing n := by
  induction l generalizing s with
  | nil => rfl
  | cons a rest ih => rw [each, each, drawing_andThen ih, h]

/-- Some of the steps do the same whichever pen is held, and the others are housekeeping. -/
structure IsDrawnBy (step : α → Session → Step) (drawn : α → Bool) : Prop where
  of_drawn : ∀ n a s, drawn a = true → step a (s.holding n) = (step a s).drawing n
  of_not_drawn : ∀ n a s, drawn a = false → (step a s).drawing n = stay (s.holding n)

namespace IsDrawnBy

variable {drawn : α → Bool} {n : Option Nat}

theorem fault_of_drawn (h : IsDrawnBy step drawn) (ha : drawn a = true) :
    (step a (s.holding n)).fault = (step a s).fault := by
  rw [h.of_drawn n a s ha, drawing]

theorem session_of_drawn (h : IsDrawnBy step drawn) (ha : drawn a = true) :
    (step a (s.holding n)).session = (step a s).session.holding n := by
  rw [h.of_drawn n a s ha, drawing]

/-- What is drawn leaves the pen as it is. -/
theorem number_of_drawn (h : IsDrawnBy step drawn) (ha : drawn a = true) :
    (step a s).session.pen.number = s.pen.number :=
  congrArg (·.pen.number) (h.session_of_drawn (n := s.pen.number) (s := s) ha)

/-- What is drawn gives no housekeeping. -/
theorem commands_of_drawn (h : IsDrawnBy step drawn) (ha : drawn a = true) :
    (step a s).commands.filter (!·.isHousekeeping) = (step a s).commands :=
  (congrArg Step.commands (h.of_drawn s.pen.number a s ha)).symm

theorem fault_of_not_drawn (h : IsDrawnBy step drawn) (ha : drawn a = false) :
    (step a s).fault = none :=
  congrArg Step.fault (h.of_not_drawn none a s ha)

theorem session_of_not_drawn (h : IsDrawnBy step drawn) (ha : drawn a = false) :
    (step a s).session.holding n = s.holding n :=
  congrArg Step.session (h.of_not_drawn n a s ha)

/-- **Without housekeeping, a list of steps draws the same.** -/
theorem each_filter (h : IsDrawnBy step drawn) (l : List α) (s : Session) :
    each step (l.filter drawn) (s.holding n) = (each step l s).drawing n := by
  induction l generalizing s with
  | nil => rfl
  | cons a rest ih =>
    rw [each, drawing_andThen ih]
    cases ha : drawn a with
    | true => rw [List.filter_cons_of_pos ha, each, h.of_drawn n a s ha]
    | false =>
      rw [List.filter_cons_of_neg (Bool.not_eq_true _ ▸ ha), h.of_not_drawn n a s ha, stay_andThen]

/-- **Without housekeeping, a list of steps gets as far.** -/
theorem passed_filter (h : IsDrawnBy step drawn) (l : List α) (s : Session) :
    passed step (l.filter drawn) (s.holding n) = (passed step l s).filter drawn := by
  induction l generalizing s with
  | nil => rfl
  | cons a rest ih =>
    cases ha : drawn a with
    | false =>
      have hneg : ¬ drawn a = true := Bool.not_eq_true _ ▸ ha
      rw [passed_of_no_fault (h.fault_of_not_drawn ha), List.filter_cons_of_neg hneg,
        List.filter_cons_of_neg hneg, ← ih, h.session_of_not_drawn ha]
    | true =>
      have hsame := h.fault_of_drawn (n := n) (s := s) ha
      rw [List.filter_cons_of_pos ha]
      cases hfault : (step a s).fault with
      | some fault =>
        rw [passed_of_fault hfault, passed_of_fault (hsame.trans hfault), List.filter_nil]
      | none =>
        rw [passed_of_no_fault hfault, passed_of_no_fault (hsame.trans hfault),
          h.session_of_drawn ha, ih, List.filter_cons_of_pos ha]

/-- **Without housekeeping, a list of steps leaves the same to be drawn, and fails with the same
member.** -/
theorem left_filter (h : IsDrawnBy step drawn) (l : List α) (s : Session) :
    left step (l.filter drawn) (s.holding n) = (left step l s).filter drawn ∧
      (left step (l.filter drawn) (s.holding n)).head? = (left step l s).head? := by
  induction l generalizing s with
  | nil => exact ⟨rfl, rfl⟩
  | cons a rest ih =>
    cases ha : drawn a with
    | false =>
      rw [left_of_no_fault (h.fault_of_not_drawn ha),
        List.filter_cons_of_neg (Bool.not_eq_true _ ▸ ha), ← h.session_of_not_drawn ha]
      exact ih (step a s).session
    | true =>
      have hsame := h.fault_of_drawn (n := n) (s := s) ha
      rw [List.filter_cons_of_pos ha]
      cases hfault : (step a s).fault with
      | some fault =>
        rw [left_of_fault hfault, left_of_fault (hsame.trans hfault), List.filter_cons_of_pos ha]
        exact ⟨rfl, rfl⟩
      | none =>
        rw [left_of_no_fault hfault, left_of_no_fault (hsame.trans hfault), h.session_of_drawn ha]
        exact ih (step a s).session

end IsDrawnBy

end Step

/-! ## 3. Instructions -/

theorem Command.isHousekeeping_of_isOfFigure {c : Command} (h : c.isOfFigure = true) :
    c.isHousekeeping = false := by
  cases c with
  | reset | selectPen => cases h
  | move | draw | relativeMove | relativeDraw | circle => rfl

namespace Session

section

variable {K : Type} [Scalar K] (setup : Setup K) (n : Option Nat)

theorem takePosition_holding (p : Position) (s : Session) :
    (s.holding n).takePosition p = (s.takePosition p).drawing n := by
  obtain ⟨⟨position, down, number⟩, ⟨draft, figure⟩, anchor, radius, line⟩ := s
  cases draft <;> cases down <;> rfl

theorem plotPoint_holding (command : String) (p : Point K) (s : Session) :
    (s.holding n).plotPoint setup command p = (s.plotPoint setup command p).drawing n := by
  rw [plotPoint, plotPoint]
  split
  · exact takePosition_holding n _ s
  · rfl

theorem plotDelta_holding (d : Point K) (s : Session) :
    (s.holding n).plotDelta setup d = (s.plotDelta setup d).drawing n := by
  obtain ⟨⟨position, down, number⟩, workpiece, anchor, radius, line⟩ := s
  rw [plotDelta, plotDelta, holding]
  cases setup.scaling.displace? d with
  | none => rfl
  | some delta =>
    cases hadd : position.add? delta <;> cases down <;> simp [Pen.goBy?, hadd] <;> rfl

/-- The commands that draw a figure are no housekeeping. -/
theorem filter_of_figure {i : Instruction K} (h : i = .edge ∨ i = .fill) (s : Session) :
    (s.execute setup i).commands.filter (!·.isHousekeeping) = (s.execute setup i).commands := by
  refine List.filter_eq_self.mpr fun c hc => ?_
  rw [Command.isHousekeeping_of_isOfFigure (isOfFigure_of_mem_execute setup h s hc), Bool.not_false]

/-- **An instruction that is no housekeeping does the same whichever pen is held.** -/
theorem execute_holding {i : Instruction K} (h : i.isHousekeeping = false) (s : Session) :
    (s.holding n).execute setup i = (s.execute setup i).drawing n := by
  cases i with
  | reset | selectPen | ignored => cases h
  | penUp points =>
    exact Step.each_holding (plotPoint_holding setup n "PU") points { s with pen := s.pen.lift }
  | penDown points =>
    exact Step.each_holding (plotPoint_holding setup n "PD") points { s with pen := s.pen.lower }
  | plotAbsolute points => exact Step.each_holding (plotPoint_holding setup n "PA") points s
  | plotRelative deltas => exact Step.each_holding (plotDelta_holding setup n) deltas s
  | polygonMode mode =>
    cases mode with
    | other => cases h
    | start | finish => rfl
  | circle raw =>
    simp only [execute, takeRadius, holding]
    split
    · rfl
    · split <;> rfl
  | edge =>
    rw [Step.drawing, filter_of_figure setup (.inl rfl)]
    rfl
  | fill =>
    rw [Step.drawing, filter_of_figure setup (.inr rfl)]
    have hworkpiece : (s.holding n).workpiece = s.workpiece := rfl
    rw [execute, execute, fillFigure, fillFigure, hworkpiece]
    by_cases hfigure : s.workpiece.figure = .none
    · rw [if_pos hfigure, if_pos hfigure]
      rfl
    · rw [if_neg hfigure, if_neg hfigure]
      split <;> rfl

end

end Session

/-- What the plotter is told by an instruction that is housekeeping. -/
def Instruction.told? {K : Type} : Instruction K → Option Command
  | .reset => some .reset
  | .selectPen n => some (.selectPen n)
  | _ => none

theorem Instruction.told?_of_not_isHousekeeping {K : Type} {i : Instruction K}
    (h : i.isHousekeeping = false) : i.told? = none := by
  cases i with
  | reset | selectPen | ignored => cases h
  | penUp | penDown | plotAbsolute | plotRelative | polygonMode | circle | edge | fill => rfl

theorem Instruction.isHousekeeping_of_told? {K : Type} {i : Instruction K} {c : Command}
    (h : i.told? = some c) : c.isHousekeeping = true := by
  cases i with
  | reset | selectPen =>
    cases h
    rfl
  | penUp | penDown | plotAbsolute | plotRelative | polygonMode | circle | edge | fill
  | ignored => cases h

/-- **Housekeeping tells the plotter what is asked for, and all else it does is to remember the
pen.** -/
theorem Session.execute_of_isHousekeeping {K : Type} [Scalar K] (setup : Setup K)
    {i : Instruction K} (h : i.isHousekeeping = true)
    (hpen : ∀ n, i = .selectPen n → n ≤ Pen.highest) (s : Session) :
    s.execute setup i =
      ⟨s.holding ((i.told?.bind Command.pen?).or s.pen.number), i.told?.toList, none⟩ := by
  cases i with
  | reset | ignored => rfl
  | selectPen n =>
    simp only [execute, selectPen, Pen.select?, if_pos (hpen n rfl)]
    rfl
  | polygonMode mode =>
    cases mode with
    | other => rfl
    | start | finish => cases h
  | penUp | penDown | plotAbsolute | plotRelative | circle | edge | fill => cases h

/-- A pen that a program asks for is one that there is. -/
theorem Instruction.le_highest_of_parse {text : Text} {n : Nat}
    (h : parse text = .ok (.selectPen n)) : n ≤ Pen.highest := by
  unfold parse at h
  split at h
  case h_2 parameters =>
    unfold ofPenNumber at h
    split at h
    · split at h
      · rename_i digit hdigit
        cases h
        have hle : digit.toNat ≤ '6'.toNat := hdigit.2
        exact Nat.sub_le_sub_right hle _
      · cases h
    · cases h
  case h_3 parameters | h_4 parameters =>
    cases hread : readStroke parameters <;> rw [hread] at h <;> cases h
  case h_6 parameters | h_7 parameters =>
    cases hread : readPoints parameters <;> rw [hread] at h <;> cases h
  case h_8 parameters =>
    cases hread : readNumber (parameters.takeWhile (· ≠ ',')) <;> rw [hread] at h <;> cases h
  case h_1 | h_5 | h_9 | h_10 | h_11 => cases h

/-! ## 4. Programs -/

namespace ProgramPart

/-- Whether a part of a program is housekeeping.  The beginning of a line is not, as lines are
counted. -/
def isHousekeeping (part : ProgramPart) : Bool :=
  part.instruction?.any Instruction.isHousekeeping

/-- What the plotter is told by a part of a program that is housekeeping. -/
def told? (part : ProgramPart) : Option Command :=
  part.instruction?.bind Instruction.told?

theorem isHousekeeping_eq {part : ProgramPart} {i : Instruction Float}
    (h : part.instruction? = some i) : part.isHousekeeping = i.isHousekeeping := by
  rw [isHousekeeping, h, Option.any_some]

theorem told?_eq {part : ProgramPart} {i : Instruction Float} (h : part.instruction? = some i) :
    part.told? = i.told? := by
  rw [told?, h, Option.bind_some]

theorem isHousekeeping_of_told? {part : ProgramPart} {c : Command} (h : part.told? = some c) :
    c.isHousekeeping = true := by
  obtain ⟨i, -, hi⟩ := Option.bind_eq_some_iff.mp h
  exact Instruction.isHousekeeping_of_told? hi

theorem told?_of_not_isHousekeeping {part : ProgramPart} (h : part.isHousekeeping = false) :
    part.told? = none := by
  rw [isHousekeeping, Option.any_eq_false] at h
  rw [told?, Option.bind_eq_none_iff]
  exact fun i hi => Instruction.told?_of_not_isHousekeeping (h i hi)

theorem le_highest_of_told? {part : ProgramPart} {n : Nat}
    (h : part.told? = some (.selectPen n)) : n ≤ Pen.highest := by
  obtain ⟨i, hi, htold⟩ := Option.bind_eq_some_iff.mp h
  obtain ⟨text, -, hparse⟩ := exists_of_instruction? hi
  cases i <;> cases htold
  exact Instruction.le_highest_of_parse hparse

end ProgramPart

/-- A line without the commands that are housekeeping. -/
def Text.withoutHousekeeping (line : Text) : Text :=
  [';'].intercalate ((line.splitOn ';').filter fun piece => !(trim piece).isHousekeeping)

/-- The commands of a line without its housekeeping are the others. -/
theorem commandTexts_withoutHousekeeping (line : Text) :
    commandTexts line.withoutHousekeeping =
      (commandTexts line).filter (!·.isHousekeeping) := by
  have hpieces : (commandTexts line).filter (!·.isHousekeeping) =
      (((line.splitOn ';').filter fun piece => !(Text.trim piece).isHousekeeping).map
        Text.trim).filter (· ≠ []) := by
    rw [commandTexts, List.filter_filter, List.filter_map, List.filter_map, List.filter_filter]
    exact congrArg _ (List.filter_congr fun piece _ => Bool.and_comm _ _)
  rw [Text.withoutHousekeeping, hpieces]
  by_cases hnil :
      ((line.splitOn ';').filter fun piece => !(Text.trim piece).isHousekeeping) = []
  · rw [hnil]
    rfl
  · rw [commandTexts, List.splitOn_intercalate ';' ?_ hnil]
    intro piece hpiece
    exact Text.not_mem_of_mem_splitOn (List.mem_filter.mp hpiece).1

theorem programParts_withoutHousekeeping (lines : List Text) :
    programParts (lines.map Text.withoutHousekeeping) =
      (programParts lines).filter (!·.isHousekeeping) := by
  rw [programParts, programParts, List.flatMap_map, List.filter_flatMap]
  refine congrArg (lines.flatMap ·) (funext fun line => ?_)
  rw [commandTexts_withoutHousekeeping, List.filter_cons_of_pos rfl, List.filter_map]
  rfl

namespace Session

variable (setup : Setup Float)

/-- A part of a program that is housekeeping does no more than its instruction: it can be read, and
a pen that it asks for exists. -/
theorem advance_of_isHousekeeping {part : ProgramPart} (h : part.isHousekeeping = true)
    (s : Session) :
    s.advance setup part =
      ⟨s.holding ((part.told?.bind Command.pen?).or s.pen.number), part.told?.toList, none⟩ := by
  cases hpart : part.instruction? with
  | none =>
    rw [ProgramPart.isHousekeeping, hpart] at h
    cases h
  | some i =>
    obtain ⟨text, -, hparse⟩ := ProgramPart.exists_of_instruction? hpart
    have hpen (n : Nat) (hn : i = .selectPen n) : n ≤ Pen.highest :=
      Instruction.le_highest_of_parse (hn ▸ hparse)
    rw [ProgramPart.isHousekeeping_eq hpart] at h
    rw [ProgramPart.told?_eq hpart, advance_of_instruction? setup hpart,
      execute_of_isHousekeeping setup h hpen]

/-- The parts of a program that are no housekeeping are drawn, whichever pen is held. -/
theorem isDrawnBy_advance : Step.IsDrawnBy (advance setup) (!·.isHousekeeping) where
  of_drawn n part s hpart := by
    rw [Bool.not_eq_true'] at hpart
    cases hinstruction : part.instruction? with
    | some i =>
      rw [advance_of_instruction? setup hinstruction, advance_of_instruction? setup hinstruction]
      exact execute_holding setup n (ProgramPart.isHousekeeping_eq hinstruction ▸ hpart) s
    | none =>
      obtain ⟨line, fault, hadvance⟩ := advance_of_no_instruction setup hinstruction
      rw [hadvance, hadvance]
      rfl
  of_not_drawn n part s hpart := by
    rw [Bool.not_eq_false'] at hpart
    have htold : part.told?.toList.filter (!·.isHousekeeping) = [] := by
      refine List.filter_eq_nil_iff.mpr fun c hc => ?_
      rw [ProgramPart.isHousekeeping_of_told? (Option.mem_toList.mp hc)]
      exact nofun
    rw [advance_of_isHousekeeping setup hpart, Step.drawing, htold]
    rfl

/-- All housekeeping that a part of a program gives is what the plotter is told by it. -/
theorem told_advance (part : ProgramPart) (s : Session) :
    (s.advance setup part).commands.filter (·.isHousekeeping) = part.told?.toList := by
  cases hpart : part.isHousekeeping with
  | true =>
    rw [advance_of_isHousekeeping setup hpart]
    exact List.filter_eq_self.mpr fun c hc =>
      ProgramPart.isHousekeeping_of_told? (Option.mem_toList.mp hc)
  | false =>
    have hdrawn := (isDrawnBy_advance setup).commands_of_drawn (s := s) (by simpa using hpart)
    rw [ProgramPart.told?_of_not_isHousekeeping hpart, ← hdrawn, List.filter_filter]
    exact List.filter_eq_nil_iff.mpr (by simp)

/-- The pen that is held is the one that the plotter has been told to take last. -/
theorem number_advance (part : ProgramPart) (s : Session) :
    (s.advance setup part).session.pen.number =
      (part.told?.bind Command.pen?).or s.pen.number := by
  cases hpart : part.isHousekeeping with
  | true => rw [advance_of_isHousekeeping setup hpart, holding]
  | false =>
    have hdrawn := (isDrawnBy_advance setup).number_of_drawn (s := s) (by simpa using hpart)
    rw [ProgramPart.told?_of_not_isHousekeeping hpart, hdrawn]
    rfl

/-- All housekeeping that a program gives is what the plotter is told by the parts gone through. -/
theorem told_each_advance (parts : List ProgramPart) (s : Session) :
    (Step.each (advance setup) parts s).commands.filter (·.isHousekeeping) =
      (Step.passed (advance setup) parts s).filterMap ProgramPart.told? := by
  induction parts generalizing s with
  | nil => rfl
  | cons part rest ih =>
    have htold := told_advance setup part s
    rw [Step.each]
    cases hfault : (s.advance setup part).fault with
    | some fault =>
      have hpart : part.isHousekeeping = false := by
        by_contra h
        rw [advance_of_isHousekeeping setup (by simpa using h)] at hfault
        cases hfault
      rw [Step.andThen_of_fault hfault, Step.passed_of_fault hfault, htold,
        ProgramPart.told?_of_not_isHousekeeping hpart]
      rfl
    | none =>
      rw [Step.andThen_of_no_fault hfault, Step.passed_of_no_fault hfault, List.filter_append,
        htold, ih]
      cases h : part.told? <;> simp [h]

/-- The pen that is held is the one that was taken last. -/
theorem number_each_advance (parts : List ProgramPart) (s : Session) :
    (Step.each (advance setup) parts s).session.pen.number =
      ((Step.each (advance setup) parts s).commands.filterMap Command.pen?).getLast?.or
        s.pen.number := by
  refine Step.each_induction (P := fun s t => t.session.pen.number =
    (t.commands.filterMap Command.pen?).getLast?.or s.pen.number) (fun _ => rfl) ?_ ?_ parts s
  · intro part s
    have hpen : (s.advance setup part).commands.filterMap Command.pen? =
        part.told?.toList.filterMap Command.pen? := by
      rw [← told_advance setup part s, List.filterMap_filter]
      refine congrArg (List.filterMap · _) (funext fun c => ?_)
      cases c <;> rfl
    rw [hpen, number_advance]
    cases part.told? with
    | none => rfl
    | some c => cases hc : c.pen? <;> simp [hc]
  · intro s first next hfirst hnext
    cases hfault : first.fault with
    | some fault => rw [Step.andThen_of_fault hfault, hfirst]
    | none =>
      rw [Step.andThen_of_no_fault hfault, hnext, hfirst, List.filterMap_append,
        List.getLast?_append, Option.or_assoc]

/-- **Housekeeping does not affect the drawing.**  A program without its housekeeping has the lines
of the program and all other commands.  It passes the same of them, and it fails with the same
command and the same fault, or neither fails.  What it gives is the same but for the resets and the
changes of pen, and what it remembers is the same but for the pen that is held.  These resets and
changes of pen are those that are asked for by what has been passed, in order.  All of the pens
exist, and the last one is the one that is held. -/
theorem run_withoutHousekeeping (lines : List Text) :
    let parts := programParts lines
    let drawn := programParts (lines.map Text.withoutHousekeeping)
    let run := start.run setup lines
    let drawing := start.run setup (lines.map Text.withoutHousekeeping)
    let passed := Step.passed (advance setup) parts start
    let left := Step.left (advance setup) parts start
    passed ++ left = parts ∧ (run.fault = none ↔ left = []) ∧
      drawn = parts.filter (!·.isHousekeeping) ∧
      Step.passed (advance setup) drawn start = passed.filter (!·.isHousekeeping) ∧
      Step.left (advance setup) drawn start = left.filter (!·.isHousekeeping) ∧
      (Step.left (advance setup) drawn start).head? = left.head? ∧
      drawing.fault = run.fault ∧
      drawing.commands = run.commands.filter (!·.isHousekeeping) ∧
      drawing.session = { run.session with pen.number := none } ∧
      run.commands.filter (·.isHousekeeping) = passed.filterMap ProgramPart.told? ∧
      (∀ n, Command.selectPen n ∈ run.commands → n ≤ Pen.highest) ∧
      run.session.pen.number = (run.commands.filterMap Command.pen?).getLast? := by
  intro parts drawn run drawing passed left
  have hparts : drawn = parts.filter (!·.isHousekeeping) := programParts_withoutHousekeeping lines
  have hstart : start.holding none = start := rfl
  have hdrawn := isDrawnBy_advance setup
  have hrun : run = Step.each (advance setup) parts start := run_eq_each_advance setup lines start
  have hdrawing : drawing = run.drawing none := by
    rw [hrun, ← hdrawn.each_filter, hstart, ← hparts]
    exact run_eq_each_advance setup _ start
  have htold : run.commands.filter (·.isHousekeeping) = passed.filterMap ProgramPart.told? := by
    rw [hrun]
    exact told_each_advance setup parts start
  have hfault : run.fault = none ↔ left = [] := by
    rw [hrun]
    exact Step.fault_each_eq_none_iff (advance setup) parts start
  obtain ⟨hleft, hhead⟩ := hdrawn.left_filter (n := none) parts start
  have hpassed := hdrawn.passed_filter (n := none) parts start
  rw [hstart, ← hparts] at hleft hhead hpassed
  refine ⟨Step.passed_append_left (advance setup) parts start, hfault, hparts, hpassed, hleft,
    hhead, ?_, ?_, ?_, htold, ?_, ?_⟩
  · rw [hdrawing, Step.drawing]
  · rw [hdrawing, Step.drawing]
  · rw [hdrawing, Step.drawing, holding]
  · intro n hn
    have hmem : Command.selectPen n ∈ run.commands.filter (·.isHousekeeping) :=
      List.mem_filter.mpr ⟨hn, rfl⟩
    rw [htold] at hmem
    obtain ⟨part, -, hpart⟩ := List.mem_filterMap.mp hmem
    exact ProgramPart.le_highest_of_told? hpart
  · rw [hrun, number_each_advance]
    exact Option.or_none

end Session

end PenPlotter
