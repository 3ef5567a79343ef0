import PenPlotter.Session

/-!
# Histories of a session

A session is used by requests: a line is fed to it, or an instruction is carried out.  A request
may fail, and the session that it leaves behind can be used further, so that a run is any list of
requests (`Step.persist`).

What happens during a run is a list of events (`Session.trace`): a line is counted, or an
instruction is carried out, with success or without.  A command that cannot be read is no event, and
neither is one behind a fault in the same line.  The events account for all that a run does:
`Session.persist_trace`.  What every event keeps therefore holds after every run, which is
`Session.run_induction`.

A program can also be gone through part by part, up to the first fault: a line begins, or a command
is carried out (`Session.run_eq_each_advance`).
-/

namespace PenPlotter

/-- A use that is made of a session. -/
inductive Request where
  | feed (line : Text)
  | execute (i : Instruction Float)
deriving DecidableEq

/-- Something that happens to a session. -/
inductive Event where
  | newLine
  | instruction (i : Instruction Float)
deriving DecidableEq

/-- A part of a program. -/
inductive ProgramPart where
  | newLine
  | command (text : Text)
deriving DecidableEq, Repr

/-! ## 1. Steps in a row -/

namespace Step

variable {α : Type}

/-- A step for each member of a list, one after the other whatever faults there are. -/
def persist (step : α → Session → Step) : List α → Session → Step
  | [], s => stay s
  | a :: rest, s =>
    let first := step a s
    let second := persist step rest first.session
    ⟨second.session, first.commands ++ second.commands, none⟩

@[simp] theorem persist_nil (step : α → Session → Step) (s : Session) :
    persist step [] s = stay s := rfl

@[simp] theorem session_persist_cons (step : α → Session → Step) (a : α) (rest : List α)
    (s : Session) :
    (persist step (a :: rest) s).session = (persist step rest (step a s).session).session := rfl

@[simp] theorem commands_persist_cons (step : α → Session → Step) (a : α) (rest : List α)
    (s : Session) :
    (persist step (a :: rest) s).commands =
      (step a s).commands ++ (persist step rest (step a s).session).commands := rfl

@[simp] theorem fault_persist (step : α → Session → Step) (l : List α) (s : Session) :
    (persist step l s).fault = none := by
  cases l with
  | nil => rfl
  | cons a rest => rfl

@[simp] theorem session_persist_append (step : α → Session → Step) (l m : List α) (s : Session) :
    (persist step (l ++ m) s).session =
      (persist step m (persist step l s).session).session := by
  induction l generalizing s with
  | nil => rfl
  | cons a rest ih => exact ih (step a s).session

@[simp] theorem commands_persist_append (step : α → Session → Step) (l m : List α)
    (s : Session) :
    (persist step (l ++ m) s).commands =
      (persist step l s).commands ++ (persist step m (persist step l s).session).commands := by
  induction l generalizing s with
  | nil => rfl
  | cons a rest ih =>
    simp only [List.cons_append, commands_persist_cons, session_persist_cons, ih,
      List.append_assoc]

/-- What the steps keep holds after any number of them. -/
theorem persist_induction {step : α → Session → Step} {P : Session → Prop}
    (hstep : ∀ a s, P s → P (step a s).session) (l : List α) (s : Session) (hs : P s) :
    P (persist step l s).session := by
  induction l generalizing s with
  | nil => exact hs
  | cons a rest ih => exact ih _ (hstep a s hs)

theorem andThen_of_fault {first : Step} {fault : Fault} (h : first.fault = some fault)
    (next : Session → Step) : first.andThen next = first := by
  rw [andThen, h]

theorem andThen_of_no_fault {first : Step} (h : first.fault = none) (next : Session → Step) :
    first.andThen next =
      ⟨(next first.session).session, first.commands ++ (next first.session).commands,
        (next first.session).fault⟩ := by
  rw [andThen, h]

/-- Two steps are without fault if both are. -/
theorem fault_andThen_eq_none_iff {first : Step} {next : Session → Step} :
    (first.andThen next).fault = none ↔
      first.fault = none ∧ (next first.session).fault = none := by
  cases h : first.fault with
  | none => simp only [andThen_of_no_fault h, true_and]
  | some fault => simp only [andThen_of_fault h, h, reduceCtorEq, false_and]

theorem andThen_assoc (first : Step) (next last : Session → Step) :
    (first.andThen next).andThen last = first.andThen fun s => (next s).andThen last := by
  cases h : first.fault with
  | some fault => rw [andThen_of_fault h, andThen_of_fault h, andThen_of_fault h]
  | none =>
    rw [andThen_of_no_fault h, andThen_of_no_fault h]
    cases hnext : (next first.session).fault with
    | some fault => rw [andThen_of_fault hnext, andThen_of_fault rfl, hnext]
    | none => rw [andThen_of_no_fault hnext, andThen_of_no_fault rfl, List.append_assoc]

/-- The steps of two lists in a row are those of the first list and then those of the second. -/
theorem each_append (step : α → Session → Step) (l m : List α) (s : Session) :
    each step (l ++ m) s = (each step l s).andThen (each step m) := by
  induction l generalizing s with
  | nil => rfl
  | cons a rest ih =>
    rw [List.cons_append, each, each, andThen_assoc]
    exact congrArg (step a s).andThen (funext ih)

theorem each_map {β : Type} (step : β → Session → Step) (f : α → β) (l : List α) (s : Session) :
    each step (l.map f) s = each (fun a => step (f a)) l s := by
  induction l generalizing s with
  | nil => rfl
  | cons a rest ih => exact congrArg (step (f a) s).andThen (funext ih)

/-- A list of steps that has a fault goes without one up to the member with which it comes. -/
theorem exists_of_fault_each {step : α → Session → Step} {l : List α} {s : Session}
    {fault : Fault} (h : (each step l s).fault = some fault) :
    ∃ done a rest, l = done ++ a :: rest ∧ (each step done s).fault = none ∧
      (step a (each step done s).session).fault = some fault ∧
      each step l s = (each step done s).andThen (step a) := by
  induction l generalizing s with
  | nil => cases h
  | cons a rest ih =>
    cases hfirst : (step a s).fault with
    | some first =>
      rw [each, andThen_of_fault hfirst] at h ⊢
      exact ⟨[], a, rest, rfl, rfl, h, rfl⟩
    | none =>
      have hrest : (each step rest (step a s).session).fault = some fault := by
        rw [each, andThen_of_no_fault hfirst] at h
        exact h
      obtain ⟨done, b, more, rfl, hdone, hb, heq⟩ := ih hrest
      refine ⟨a :: done, b, more, rfl, ?_, ?_, ?_⟩
      · exact fault_andThen_eq_none_iff.mpr ⟨hfirst, hdone⟩
      · rw [each, andThen_of_no_fault hfirst]
        exact hb
      · rw [each, each, andThen_assoc, andThen_of_no_fault hfirst, andThen_of_no_fault hfirst, heq]

/-- What relates a session to each step from it for a member of a list, and goes through `andThen`,
relates it to the steps of the list up to the first fault. -/
theorem each_induction_of_mem {step : α → Session → Step} {P : Session → Step → Prop} {l : List α}
    (hstay : ∀ s, P s (stay s)) (hstep : ∀ a ∈ l, ∀ s, P s (step a s))
    (hthen : ∀ s first next, P s first → P first.session (next first.session) →
      P s (first.andThen next))
    (s : Session) : P s (each step l s) := by
  induction l generalizing s with
  | nil => exact hstay s
  | cons a rest ih =>
    rw [List.forall_mem_cons] at hstep
    exact hthen s _ _ (hstep.1 s) (ih hstep.2 _)

/-- What relates a session to each step from it, and goes through `andThen`, relates it to the steps
of a list up to the first fault. -/
theorem each_induction {step : α → Session → Step} {P : Session → Step → Prop}
    (hstay : ∀ s, P s (stay s)) (hstep : ∀ a s, P s (step a s))
    (hthen : ∀ s first next, P s first → P first.session (next first.session) →
      P s (first.andThen next))
    (l : List α) (s : Session) : P s (each step l s) :=
  each_induction_of_mem hstay (fun a _ => hstep a) hthen s

/-- What the steps keep holds after those of a list up to the first fault. -/
theorem session_each_induction {step : α → Session → Step} {P : Session → Prop}
    (hstep : ∀ a s, P s → P (step a s).session) (l : List α) (s : Session) (hs : P s) :
    P (each step l s).session := by
  refine each_induction (P := fun s t => P s → P t.session) (fun _ hs => hs) hstep ?_ l s hs
  intro s first next hfirst hnext hs
  rw [andThen]
  split
  · exact hfirst hs
  · exact hnext (hfirst hs)

/-- Where a list of steps stops: the session and the member with which the first fault comes. -/
def stop? (step : α → Session → Step) : List α → Session → Option (Session × α)
  | [], _ => none
  | a :: rest, s =>
    match (step a s).fault with
    | some _ => some (s, a)
    | none => stop? step rest (step a s).session

/-- The fault of a list of steps is that of the step with which it stops. -/
theorem fault_each (step : α → Session → Step) (l : List α) (s : Session) :
    (each step l s).fault = (stop? step l s).bind fun stop => (step stop.2 stop.1).fault := by
  induction l generalizing s with
  | nil => rfl
  | cons a rest ih =>
    cases hfault : (step a s).fault with
    | some fault => simp [each, andThen, stop?, hfault]
    | none => simp [each, andThen, stop?, hfault, ih]

/-- What the steps keep holds where a list of them stops. -/
theorem stop?_induction {step : α → Session → Step} {P : Session → Prop}
    (hstep : ∀ a s, P s → P (step a s).session) {l : List α} {s t : Session} {a : α} (hs : P s)
    (h : stop? step l s = some (t, a)) : P t := by
  induction l generalizing s with
  | nil => cases h
  | cons b rest ih =>
    rw [stop?] at h
    split at h
    · cases h
      exact hs
    · exact ih (hstep b s hs) h

end Step

/-! ## 2. Requests and events -/

namespace Session

variable (setup : Setup Float)

/-- The step that a request makes. -/
def respond : Request → Session → Step
  | .feed line, s => s.feed setup line
  | .execute i, s => s.execute setup i

/-- The step that an event makes. -/
def undergo : Event → Session → Step
  | .newLine, s => .stay { s with line := s.line + 1 }
  | .instruction i, s => s.execute setup i

/-- The instructions that the commands of a line lead to. -/
def performed : List Text → Session → List Event
  | [], _ => []
  | text :: rest, s =>
    match Instruction.read s.line text with
    | .error _ => []
    | .ok i =>
      .instruction i ::
        match (s.execute setup i).fault with
        | some _ => []
        | none => performed rest (s.execute setup i).session

/-- The events that a request consists of. -/
def events : Request → Session → List Event
  | .feed line, s => .newLine :: performed setup (commandTexts line) { s with line := s.line + 1 }
  | .execute i, _ => [.instruction i]

/-- The events of a run. -/
def trace : List Request → Session → List Event
  | [], _ => []
  | r :: rest, s => events setup r s ++ trace rest (respond setup r s).session

/-! ## 3. The events account for the run -/

theorem persist_performed (texts : List Text) (s : Session) :
    (Step.persist (undergo setup) (performed setup texts s) s).session =
        (Step.each (perform setup) texts s).session ∧
      (Step.persist (undergo setup) (performed setup texts s) s).commands =
        (Step.each (perform setup) texts s).commands := by
  induction texts generalizing s with
  | nil => exact ⟨rfl, rfl⟩
  | cons text rest ih =>
    cases hread : Instruction.read s.line text with
    | error fault => simp [performed, hread, Step.each, perform, Step.andThen, Step.fail, Step.stay]
    | ok i =>
      cases hfault : (s.execute setup i).fault with
      | some fault =>
        simp [performed, hread, hfault, Step.each, perform, Step.andThen, undergo, Step.stay]
      | none =>
        obtain ⟨hsession, hcommands⟩ := ih (s.execute setup i).session
        simp only [performed, hread, hfault, Step.each, perform, Step.andThen,
          Step.session_persist_cons, Step.commands_persist_cons, undergo]
        exact ⟨hsession, by rw [hcommands]⟩

theorem persist_events (r : Request) (s : Session) :
    (Step.persist (undergo setup) (events setup r s) s).session = (respond setup r s).session ∧
      (Step.persist (undergo setup) (events setup r s) s).commands =
        (respond setup r s).commands := by
  cases r with
  | execute i => exact ⟨rfl, List.append_nil _⟩
  | feed line => exact persist_performed setup (commandTexts line) { s with line := s.line + 1 }

/-- **The events of a run lead to the same session and the same commands as the requests.** -/
theorem persist_trace (requests : List Request) (s : Session) :
    Step.persist (undergo setup) (trace setup requests s) s =
      Step.persist (respond setup) requests s := by
  suffices h : (Step.persist (undergo setup) (trace setup requests s) s).session =
        (Step.persist (respond setup) requests s).session ∧
      (Step.persist (undergo setup) (trace setup requests s) s).commands =
        (Step.persist (respond setup) requests s).commands by
    have hfault := (Step.fault_persist (undergo setup) (trace setup requests s) s).trans
      (Step.fault_persist (respond setup) requests s).symm
    cases hl : Step.persist (undergo setup) (trace setup requests s) s
    cases hr : Step.persist (respond setup) requests s
    simp_all only
  induction requests generalizing s with
  | nil => exact ⟨rfl, rfl⟩
  | cons r rest ih =>
    obtain ⟨hsession, hcommands⟩ := persist_events setup r s
    obtain ⟨hrest, hmore⟩ := ih (respond setup r s).session
    simp only [trace, Step.session_persist_append, Step.commands_persist_append,
      Step.session_persist_cons, Step.commands_persist_cons, hsession, hcommands]
    exact ⟨hrest, by rw [hmore]⟩

/-- The session after events. -/
def after (events : List Event) (s : Session) : Session :=
  (Step.persist (undergo setup) events s).session

@[simp] theorem after_nil (s : Session) : after setup [] s = s := rfl

@[simp] theorem after_cons (e : Event) (rest : List Event) (s : Session) :
    after setup (e :: rest) s = after setup rest (undergo setup e s).session := rfl

@[simp] theorem after_append (events more : List Event) (s : Session) :
    after setup (events ++ more) s = after setup more (after setup events s) :=
  Step.session_persist_append _ events more s

/-- The session and the command at which the feeding of lines stops. -/
def stop? (lines : List Text) (s : Session) : Option (Session × Text) :=
  (Step.stop? (feed setup) lines s).bind fun (t, line) =>
    Step.stop? (perform setup) (commandTexts line) { t with line := t.line + 1 }

/-- The fault of feeding lines is that of the command at which it stops. -/
theorem fault_run (lines : List Text) (s : Session) :
    (s.run setup lines).fault =
      (s.stop? setup lines).bind fun (t, text) => (t.perform setup text).fault := by
  rw [run, Step.fault_each, stop?, Option.bind_assoc]
  refine congrArg (Option.bind _) (funext fun (t, line) => ?_)
  exact Step.fault_each (perform setup) (commandTexts line) { t with line := t.line + 1 }

/-- What holds at the start and is kept by every instruction and by the counting of lines holds
after every run. -/
theorem run_induction {P : Session → Prop} (hstart : P start)
    (hline : ∀ s n, P s → P { s with line := n })
    (hexecute : ∀ i s, P s → P (s.execute setup i).session) (requests : List Request) :
    P (Step.persist (respond setup) requests start).session := by
  rw [← persist_trace]
  refine Step.persist_induction ?_ _ _ hstart
  intro e s hs
  cases e with
  | newLine => exact hline s _ hs
  | instruction i => exact hexecute i s hs

theorem perform_induction {P : Session → Prop}
    (hexecute : ∀ i s, P s → P (s.execute setup i).session) (text : Text) (s : Session)
    (hs : P s) : P (s.perform setup text).session := by
  rw [perform]
  split
  · exact hs
  · exact hexecute _ s hs

/-- What every instruction and the counting of lines keep holds where the feeding of lines stops. -/
theorem stop?_induction {P : Session → Prop} (hline : ∀ s n, P s → P { s with line := n })
    (hexecute : ∀ i s, P s → P (s.execute setup i).session) {lines : List Text}
    {s t : Session} {text : Text} (hs : P s) (h : s.stop? setup lines = some (t, text)) : P t := by
  have hperform := perform_induction setup hexecute
  have hfeed : ∀ line u, P u → P (u.feed setup line).session := by
    intro line u hu
    exact Step.session_each_induction hperform _ _ (hline u _ hu)
  obtain ⟨⟨u, line⟩, hu, ht⟩ := Option.bind_eq_some_iff.mp h
  exact Step.stop?_induction hperform (hline u _ (Step.stop?_induction hfeed hs hu)) ht

end Session

/-! ## 4. Programs part by part -/

/-- The instruction that a part of a program stands for, if it stands for one. -/
def ProgramPart.instruction? : ProgramPart → Option (Instruction Float)
  | newLine => none
  | command text => (Instruction.parse text).toOption

theorem ProgramPart.exists_of_instruction? {part : ProgramPart} {i : Instruction Float}
    (h : part.instruction? = some i) :
    ∃ text, part = command text ∧ Instruction.parse text = .ok i := by
  cases part with
  | newLine => cases h
  | command text =>
    rw [instruction?] at h
    cases hparse : Instruction.parse text with
    | error reason =>
      rw [hparse] at h
      cases h
    | ok j =>
      rw [hparse] at h
      cases h
      exact ⟨text, rfl, hparse⟩

/-- The parts of a program, in order. -/
def programParts (lines : List Text) : List ProgramPart :=
  lines.flatMap fun line => .newLine :: (commandTexts line).map .command

theorem command_mem_programParts {lines : List Text} {text : Text} :
    .command text ∈ programParts lines ↔ text ∈ lines.flatMap commandTexts := by
  simp [programParts]

namespace Session

variable (setup : Setup Float)

/-- The step that a part of a program makes. -/
def advance : ProgramPart → Session → Step
  | .newLine, s => .stay { s with line := s.line + 1 }
  | .command text, s => s.perform setup text

/-- A part that stands for an instruction carries it out. -/
theorem advance_of_instruction? {part : ProgramPart} {i : Instruction Float}
    (h : part.instruction? = some i) (s : Session) : s.advance setup part = s.execute setup i := by
  obtain ⟨text, rfl, hparse⟩ := ProgramPart.exists_of_instruction? h
  rw [advance, perform, Instruction.read, hparse]
  rfl

/-- A part that stands for no instruction begins a line, or is a command that cannot be read.  It
looks at nothing but the line number. -/
theorem advance_of_no_instruction {part : ProgramPart} (h : part.instruction? = none) :
    ∃ (line : Nat → Nat) (fault : Nat → Option Fault), ∀ s : Session,
      s.advance setup part = ⟨{ s with line := line s.line }, [], fault s.line⟩ := by
  cases part with
  | newLine => exact ⟨(· + 1), fun _ => none, fun _ => rfl⟩
  | command text =>
    cases hparse : Instruction.parse text with
    | error reason =>
      refine ⟨id, fun line => some (.unreadable line text reason), fun s => ?_⟩
      rw [advance, perform, Instruction.read, hparse]
      rfl
    | ok i =>
      rw [ProgramPart.instruction?, hparse] at h
      cases h

/-- **Feeding lines is going through the parts of the program.** -/
theorem run_eq_each_advance (lines : List Text) (s : Session) :
    s.run setup lines = Step.each (advance setup) (programParts lines) s := by
  induction lines generalizing s with
  | nil => rfl
  | cons line rest ih =>
    have hfeed : s.feed setup line =
        Step.each (advance setup) (.newLine :: (commandTexts line).map .command) s := by
      rw [Step.each, advance]
      exact (Step.each_map (advance setup) .command (commandTexts line) _).symm
    rw [run, Step.each, programParts, List.flatMap_cons, Step.each_append, hfeed]
    exact congrArg (Step.andThen _) (funext ih)

end Session

end PenPlotter
