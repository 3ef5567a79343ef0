import PenPlotter.Proofs.Session.PenPosition
import PenPlotter.Proofs.Session.Plotting

/-!
# A definition stays out of the plot

A definition at hand and a figure exclude each other (`Workpiece.IsExclusive`): a start forgets the
figure, and an end makes one when the definition is over.  So there is nothing to outline or to fill
during a definition, and since the positions that it hears are not plotted, all that can be put out
until it ends is resets, pens and displacements.  Only displacements move the pen meanwhile.
-/

namespace PenPlotter

/-! ## 1. A definition or a figure -/

/-- Whether there is no figure while a definition is at hand. -/
def Workpiece.IsExclusive (w : Workpiece) : Prop :=
  w.draft ≠ none → w.figure = .none

/-- What neither goes to a position nor draws a circle is a reset, a pen or a displacement. -/
theorem Command.cases_of_isOfFigure {c : Command} (h : c.isOfFigure = false) :
    c = .reset ∨ (∃ n, c = .selectPen n) ∨ (∃ d, c = .relativeMove d) ∨
      ∃ d, c = .relativeDraw d := by
  cases c with
  | reset => exact .inl rfl
  | selectPen n => exact .inr (.inl ⟨n, rfl⟩)
  | relativeMove d => exact .inr (.inr (.inl ⟨d, rfl⟩))
  | relativeDraw d => exact .inr (.inr (.inr ⟨d, rfl⟩))
  | move | draw | circle => cases h

namespace Session

variable {K : Type} [Scalar K] {setup : Setup K}

/-- **An instruction keeps definition and figure apart.** -/
theorem Effect.isExclusive {s t : Session} {i : Instruction K} (h : Effect setup s i t)
    (hs : s.workpiece.IsExclusive) : t.workpiece.IsExclusive := by
  intro hopen
  cases h with
  | points =>
    rw [draft_takePositions, ne_eq, Option.map_eq_none_iff] at hopen
    rw [(frame_takePositions _ _).1]
    exact hs hopen
  | select | displace => exact hs hopen
  | radius =>
    rw [ne_eq, Option.map_eq_none_iff] at hopen
    exact hs hopen
  | start => rfl
  | finish =>
    have hfinish : Effect setup s (.polygonMode .finish) _ := .finish
    exact absurd hfinish.draft_finish hopen
  | fill =>
    have hnone : s.workpiece.figure = .none := hs hopen
    change s.workpiece.figure.filled K = .none
    rw [hnone]
    rfl

/-- Events keep definition and figure apart. -/
theorem isExclusive_after (setup : Setup Float) (events : List Event) {s : Session}
    (hs : s.workpiece.IsExclusive) : (after setup events s).workpiece.IsExclusive := by
  refine Step.persist_induction (P := fun t => t.workpiece.IsExclusive) ?_ events s hs
  intro e t ht
  cases e with
  | newLine => exact ht
  | instruction i => exact (effect_execute setup i t).isExclusive ht

/-- **After every run there is a definition or a figure or neither, but not both.** -/
theorem isExclusive_of_run (setup : Setup Float) (requests : List Request) :
    (Step.persist (respond setup) requests start).session.workpiece.IsExclusive := by
  rw [← persist_trace]
  exact isExclusive_after setup _ fun hopen => absurd rfl hopen

/-! ## 2. What an instruction puts out during a definition -/

/-- A definition at hand takes positions in, and none is plotted. -/
theorem commands_takePositions_of_draft {s : Session} {d : Draft}
    (hdraft : s.workpiece.draft = some d) (positions : List Position) :
    (s.takePositions positions).commands = [] := by
  cases hdown : s.pen.down with
  | true => rw [takePositions_of_draft_down hdraft hdown]; rfl
  | false => rw [takePositions_of_draft_up hdraft hdown]; rfl

/-- During a definition an instruction with points puts out nothing. -/
theorem commands_execute_points_of_draft {s : Session} {d : Draft}
    (hdraft : s.workpiece.draft = some d) {i : Instruction K} {letters : String}
    {points : List (Point K)} (hroute : i.route? = some (letters, points)) :
    (s.execute setup i).commands = [] := by
  rw [execute_of_route? setup hroute, commands_plotPoints]
  exact commands_takePositions_of_draft (s := { s with pen.down := i.penAfter s.pen.down }) hdraft _

theorem execute_edge_of_none (setup : Setup K) {s : Session}
    (hfigure : s.workpiece.figure = .none) : (s.execute setup .edge).commands = [] := by
  simp only [execute, drawOutline, hfigure]
  rfl

theorem execute_fill_of_none (setup : Setup K) {s : Session}
    (hfigure : s.workpiece.figure = .none) : s.execute setup .fill = .fail s (.noObject s.line) :=
  if_pos hfigure

/-- During a definition nothing is put out that goes to a position or draws a circle. -/
theorem isOfFigure_execute_of_draft {s : Session} {d : Draft}
    (hdraft : s.workpiece.draft = some d) (hfigure : s.workpiece.figure = .none)
    (i : Instruction K) {c : Command} (hc : c ∈ (s.execute setup i).commands) :
    c.isOfFigure = false := by
  cases i with
  | reset =>
    rw [List.mem_singleton.mp hc]
    rfl
  | selectPen n =>
    simp only [execute, selectPen, Pen.select?] at hc
    by_cases hn : n ≤ Pen.highest
    · rw [if_pos hn] at hc
      rw [List.mem_singleton.mp hc]
      rfl
    · rw [if_neg hn] at hc
      cases hc
  | penUp points | penDown points | plotAbsolute points =>
    rw [commands_execute_points_of_draft hdraft rfl] at hc
    cases hc
  | plotRelative deltas =>
    obtain ⟨-, -, targets, -, -, hcommands, -⟩ := goesThrough_plotDeltas setup deltas s
    rw [execute, hcommands] at hc
    obtain ⟨delta, -, rfl⟩ := List.mem_map.mp hc
    unfold Pen.strokeBy
    split <;> rfl
  | polygonMode mode => cases mode <;> cases hc
  | circle raw =>
    simp only [execute, takeRadius, Workpiece.setRadius?, hdraft, Option.map_some] at hc
    split at hc <;> cases hc
  | edge =>
    rw [execute_edge_of_none setup hfigure] at hc
    cases hc
  | fill =>
    rw [execute_fill_of_none setup hfigure] at hc
    cases hc
  | ignored => cases hc

/-- During a definition only displacements move the pen. -/
theorem position_execute_of_draft {s : Session} {d : Draft} (hdraft : s.workpiece.draft = some d)
    {i : Instruction K} (hi : ∀ deltas, i ≠ .plotRelative deltas) :
    (s.execute setup i).session.pen.position = s.pen.position := by
  have heffect := effect_execute setup i s
  generalize (s.execute setup i).session = t at heffect
  cases heffect with
  | points =>
    have hnone := commands_takePositions_of_draft
      (s := { s with pen.down := i.penAfter s.pen.down }) hdraft (i.reached setup.scaling)
    rw [position_takePositions, hnone]
    rfl
  | displace deltas => exact absurd rfl (hi deltas)
  | select | radius | start | finish | fill => rfl

/-! ## 3. Runs -/

variable {setup : Setup Float}

/-- A definition goes on until its end. -/
theorem draft_after_ne_none {events : List Event} {s : Session} (hopen : s.workpiece.draft ≠ none)
    (hend : Event.definitionEnd ∉ events) : (after setup events s).workpiece.draft ≠ none := by
  induction events generalizing s with
  | nil => exact hopen
  | cons e rest ih =>
    rw [List.mem_cons, not_or] at hend
    rw [after_cons]
    refine ih ?_ hend.2
    by_cases hstart : e = .definitionStart
    · rw [hstart]
      exact Option.some_ne_none _
    · rw [draft_undergo hstart (Ne.symm hend.1), ne_eq, Option.map_eq_none_iff]
      exact hopen

/-- **Nothing of a definition gets into the plot.**  While one is at hand there is no figure.  From
there to its end, and for the end too, all that is put out is resets, pens and displacements; an
outline puts out nothing, a fill fails and changes nothing, and only displacements move the pen. -/
theorem confined_of_run (setup : Setup Float) (requests : List Request)
    (hopen : (Step.persist (respond setup) requests start).session.workpiece.draft ≠ none) :
    let s := (Step.persist (respond setup) requests start).session
    s.workpiece.figure = .none ∧
      ∀ more past e future, trace setup more s = past ++ e :: future →
        Event.definitionEnd ∉ past →
        let t := after setup past s
        let step := undergo setup e t
        (∀ c ∈ step.commands, c = .reset ∨ (∃ n, c = .selectPen n) ∨
          (∃ d, c = .relativeMove d) ∨ ∃ d, c = .relativeDraw d) ∧
        (e = .instruction .edge → step.commands = []) ∧
        (e = .instruction .fill → step = .fail t (.noObject t.line)) ∧
        ((∀ deltas, e ≠ .instruction (.plotRelative deltas)) →
          step.session.pen.position = t.pen.position) := by
  intro s
  have hfigure : s.workpiece.figure = .none := isExclusive_of_run setup requests hopen
  refine ⟨hfigure, ?_⟩
  intro more past e future _ hend t step
  obtain ⟨d, hdraft⟩ : ∃ d, t.workpiece.draft = some d :=
    Option.ne_none_iff_exists'.mp (draft_after_ne_none hopen hend)
  have hnone : t.workpiece.figure = .none := by
    refine isExclusive_after setup past (isExclusive_of_run setup requests) ?_
    exact hdraft ▸ Option.some_ne_none d
  cases e with
  | newLine =>
    refine ⟨?_, ?_, ?_, fun _ => rfl⟩
    · intro c hc
      cases hc
    · intro hedge
      cases hedge
    · intro hfill
      cases hfill
  | instruction i =>
    refine ⟨?_, ?_, ?_, ?_⟩
    · intro c hc
      exact Command.cases_of_isOfFigure (isOfFigure_execute_of_draft hdraft hnone i hc)
    · intro hedge
      cases hedge
      exact execute_edge_of_none setup hnone
    · intro hfill
      cases hfill
      exact execute_fill_of_none setup hnone
    · intro hi
      exact position_execute_of_draft hdraft fun deltas h => hi deltas (congrArg _ h)

/-- A definition that is started twice, hears a point out of range and is displaced: the fill in it
fails behind all of that. -/
theorem fill_fails_of_definition :
    let setup := Settings.setup {}
    let s := (Step.persist (respond setup)
      [.feed "PA4,4;PM0;PD;PA0,0,400,0;".toList] start).session
    let more : List Request := [.feed "PM0;PA8,8,1e30,0;".toList, .feed "SP2;PR4,4;EP;FP;".toList]
    let past := (trace setup more s).dropLast
    let t := after setup past s
    s.workpiece.draft ≠ none ∧ trace setup more s = past ++ [.instruction .fill] ∧
      Event.definitionEnd ∉ past ∧ t.pen.position = ⟨2, 2⟩ ∧
      t.execute setup .fill = .fail t (.noObject 3) := by
  intro setup s more past t
  have hopen : s.workpiece.draft ≠ none := by decide +kernel
  have htrace : trace setup more s = past ++ [.instruction .fill] := by decide +kernel
  have hend : Event.definitionEnd ∉ past := by decide +kernel
  have hline : t.line = 3 := by decide +kernel
  obtain ⟨-, hconfined⟩ := confined_of_run setup _ hopen
  refine ⟨hopen, htrace, hend, by decide +kernel, ?_⟩
  exact hline ▸ (hconfined more past _ [] htrace hend).2.2.1 rfl

end Session

end PenPlotter
