import PenPlotter.Proofs.Fill.Canonical
import PenPlotter.Proofs.Session.Definition
import PenPlotter.Proofs.Session.Filling

/-!
# A figure lasts until the next definition

Outside a definition nothing but a fill touches the figure, and a fill only puts its corners in
order.  To do that again changes nothing (`Figure.IsLossless.filled_filled`): the corners that the
first fill kept are in order already.

So until the next definition there are only two figures to speak of, the one before the first fill
and the one behind it (`Figure.behind`).  Both are filled with the same strokes.
-/

namespace PenPlotter

open Binary64

/-! ## 1. A figure that has been filled -/

/-- Filling a figure again leaves it as it is. -/
theorem Figure.IsLossless.filled_filled {figure : Figure} (h : figure.IsLossless) :
    (figure.filled Float).filled Float = figure.filled Float := by
  cases figure with
  | none | circle | polyline | triangle => rfl
  | square a b c d =>
    obtain ⟨f, hf, hfilled⟩ := filled_square h
    have hagain : (square (f .top) (f .right) (f .bottom) (f .left)).filled Float =
        (square a b c d).filled Float := by
      simp only [Figure.filled, ofPositions_outermost h hf]
    rw [hfilled, hagain, hfilled]

/-- A figure that has been filled is filled with the same strokes as before. -/
theorem Figure.IsLossless.fillStrokes?_filled {figure : Figure} (h : figure.IsLossless)
    (w : Float) : (figure.filled Float).fillStrokes? w = figure.fillStrokes? w := by
  cases figure with
  | none | circle | polyline | triangle => rfl
  | square a b c d =>
    obtain ⟨f, hf, hfilled⟩ := filled_square h
    rw [hfilled]
    simp only [Figure.fillStrokes?, ofPositions_outermost h hf]

theorem Figure.filled_eq_none_iff {figure : Figure} :
    figure.filled Float = none ↔ figure = none := by
  cases figure with
  | none | circle | polyline | triangle => rfl
  | square a b c d => exact iff_of_false Figure.noConfusion Figure.noConfusion

/-- What is filled without end is a circle in which more than a pen width is always left. -/
theorem Figure.IsLossless.exists_endless_circle {settings : Settings}
    (haccepted : settings.check = Option.none) {figure : Figure} (h : figure.IsLossless)
    (hnone : figure.fillStrokes? settings.setup.penWidth = Option.none) :
    ∃ center radius, figure = .circle center radius ∧
      ∀ n, settings.setup.penWidth < remaining settings.setup.penWidth (ofInt radius) n := by
  cases figure with
  | circle center radius =>
    have hradii : ringRadii? settings.setup.penWidth (ofInt radius) = Option.none :=
      Option.map_eq_none_iff.mp hnone
    exact ⟨center, radius, rfl, Settings.lt_remaining haccepted h.2.1 hradii⟩
  | none | polyline | triangle | square => cases hnone

/-- The outline of the figure is drawn. -/
def Event.edge : Event :=
  .instruction .edge

/-- The figure is filled. -/
def Event.fill : Event :=
  .instruction .fill

/-- What a figure is behind events that start no definition. -/
def Figure.behind (figure : Figure) (past : List Event) : Figure :=
  if Event.fill ∈ past then figure.filled Float else figure

namespace Figure.IsLossless

variable {figure : Figure} (h : figure.IsLossless) (past : List Event)

include h

theorem behind : (figure.behind past).IsLossless := by
  rw [Figure.behind]
  split
  · exact h.filled
  · exact h

theorem filled_behind : (figure.behind past).filled Float = figure.filled Float := by
  rw [Figure.behind]
  split
  · exact h.filled_filled
  · rfl

theorem fillStrokes?_behind (w : Float) :
    (figure.behind past).fillStrokes? w = figure.fillStrokes? w := by
  rw [Figure.behind]
  split
  · exact h.fillStrokes?_filled w
  · rfl

theorem behind_append (more : List Event) :
    figure.behind (past ++ more) = (figure.behind past).behind more := by
  by_cases hmore : Event.fill ∈ more
  · rw [Figure.behind, if_pos (List.mem_append_right past hmore), Figure.behind, if_pos hmore,
      h.filled_behind]
  · simp only [Figure.behind, List.mem_append, hmore, or_false, if_false]

end Figure.IsLossless

theorem Figure.behind_eq_none_iff {figure : Figure} {past : List Event} :
    figure.behind past = none ↔ figure = none := by
  rw [behind]
  split
  · exact filled_eq_none_iff
  · rfl

namespace Session

/-! ## 2. What an instruction does to a figure -/

/-- Outside a definition an instruction that neither starts one nor fills leaves the figure alone,
and is outside a definition behind it. -/
theorem Effect.workpiece {K : Type} [Scalar K] {setup : Setup K} {s t : Session}
    {i : Instruction K} (h : Effect setup s i t) (hdraft : s.workpiece.draft = none)
    (hstart : i ≠ .polygonMode .start) (hfill : i ≠ .fill) : t.workpiece = s.workpiece := by
  obtain ⟨pen, ⟨draft, figure⟩, anchor, r, line⟩ := s
  cases hdraft
  cases h with
  | points => rw [takePositions_of_no_draft rfl]
  | select | displace | radius | finish => rfl
  | start => exact absurd rfl hstart
  | fill => exact absurd rfl hfill

theorem workpiece_undergo (setup : Setup Float) {e : Event} {s : Session}
    (hdraft : s.workpiece.draft = none) (hstart : e ≠ .definitionStart) :
    (undergo setup e s).session.workpiece = ⟨none, s.workpiece.figure.behind [e]⟩ := by
  obtain ⟨pen, ⟨draft, figure⟩, anchor, r, line⟩ := s
  cases hdraft
  by_cases hfill : e = .fill
  · rw [hfill, Figure.behind, if_pos (List.mem_singleton_self _)]
    exact congrArg Session.workpiece (session_execute_fill setup _)
  · rw [Figure.behind, if_neg fun hmem => hfill (List.mem_singleton.mp hmem).symm]
    cases e with
    | newLine => rfl
    | instruction i =>
      exact (effect_execute setup i _).workpiece rfl (fun h => hstart (congrArg _ h))
        fun h => hfill (congrArg _ h)

/-- **A figure lasts through events that start no definition.** -/
theorem workpiece_after (setup : Setup Float) {events : List Event} {s : Session}
    (hdraft : s.workpiece.draft = none) (hlossless : s.workpiece.figure.IsLossless)
    (hstart : Event.definitionStart ∉ events) :
    (after setup events s).workpiece = ⟨none, s.workpiece.figure.behind events⟩ := by
  induction events generalizing s with
  | nil =>
    obtain ⟨pen, ⟨draft, figure⟩, anchor, r, line⟩ := s
    cases hdraft
    rfl
  | cons e rest ih =>
    rw [List.mem_cons, not_or] at hstart
    have hnext := workpiece_undergo setup hdraft (Ne.symm hstart.1)
    rw [after_cons, ih (by rw [hnext]) (by rw [hnext]; exact hlossless.behind _) hstart.2, hnext,
      ← hlossless.behind_append, List.singleton_append]

/-- What a fill does is settled by what the figure was before the first one. -/
theorem execute_fill_behind (setup : Setup Float) {figure : Figure} (h : figure.IsLossless)
    {past : List Event} {t : Session} (hfigure : t.workpiece.figure = figure.behind past) :
    t.execute setup .fill =
      if figure = .none then .fail t (.noObject t.line)
      else
        match figure.fillStrokes? setup.penWidth with
        | none => .fail t (.endlessFill t.line)
        | some strokes => ⟨{ t with workpiece.figure := figure.filled Float }, strokes, none⟩ := by
  rw [execute, fillFigure, hfigure, h.fillStrokes?_behind, h.filled_behind]
  exact if_congr Figure.behind_eq_none_iff rfl rfl

/-! ## 3. Runs -/

/-- What a property says of each time that an event comes up among events, of the events before it,
the session there and the step. -/
def EachTime (setup : Setup Float) (events : List Event) (s : Session) (e : Event)
    (P : List Event → Session → Step → Prop) : Prop :=
  ∀ past future, events = past ++ e :: future →
    P past (after setup past s) (undergo setup e (after setup past s))

/-- **A figure can be outlined and filled any number of times until the next definition.**  All
outlines before the first fill are the same, and all behind it.  All fills are the same: they give
the same strokes, or there is no figure, or it is a circle that no fill comes to the end of, since
more than a pen width is always left.  Neither an outline nor a fill changes anything else. -/
theorem figure_persists_of_run {settings : Settings} (haccepted : settings.check = none)
    (requests more : List Request)
    (hdraft : (Step.persist (respond settings.setup) requests start).session.workpiece.draft = none)
    (hstart : Event.definitionStart ∉ trace settings.setup more
      (Step.persist (respond settings.setup) requests start).session) :
    let setup := settings.setup
    let s := (Step.persist (respond setup) requests start).session
    let events := trace setup more s
    let figure := s.workpiece.figure
    (∀ past future, events = past ++ future →
      (after setup past s).workpiece = ⟨none, figure.behind past⟩) ∧
    EachTime setup events s .edge
      (fun past t step => step = ⟨t, (figure.behind past).outline, none⟩) ∧
    ((figure = .none ∧
        EachTime setup events s .fill fun _ t step => step = .fail t (.noObject t.line)) ∨
      (∃ strokes, figure.fillStrokes? setup.penWidth = some strokes ∧
        EachTime setup events s .fill fun _ t step =>
          step = ⟨{ t with workpiece.figure := figure.filled Float }, strokes, none⟩) ∨
      ∃ center radius, figure = .circle center radius ∧
        (∀ n, setup.penWidth < remaining setup.penWidth (ofInt radius) n) ∧
        EachTime setup events s .fill fun _ t step => step = .fail t (.endlessFill t.line)) := by
  intro setup s events figure
  have hlossless : figure.IsLossless := (isLossless_of_run setup requests).figure
  have hworkpiece : ∀ past future, events = past ++ future →
      (after setup past s).workpiece = ⟨none, figure.behind past⟩ := by
    intro past future hevents
    have hpast : Event.definitionStart ∉ past := by
      intro hmem
      refine hstart ?_
      change Event.definitionStart ∈ events
      rw [hevents]
      exact List.mem_append_left future hmem
    exact workpiece_after setup hdraft hlossless hpast
  have hfigure : ∀ past e future, events = past ++ e :: future →
      (after setup past s).workpiece.figure = figure.behind past := by
    intro past e future hevents
    rw [hworkpiece past _ hevents]
  have hfill := fun past future (hevents : events = past ++ Event.fill :: future) =>
    execute_fill_behind setup hlossless (hfigure past _ future hevents)
  refine ⟨hworkpiece, ?_, ?_⟩
  · intro past future hevents
    rw [← hfigure past _ future hevents]
    rfl
  · by_cases hnone : figure = .none
    · refine .inl ⟨hnone, ?_⟩
      intro past future hevents
      exact (hfill past future hevents).trans (if_pos hnone)
    · cases hstrokes : figure.fillStrokes? setup.penWidth with
      | some strokes =>
        refine .inr (.inl ⟨strokes, rfl, ?_⟩)
        intro past future hevents
        refine (hfill past future hevents).trans ?_
        rw [if_neg hnone, hstrokes]
      | none =>
        obtain ⟨center, radius, hcircle, hleft⟩ :=
          hlossless.exists_endless_circle haccepted hstrokes
        refine .inr (.inr ⟨center, radius, hcircle, hleft, ?_⟩)
        intro past future hevents
        refine (hfill past future hevents).trans ?_
        rw [if_neg hnone, hstrokes]

/-- The trapezoid that loses a corner is outlined and filled twice; in between, an instruction
fails, a definition ends that was not started, and a circle is drawn. -/
theorem trapezoid_persists :
    let setup := Settings.setup {}
    let s := (Step.persist (respond setup)
      [.feed "PM0;PD;PA0,0,400,0,320,200,80,200;PM2;".toList] start).session
    let events := trace setup
      [.feed "EP;FP;PU;PA8,8,1e30,0;".toList, .feed "PM2;CI4;FP;EP;".toList] s
    let before : Figure := .square ⟨0, 0⟩ ⟨100, 0⟩ ⟨80, 50⟩ ⟨20, 50⟩
    let behind : Figure := .square ⟨80, 50⟩ ⟨100, 0⟩ ⟨0, 0⟩ ⟨0, 0⟩
    s.workpiece.figure = before ∧ events.count .edge = 2 ∧ events.count .fill = 2 ∧
      EachTime setup events s .edge (fun past t step =>
        step = ⟨t, (if Event.fill ∈ past then behind else before).outline, none⟩) ∧
      ∃ strokes, EachTime setup events s .fill fun _ t step =>
        step = ⟨{ t with workpiece.figure := behind }, strokes, none⟩ := by
  have haccepted : Settings.check {} = none := by decide +kernel
  have hdraft : (Step.persist (respond (Settings.setup {}))
      [.feed "PM0;PD;PA0,0,400,0,320,200,80,200;PM2;".toList] start).session.workpiece.draft =
        none := by
    decide +kernel
  have hfigure : (Step.persist (respond (Settings.setup {}))
      [.feed "PM0;PD;PA0,0,400,0,320,200,80,200;PM2;".toList] start).session.workpiece.figure =
        .square ⟨0, 0⟩ ⟨100, 0⟩ ⟨80, 50⟩ ⟨20, 50⟩ := by
    decide +kernel
  have hbehind : (Figure.square ⟨0, 0⟩ ⟨100, 0⟩ ⟨80, 50⟩ ⟨20, 50⟩).filled Float =
      .square ⟨80, 50⟩ ⟨100, 0⟩ ⟨0, 0⟩ ⟨0, 0⟩ := by
    decide +kernel
  obtain ⟨-, hedges, hfills⟩ := figure_persists_of_run haccepted _
    [.feed "EP;FP;PU;PA8,8,1e30,0;".toList, .feed "PM2;CI4;FP;EP;".toList] hdraft
    (by decide +kernel)
  simp only [hfigure, Figure.behind, hbehind] at hedges hfills
  refine ⟨hfigure, by decide +kernel, by decide +kernel, hedges, ?_⟩
  rcases hfills with ⟨hnone, -⟩ | ⟨strokes, -, hfill⟩ | ⟨center, radius, hcircle, -⟩
  · cases hnone
  · exact ⟨strokes, hfill⟩
  · cases hcircle

end Session

end PenPlotter
