import Mathlib.Data.List.Induction
import PenPlotter.Proofs.Session.Effect
import PenPlotter.Settings

/-!
# What a definition comes to

When a definition ends, the figure depends on what was said since the last start of a definition,
and on the pen, the anchor and the radius that were in force at that start.  This module reads all
of that off the history, without the session:

* `Event.corners` and `Event.centers` are the positions that events come to with the pen down and
  with the pen up;
* `Event.radii` are the radii that they give.

In every run every end of a definition goes by these, which is what `Session.EndsByHistory` says.
Definitions that were ended or given up before, displacements, pens, resets and outlines do not
occur in it.
-/

namespace PenPlotter

/-! ## 1. What events say -/

namespace Event

/-- Whether the pen is down once an event has begun. -/
def penAfter (down : Bool) : Event → Bool
  | .newLine => down
  | .instruction i => i.penAfter down

/-- The positions that an event comes to. -/
def reached (scaling : Scaling Float) : Event → List Position
  | .newLine => []
  | .instruction i => i.reached scaling

/-- The radius that an event gives, if it does and it is in range. -/
def radius? (scaling : Scaling Float) : Event → Option Int
  | .newLine => none
  | .instruction i => i.radius? scaling

/-- Whether the pen is down after events: that is for the last one that raised or lowered it. -/
def penAfterAll (down : Bool) (events : List Event) : Bool :=
  events.foldl penAfter down

/-- The positions that events come to with the pen down. -/
def corners (scaling : Scaling Float) : Bool → List Event → List Position
  | _, [] => []
  | down, e :: rest =>
    (if e.penAfter down then e.reached scaling else []) ++ corners scaling (e.penAfter down) rest

/-- The positions that events come to with the pen up. -/
def centers (scaling : Scaling Float) : Bool → List Event → List Position
  | _, [] => []
  | down, e :: rest =>
    (if e.penAfter down then [] else e.reached scaling) ++ centers scaling (e.penAfter down) rest

/-- The radii that events give. -/
def radii (scaling : Scaling Float) (events : List Event) : List Int :=
  events.filterMap (radius? scaling)

/-- The number of lines that events count. -/
def lines (events : List Event) : Nat :=
  events.count .newLine

/-- The start of a definition. -/
def definitionStart : Event :=
  .instruction (.polygonMode .start)

/-- The end of a definition. -/
def definitionEnd : Event :=
  .instruction (.polygonMode .finish)

theorem getLastD_radii_cons (scaling : Scaling Float) (e : Event) (rest : List Event) (r : Int) :
    (radii scaling (e :: rest)).getLastD r =
      (radii scaling rest).getLastD ((e.radius? scaling).getD r) := by
  unfold radii
  cases h : e.radius? scaling with
  | none => rw [List.filterMap_cons_none h]; rfl
  | some r' => rw [List.filterMap_cons_some h]; exact List.getLastD_cons ..

theorem getLastD_centers_cons (scaling : Scaling Float) (down : Bool) (e : Event)
    (rest : List Event) (p : Position) :
    (centers scaling down (e :: rest)).getLastD p =
      (centers scaling (e.penAfter down) rest).getLastD
        (if e.penAfter down then p else (e.reached scaling).getLastD p) := by
  rw [centers]
  cases e.penAfter down with
  | true => rfl
  | false => simp [List.getLastD_eq_getLast?, List.getLast?_append]

end Event

/-! ## 2. Sessions against histories -/

namespace Session

variable {setup : Setup Float}

theorem down_undergo (e : Event) (s : Session) :
    (undergo setup e s).session.pen.down = e.penAfter s.pen.down := by
  cases e with
  | newLine => rfl
  | instruction i => exact (effect_execute setup i s).down

theorem down_after (events : List Event) (s : Session) :
    (after setup events s).pen.down = Event.penAfterAll s.pen.down events := by
  induction events generalizing s with
  | nil => rfl
  | cons e rest ih => rw [after_cons, ih, down_undergo]; rfl

theorem line_after (events : List Event) (s : Session) :
    (after setup events s).line = s.line + Event.lines events := by
  induction events generalizing s with
  | nil => rfl
  | cons e rest ih =>
    rw [after_cons, ih]
    cases e with
    | newLine =>
      have hcount : Event.lines (.newLine :: rest) = Event.lines rest + 1 := List.count_cons_self
      simp only [undergo, Step.stay, hcount]
      omega
    | instruction i => simp [undergo, (effect_execute setup i s).line, Event.lines]

theorem radius_after (events : List Event) (s : Session) :
    (after setup events s).radius = (Event.radii setup.scaling events).getLastD s.radius := by
  induction events generalizing s with
  | nil => rfl
  | cons e rest ih =>
    have hradius : (undergo setup e s).session.radius =
        (e.radius? setup.scaling).getD s.radius := by
      cases e with
      | newLine => rfl
      | instruction i => exact (effect_execute setup i s).radius_eq
    rw [after_cons, ih, hradius, Event.getLastD_radii_cons]

theorem draft_undergo {e : Event} (hstart : e ≠ .definitionStart) (hend : e ≠ .definitionEnd)
    (s : Session) :
    (undergo setup e s).session.workpiece.draft =
      s.workpiece.draft.map
        (·.hear (e.penAfter s.pen.down) (e.reached setup.scaling) (e.radius? setup.scaling)) := by
  cases e with
  | newLine =>
    cases hdraft : s.workpiece.draft <;>
      simp [undergo, Step.stay, hdraft, Event.reached, Event.radius?]
  | instruction i =>
    refine (effect_execute setup i s).draft ?_ ?_
    · rintro rfl; exact hstart rfl
    · rintro rfl; exact hend rfl

/-- While it is neither ended nor started anew, a definition gathers what the events say. -/
theorem draft_after (events : List Event) (s : Session)
    (hstart : Event.definitionStart ∉ events) (hend : Event.definitionEnd ∉ events) :
    (after setup events s).workpiece.draft =
      s.workpiece.draft.map fun d =>
        { corners := d.corners ++ Event.corners setup.scaling s.pen.down events
          center := (Event.centers setup.scaling s.pen.down events).getLastD d.center
          radius := (Event.radii setup.scaling events).getLastD d.radius } := by
  induction events generalizing s with
  | nil =>
    cases hdraft : s.workpiece.draft <;> simp [hdraft, Event.corners, Event.centers, Event.radii]
  | cons e rest ih =>
    rw [List.mem_cons, not_or] at hstart hend
    rw [after_cons, ih _ hstart.2 hend.2, down_undergo,
      draft_undergo (Ne.symm hstart.1) (Ne.symm hend.1)]
    cases hdraft : s.workpiece.draft with
    | none => rfl
    | some d =>
      simp only [Option.map_some, Draft.hear, Event.getLastD_radii_cons,
        Event.getLastD_centers_cons, Event.corners]
      cases e.penAfter s.pen.down <;> simp

/-- A definition is at hand only behind its start. -/
theorem exists_start_of_draft (past : List Event)
    (h : (after setup past start).workpiece.draft ≠ none) :
    ∃ early block, past = early ++ Event.definitionStart :: block ∧
      Event.definitionStart ∉ block ∧ Event.definitionEnd ∉ block := by
  induction past using List.reverseRecOn with
  | nil => exact absurd rfl h
  | append_singleton past e ih =>
    by_cases hstart : e = .definitionStart
    · exact ⟨past, [], by rw [hstart], List.not_mem_nil, List.not_mem_nil⟩
    · by_cases hend : e = .definitionEnd
      · rw [hend, after_append] at h
        exact absurd (effect_execute setup _ _).draft_finish h
      · have hbefore : (after setup past start).workpiece.draft ≠ none := by
          intro hnone
          rw [after_append, after_cons, after_nil, draft_undergo hstart hend, hnone] at h
          exact h rfl
        obtain ⟨early, block, rfl, hs, he⟩ := ih hbefore
        refine ⟨early, block ++ [e], by simp, ?_, ?_⟩
        · simp [hs, Ne.symm hstart]
        · simp [he, Ne.symm hend]

/-! ## 3. The end of a definition -/

/-- The end of a definition behind a history goes by what was said since the last start: the
corners make the figure, the last centre and the last radius make the circle if there are no
corners, and any other number of corners is a fault. -/
def EndsByHistory (setup : Setup Float) (past : List Event) : Prop :=
  ∃ early block, past = early ++ Event.definitionStart :: block ∧ Event.definitionStart ∉ block ∧
    let down := Event.penAfterAll false early
    let corners := Event.corners setup.scaling down block
    let center := (Event.centers setup.scaling down block).getLastD (after setup early start).anchor
    let radius := (Event.radii setup.scaling block).getLastD
      ((Event.radii setup.scaling early).getLastD 0)
    let step := (after setup past start).execute setup (.polygonMode .finish)
    match corners with
    | [] => step.fault = none ∧ step.session.workpiece.figure = .circle center radius
    | [a, b] => step.fault = none ∧ step.session.workpiece.figure = .polyline a b
    | [a, b, c] => step.fault = none ∧ step.session.workpiece.figure = .triangle a b c
    | [a, b, c, d] => step.fault = none ∧ step.session.workpiece.figure = .square a b c d
    | corners => step.fault = some (.malformedObject (Event.lines past) corners.length)

/-- A definition at hand is what was said since its start. -/
theorem draft_of_history {early block : List Event} (hstart : Event.definitionStart ∉ block)
    (hend : Event.definitionEnd ∉ block) :
    (after setup (early ++ Event.definitionStart :: block) start).workpiece.draft =
      some
        { corners := Event.corners setup.scaling (Event.penAfterAll false early) block
          center := (Event.centers setup.scaling (Event.penAfterAll false early) block).getLastD
            (after setup early start).anchor
          radius := (Event.radii setup.scaling block).getLastD
            ((Event.radii setup.scaling early).getLastD 0) } := by
  have hdown : (after setup early start).pen.down = Event.penAfterAll false early :=
    down_after early start
  have hradius : (after setup early start).radius =
      (Event.radii setup.scaling early).getLastD 0 := radius_after early start
  have hbegun : (undergo setup Event.definitionStart (after setup early start)).session =
      { after setup early start with
        workpiece := (after setup early start).workpiece.start
          (after setup early start).anchor (after setup early start).radius } := rfl
  rw [after_append, after_cons, draft_after block _ hstart hend, hbegun]
  simp only [Workpiece.start, Option.map_some, List.nil_append, hdown, hradius]

/-- **Every end of a definition, in every run, goes by what was said since the last start.** -/
theorem endsByHistory_of_trace (setup : Setup Float) (requests : List Request) :
    ∀ past future, trace setup requests start = past ++ Event.definitionEnd :: future →
      (after setup past start).workpiece.draft ≠ none → EndsByHistory setup past := by
  intro past future _ hopen
  obtain ⟨early, block, rfl, hstart, hend⟩ := exists_start_of_draft past hopen
  refine ⟨early, block, rfl, hstart, ?_⟩
  have hline : (after setup (early ++ Event.definitionStart :: block) start).line =
      Event.lines (early ++ Event.definitionStart :: block) :=
    (line_after _ start).trans (Nat.zero_add _)
  simp only [execute, polygonMode, Workpiece.finish, draft_of_history hstart hend, hline]
  generalize Event.corners setup.scaling (Event.penAfterAll false early) block = corners
  rcases corners with _ | ⟨a, _ | ⟨b, _ | ⟨c, _ | ⟨d, _ | ⟨e, rest⟩⟩⟩⟩⟩ <;>
    simp [Draft.figure?]

/-- A definition that is started twice and then cut short: the second start forgets the corner, the
first point of the failed command is the centre, and the radius is the one from before. -/
theorem endsByHistory_of_failed_line :
    let requests : List Request :=
      [.feed "CI40;PM0;PD;PA4,4;PU;PM0;PR4,4;PA8,8,1e30,0;CI4;".toList, .feed "PM2;".toList]
    let past := (trace (Settings.setup {}) requests start).dropLast
    trace (Settings.setup {}) requests start = past ++ [Event.definitionEnd] ∧
      (after (Settings.setup {}) past start).workpiece.draft = some ⟨[], ⟨2, 2⟩, 10⟩ ∧
      EndsByHistory (Settings.setup {}) past := by
  intro requests past
  have htrace : trace (Settings.setup {}) requests start = past ++ [Event.definitionEnd] := by
    decide +kernel
  have hdraft :
      (after (Settings.setup {}) past start).workpiece.draft = some ⟨[], ⟨2, 2⟩, 10⟩ := by
    decide +kernel
  refine ⟨htrace, hdraft, ?_⟩
  exact endsByHistory_of_trace (Settings.setup {}) requests past [] htrace (by rw [hdraft]; simp)

end Session

end PenPlotter
