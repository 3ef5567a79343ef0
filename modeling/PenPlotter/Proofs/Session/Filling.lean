import PenPlotter.Conversion
import PenPlotter.Proofs.Fill.Rings
import PenPlotter.Proofs.Session.Lossless

/-!
# What a fill comes to

Two questions about the instruction that fills the figure.

A circle: does its fill come to an end?  It does unless the radius is stuck at the width of the pen
(`IsStuck`), and no other instruction is without end.

A square: does it keep its corners?  It does if each corner is outermost on as many sides as there
are corners equal to it (`Side.IsOutermost`), and a corner that is outermost on no side is lost.
-/

namespace PenPlotter

open Binary64

/-! ## 1. Accepted pen widths -/

/-- The width of the pen is a positive number of units in accepted settings. -/
theorem Settings.exists_units_penWidth {settings : Settings} (haccepted : settings.check = none) :
    ∃ W : Nat, 0 < W ∧ units? settings.setup.penWidth = some (W : Int) := by
  obtain ⟨hfinite, -, -, hpos, -⟩ := check_eq_none_iff.mp haccepted
  exact exists_units_of_not_le_zero (hfinite .penWidth) hpos

/-- A radius is a number of units. -/
theorem exists_units_ofInt {radius : Int} (hradius : IsCoordinate radius) :
    ∃ a : Int, units? (ofInt radius) = some a :=
  ⟨_, units?_ofInt hradius.natAbs_le⟩

/-! ## 2. Circles -/

/-- How the circles inside a circle go on, for a pen of positive width. -/
theorem rings_spec {w r : Float} {W : Nat} {a : Int} (hw : units? w = some (W : Int))
    (hW : 0 < W) (hr : units? r = some a) :
    (IsStuck w r ∧ (∀ n, w < remaining w r n) ∧ ringRadii? w r = none) ∨
      (¬ IsStuck w r ∧
        (∀ n, (∀ m ≤ n, w < remaining w r m) → remaining w r (n + 1) < remaining w r n) ∧
        ∃ n, (∀ m < n, w < remaining w r m) ∧ ¬ w < remaining w r n ∧
          ringRadii? w r = some ((List.range n).map fun m => remaining w r (m + 1))) := by
  by_cases hlt : w < r
  · have haW : (W : Int) < a := (lt_iff_of_units hw hr).mp hlt
    obtain ⟨X, rfl⟩ := Int.eq_ofNat_of_zero_le (a := a) (by omega)
    by_cases hstuck : IsStuck w r
    · exact .inl ⟨hstuck, hstuck.lt_remaining hw hW hr, ringRadii?_of_isStuck hstuck hw hW hr⟩
    · exact .inr ⟨hstuck, fun n => remaining_lt_of_not_isStuck hstuck hw hW hr,
        ringRadii?_of_not_isStuck hstuck hw hW hr⟩
  · refine .inr ⟨fun hstuck => hlt hstuck.1, fun n hleft => ?_, 0, ?_, hlt, ?_⟩
    · exact absurd (hleft 0 (Nat.zero_le n)) hlt
    · intro m hm
      exact absurd hm (Nat.not_lt_zero m)
    · exact ringRadii?_of_not_lt hlt

theorem ringRadii?_eq_none_iff {w r : Float} {W : Nat} {a : Int} (hw : units? w = some (W : Int))
    (hW : 0 < W) (hr : units? r = some a) : ringRadii? w r = none ↔ IsStuck w r := by
  rcases rings_spec hw hW hr with ⟨hstuck, -, hnone⟩ | ⟨hfree, -, n, -, -, hsome⟩
  · exact iff_of_true hnone hstuck
  · have hrings : ringRadii? w r ≠ none := by
      rw [hsome]
      exact Option.some_ne_none _
    exact iff_of_false hrings hfree

/-- Where there are no radii to give, more than a pen width is always left. -/
theorem lt_remaining_of_ringRadii? {w r : Float} {W : Nat} {a : Int}
    (hw : units? w = some (W : Int)) (hW : 0 < W) (hr : units? r = some a)
    (hnone : ringRadii? w r = none) (n : Nat) : w < remaining w r n := by
  rcases rings_spec hw hW hr with ⟨-, hleft, -⟩ | ⟨hfree, -⟩
  · exact hleft n
  · exact absurd ((ringRadii?_eq_none_iff hw hW hr).mp hnone) hfree

/-- So it is under accepted settings for a radius that a figure can have. -/
theorem Settings.lt_remaining {settings : Settings} (haccepted : settings.check = none)
    {radius : Int} (hradius : IsCoordinate radius)
    (hnone : ringRadii? settings.setup.penWidth (ofInt radius) = none) (n : Nat) :
    settings.setup.penWidth < remaining settings.setup.penWidth (ofInt radius) n := by
  obtain ⟨W, hW, hw⟩ := settings.exists_units_penWidth haccepted
  obtain ⟨a, hr⟩ := exists_units_ofInt hradius
  exact lt_remaining_of_ringRadii? hw hW hr hnone n

namespace Session

theorem execute_fill_of_circle {setup : Setup Float} {s : Session} {center : Position}
    {radius : Int} (hfigure : s.workpiece.figure = .circle center radius) :
    s.execute setup .fill =
      match ringRadii? setup.penWidth (ofInt radius) with
      | none => .fail s (.endlessFill s.line)
      | some radii => ⟨s, radii.map fun r => .fullCircle center (toCoordinate r), none⟩ := by
  obtain ⟨pen, ⟨draft, figure⟩, anchor, r, line⟩ := s
  cases hfigure
  have hradius : (Scalar.ofInt radius : Float) = ofInt radius := rfl
  simp only [execute, fillFigure, reduceCtorEq, if_false, Figure.fillStrokes?, circleStrokes?,
    Figure.filled, hradius]
  cases ringRadii? setup.penWidth (ofInt radius) with
  | none => rfl
  | some radii => rfl

/-- Going through points or along displacements is never without end. -/
theorem fault_plotPoints_ne {setup : Setup Float} (command : String) (points : List (Point Float))
    (s : Session) (line : Nat) :
    (s.plotPoints setup command points).fault ≠ some (.endlessFill line) := by
  intro h
  rw [plotPoints_eq, Step.andThen, fault_takePositions] at h
  simp only at h
  split at h
  · cases h
  · cases h

theorem fault_plotDeltas_ne {setup : Setup Float} (deltas : List (Point Float)) (s : Session)
    (line : Nat) : (s.plotDeltas setup deltas).fault ≠ some (.endlessFill line) := by
  refine Step.each_induction (P := fun _ t => t.fault ≠ some (.endlessFill line)) ?_ ?_ ?_ deltas s
  · intro s h
    cases h
  · intro d s h
    rw [plotDelta] at h
    split at h
    · cases h
    · cases h
  · intro s first next hfirst hnext
    rw [Step.andThen]
    split
    · exact hfirst
    · exact hnext

/-- Only a fill is without end. -/
theorem eq_fill_of_endlessFill {setup : Setup Float} {s : Session} {i : Instruction Float}
    {line : Nat} (h : (s.execute setup i).fault = some (.endlessFill line)) : i = .fill := by
  cases i with
  | fill => rfl
  | penUp points | penDown points | plotAbsolute points => exact absurd h (fault_plotPoints_ne _ _ _ _)
  | plotRelative deltas => exact absurd h (fault_plotDeltas_ne _ _ _)
  | reset | edge | ignored => cases h
  | selectPen n =>
    simp only [execute, selectPen] at h
    split at h <;> cases h
  | polygonMode mode =>
    cases mode with
    | start | other => cases h
    | finish =>
      simp only [execute, polygonMode, Workpiece.finish] at h
      split at h
      · cases h
      · split at h <;> cases h
  | circle raw =>
    simp only [execute, takeRadius] at h
    split at h
    · cases h
    · split at h <;> cases h

/-- Only a fill of a circle is without end. -/
theorem endlessFill_execute_iff {setup : Setup Float} {s : Session} {i : Instruction Float}
    {line : Nat} :
    (s.execute setup i).fault = some (.endlessFill line) ↔
      i = .fill ∧ s.line = line ∧ ∃ center radius, s.workpiece.figure = .circle center radius ∧
        ringRadii? setup.penWidth (ofInt radius) = none := by
  constructor
  · intro h
    obtain rfl := eq_fill_of_endlessFill h
    cases hfigure : s.workpiece.figure with
    | circle center radius =>
      rw [execute_fill_of_circle hfigure] at h
      cases hradii : ringRadii? setup.penWidth (ofInt radius) with
      | none =>
        rw [hradii] at h
        cases h
        exact ⟨rfl, rfl, center, radius, rfl, hradii⟩
      | some radii =>
        rw [hradii] at h
        cases h
    | none =>
      rw [execute, fillFigure, if_pos hfigure] at h
      cases h
    | polyline | triangle | square =>
      simp [execute, fillFigure, hfigure, Figure.fillStrokes?] at h
  · rintro ⟨rfl, rfl, center, radius, hfigure, hnone⟩
    rw [execute_fill_of_circle hfigure, hnone]
    rfl

theorem endlessFill_perform_iff {setup : Setup Float} {s : Session} {text : Text} {line : Nat} :
    (s.perform setup text).fault = some (.endlessFill line) ↔
      Instruction.read s.line text = .ok .fill ∧ s.line = line ∧
        ∃ center radius, s.workpiece.figure = .circle center radius ∧
          ringRadii? setup.penWidth (ofInt radius) = none := by
  cases hparse : Instruction.parse text with
  | error reason =>
    have hread : Instruction.read s.line text = .error (.unreadable s.line text reason) := by
      rw [Instruction.read, hparse]
      rfl
    rw [perform, hread]
    constructor
    · intro h
      cases h
    · rintro ⟨h, -⟩
      cases h
  | ok i =>
    have hread : Instruction.read s.line text = .ok i := by
      rw [Instruction.read, hparse]
      rfl
    rw [perform, hread]
    exact endlessFill_execute_iff.trans (and_congr_left fun _ => Except.ok.injEq i .fill ▸ Iff.rfl)

/-- A program has no end exactly if it comes to the fill of a circle that is stuck. -/
theorem convert_endless_iff {settings : Settings} (haccepted : settings.check = none)
    (source : Text) (line : Nat) :
    convert source settings = .error (.program (.endlessFill line)) ↔
      ∃ t text center radius, start.stop? settings.setup source.lines = some (t, text) ∧
        Instruction.read t.line text = .ok .fill ∧ t.line = line ∧
        t.workpiece.figure = .circle center radius ∧
        IsStuck settings.setup.penWidth (ofInt radius) := by
  obtain ⟨W, hW, hw⟩ := settings.exists_units_penWidth haccepted
  rw [convert_eq_program_iff, and_iff_right haccepted, conversionStep, fault_run,
    Option.bind_eq_some_iff]
  -- Where the program stops, the radius of a circle is a device coordinate, so that it has units.
  have hradii : ∀ {t text center radius}, start.stop? settings.setup source.lines = some (t, text) →
      t.workpiece.figure = .circle center radius →
      (ringRadii? settings.setup.penWidth (ofInt radius) = none ↔
        IsStuck settings.setup.penWidth (ofInt radius)) := by
    intro t text center radius hstop hfigure
    have hlossless := (isLossless_of_stop? hstop).figure
    rw [hfigure] at hlossless
    obtain ⟨a, hr⟩ := exists_units_ofInt hlossless.2.1
    exact ringRadii?_eq_none_iff hw hW hr
  constructor
  · rintro ⟨⟨t, text⟩, hstop, hperform⟩
    obtain ⟨hread, hline, center, radius, hfigure, hnone⟩ := endlessFill_perform_iff.mp hperform
    exact ⟨t, text, center, radius, hstop, hread, hline, hfigure, (hradii hstop hfigure).mp hnone⟩
  · rintro ⟨t, text, center, radius, hstop, hread, hline, hfigure, hstuck⟩
    have hnone := (hradii hstop hfigure).mpr hstuck
    exact ⟨(t, text), hstop,
      endlessFill_perform_iff.mpr ⟨hread, hline, center, radius, hfigure, hnone⟩⟩

/-- At a fill without end, more than the width of the pen is left however often it is taken off. -/
theorem lt_remaining_of_endless {settings : Settings} (haccepted : settings.check = none)
    {source : Text} {line : Nat}
    (h : convert source settings = .error (.program (.endlessFill line))) :
    ∃ t text center radius, start.stop? settings.setup source.lines = some (t, text) ∧
      Instruction.read t.line text = .ok .fill ∧ t.workpiece.figure = .circle center radius ∧
      ∀ n, settings.setup.penWidth < remaining settings.setup.penWidth (ofInt radius) n := by
  rw [convert_eq_program_iff, conversionStep, fault_run, Option.bind_eq_some_iff] at h
  obtain ⟨-, ⟨t, text⟩, hstop, hperform⟩ := h
  obtain ⟨hread, -, center, radius, hfigure, hnone⟩ := endlessFill_perform_iff.mp hperform
  have hlossless := (isLossless_of_stop? hstop).figure
  rw [hfigure] at hlossless
  exact ⟨t, text, center, radius, hstop, hread, hfigure,
    Settings.lt_remaining haccepted hlossless.2.1 hnone⟩

/-- **The fill of a circle comes to an end exactly if its radius is not stuck at the width of the
pen**: then each subtraction makes the radius smaller, as long as more than a pen width is left, and
the strokes are the circles left after each.  If it is stuck, the subtractions go on for ever.  A
program has no end exactly if it comes to the fill of a circle that is stuck. -/
theorem fill_circle_ends_iff {settings : Settings} (haccepted : settings.check = none)
    (center : Position) {radius : Int} (hradius : IsCoordinate radius) :
    let w := settings.setup.penWidth
    let r := ofInt radius
    ((∃ n, ¬ w < remaining w r n) ↔ ¬ IsStuck w r) ∧
      ((∀ n, (∀ m ≤ n, w < remaining w r m) → remaining w r (n + 1) < remaining w r n) ↔
        ¬ IsStuck w r) ∧
      (∀ s : Session, s.workpiece.figure = .circle center radius →
        (IsStuck w r → s.execute settings.setup .fill = .fail s (.endlessFill s.line)) ∧
        (¬ IsStuck w r → ∃ n, (∀ m < n, w < remaining w r m) ∧ ¬ w < remaining w r n ∧
          s.execute settings.setup .fill =
            ⟨s, (List.range n).map fun m =>
              .fullCircle center (toCoordinate (remaining w r (m + 1))), none⟩)) ∧
      ∀ source line, convert source settings = .error (.program (.endlessFill line)) ↔
        ∃ t text center radius, start.stop? settings.setup source.lines = some (t, text) ∧
          Instruction.read t.line text = .ok .fill ∧ t.line = line ∧
          t.workpiece.figure = .circle center radius ∧ IsStuck w (ofInt radius) := by
  intro w r
  obtain ⟨W, hW, hw⟩ := settings.exists_units_penWidth haccepted
  obtain ⟨a, hr⟩ := exists_units_ofInt hradius
  refine ⟨?_, ?_, ?_, ?_⟩
  · rcases rings_spec hw hW hr with ⟨hstuck, hleft, -⟩ | ⟨hfree, -, n, -, hend, -⟩
    · refine iff_of_false ?_ (fun hfree => hfree hstuck)
      rintro ⟨n, hend⟩
      exact hend (hleft n)
    · exact iff_of_true ⟨n, hend⟩ hfree
  · rcases rings_spec hw hW hr with ⟨hstuck, hleft, -⟩ | ⟨hfree, hless, -⟩
    · refine iff_of_false ?_ (fun hfree => hfree hstuck)
      intro hless
      exact hstuck.2 (hless 1 fun m _ => hleft m)
    · exact iff_of_true hless hfree
  · intro s hfigure
    rw [execute_fill_of_circle hfigure]
    rcases rings_spec hw hW hr with ⟨hstuck, -, hnone⟩ | ⟨hfree, -, n, hleft, hend, hsome⟩
    · refine ⟨?_, fun hfree => absurd hstuck hfree⟩
      intro _
      rw [hnone]
    · refine ⟨fun hstuck => absurd hstuck hfree, ?_⟩
      intro _
      refine ⟨n, hleft, hend, ?_⟩
      rw [hsome]
      simp only [List.map_map]
      rfl
  · exact convert_endless_iff haccepted

/-- The pen of the default settings is too thin for a circle of radius `2 ^ 60`. -/
theorem fill_circle_endless_of_thin_pen :
    Settings.check {} = none ∧ IsCoordinate 1152921504606846976 ∧
      ∀ s : Session, s.workpiece.figure = .circle ⟨0, 0⟩ 1152921504606846976 →
        s.execute (Settings.setup {}) .fill = .fail s (.endlessFill s.line) := by
  have haccepted : Settings.check {} = none := by decide +kernel
  have hradius : IsCoordinate 1152921504606846976 := by decide
  refine ⟨haccepted, hradius, ?_⟩
  intro s hfigure
  exact ((fill_circle_ends_iff haccepted ⟨0, 0⟩ hradius).2.2.1 s hfigure).1 (by decide +kernel)

/-! ## 3. Squares -/

theorem execute_fill_of_square (setup : Setup Float) {s : Session} {a b c d : Position}
    (hfigure : s.workpiece.figure = .square a b c d) :
    (s.execute setup .fill).fault = none ∧ (s.execute setup .fill).session =
      { s with workpiece.figure := (Figure.square a b c d).filled Float } := by
  obtain ⟨pen, ⟨draft, figure⟩, anchor, r, line⟩ := s
  cases hfigure
  exact ⟨rfl, rfl⟩

theorem draw_mem_outline_iff {a b c d p : Position} :
    .draw p ∈ (Figure.square a b c d).outline ↔ p ∈ [a, b, c, d] := by
  simp [Figure.outline, Figure.corners]

/-- **A fill leaves a square with the outermost corner of each side.**  They are the corners that
were there before exactly if each of these is outermost on as many sides as there are corners equal
to it, and the outline comes to a corner exactly if it is outermost on some side. -/
theorem corners_of_fill (setup : Setup Float) (requests : List Request) {a b c d : Position}
    (hfigure : (Step.persist (respond setup) requests start).session.workpiece.figure =
      .square a b c d) :
    let s := (Step.persist (respond setup) requests start).session
    let filled := s.execute setup .fill
    filled.fault = none ∧
      (∃ f : Side → Position, (∀ side : Side, side.IsOutermost (f side) [a, b, c, d]) ∧
        filled.session =
          { s with workpiece.figure := .square (f .top) (f .right) (f .bottom) (f .left) }) ∧
      (filled.session.workpiece.figure.corners.Perm [a, b, c, d] ↔ ∀ p ∈ [a, b, c, d],
        (Side.all.countP fun side => side.IsOutermost p [a, b, c, d]) = [a, b, c, d].count p) ∧
      ∀ p, .draw p ∈ (filled.session.execute setup .edge).commands ↔
        ∃ side : Side, side.IsOutermost p [a, b, c, d] := by
  intro s filled
  have hlossless : (Figure.square a b c d).IsLossless :=
    hfigure ▸ (isLossless_of_run setup requests).figure
  obtain ⟨f, hf, hfilled⟩ := filled_square hlossless
  obtain ⟨hfault, hsession⟩ := execute_fill_of_square setup hfigure
  rw [hfilled] at hsession
  refine ⟨hfault, ⟨f, hf, hsession⟩, ?_, ?_⟩
  · have hcorners : filled.session.workpiece.figure.corners = Side.all.map f := by
      rw [hsession]
      rfl
    rw [hcorners]
    exact perm_map_all_iff hf
  · intro p
    have hcommands : (filled.session.execute setup .edge).commands =
        (Figure.square (f .top) (f .right) (f .bottom) (f .left)).outline := by
      rw [hsession]
      rfl
    rw [hcommands, draw_mem_outline_iff]
    exact mem_map_all_iff hf p

/-- A trapezoid loses the corner that is outermost on no side. -/
theorem corner_lost_by_fill :
    let s := (Step.persist (respond (Settings.setup {}))
      [.feed "PM0;PD;PA0,0,400,0,320,200,80,200;PM2;".toList] start).session
    let filled := (s.execute (Settings.setup {}) .fill).session
    s.workpiece.figure = .square ⟨0, 0⟩ ⟨100, 0⟩ ⟨80, 50⟩ ⟨20, 50⟩ ∧
      ¬ filled.workpiece.figure.corners.Perm [⟨0, 0⟩, ⟨100, 0⟩, ⟨80, 50⟩, ⟨20, 50⟩] ∧
      .draw ⟨20, 50⟩ ∉ (filled.execute (Settings.setup {}) .edge).commands := by
  have hfigure : (Step.persist (respond (Settings.setup {}))
      [.feed "PM0;PD;PA0,0,400,0,320,200,80,200;PM2;".toList] start).session.workpiece.figure =
        .square ⟨0, 0⟩ ⟨100, 0⟩ ⟨80, 50⟩ ⟨20, 50⟩ := by
    decide +kernel
  obtain ⟨-, -, hperm, hdraw⟩ := corners_of_fill (Settings.setup {}) _ hfigure
  refine ⟨hfigure, ?_, ?_⟩
  · intro h
    exact absurd (hperm.mp h ⟨20, 50⟩ (by decide)) (by decide)
  · intro h
    obtain ⟨side, hside⟩ := (hdraw ⟨20, 50⟩).mp h
    revert hside
    cases side <;> decide

end Session

end PenPlotter
