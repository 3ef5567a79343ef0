import PenPlotter.Proofs.Binary64.Sign
import PenPlotter.Proofs.Session.Filling
import PenPlotter.Proofs.Text.Lines

/-!
# The sign of a radius

A radius is divided by the divisor of the horizontal axis, which is not zero in accepted settings
but may be negative, as for an axis that points the other way.  Scaling then turns the sign of every
radius that a program gives (`Settings.exists_measuresWith`).

A session remembers no other radii than those (`Session.RadiiIn.of_effect`), and the circles that
fill a circle are on the same side of zero as its radius, since there are none inside a circle of
negative radius (`IsRadius.toCoordinate_of_mem_ringRadii`).  So all circles of a program have radii
of the sign of the divisor (`Session.RadiiIn.each_advance`).
-/

namespace PenPlotter

open Binary64
open Float.Model.UnpackedFloat (Sign)

/-- Whether a whole number is a radius of the given sign that the device can have.  A radius of zero
has both signs. -/
def IsRadius (t : Sign) (r : Int) : Prop :=
  IsCoordinate r ∧ 0 ≤ t.apply r

theorem isRadius_zero (t : Sign) : IsRadius t 0 := by
  refine ⟨by decide, ?_⟩
  cases t <;> exact Int.le_refl 0

/-! ## 1. Radii that are measured -/

/-- Whether settings are accepted and give radii that are not negative the given sign. -/
structure Settings.MeasuresWith (settings : Settings) (t : Sign) : Prop where
  accepted : settings.check = none
  isRadius : ∀ raw r, ofInt 0 ≤ raw → settings.setup.scaling.measure? raw = some r → IsRadius t r

/-- **Accepted settings give radii the sign of the horizontal divisor.** -/
theorem Settings.exists_measuresWith {settings : Settings} (haccepted : settings.check = none) :
    ∃ t, (ofInt 0 < settings.xDiv.toFloat ↔ t = .positive) ∧
      (settings.xDiv.toFloat < ofInt 0 ↔ t = .negative) ∧ settings.MeasuresWith t := by
  obtain ⟨hfinite, hxDiv, -, -, hscale⟩ := check_eq_none_iff.mp haccepted
  obtain ⟨n, hn, hunits⟩ := exists_units_of_not_le_zero (hfinite .scale) hscale
  obtain ⟨m, e, hm, hscale, -⟩ := unpack_of_units_pos hunits (Int.natCast_pos.mpr hn)
  obtain ⟨t, k, f, hk, hdivisor⟩ := exists_finite_of_ne_zero (hfinite .xDiv) hxDiv
  obtain ⟨hpositive, hnegative⟩ := lt_zero_iff_of_finite hdivisor
  refine ⟨t, hpositive, hnegative, haccepted, ?_⟩
  intro raw r hraw hr
  obtain ⟨hcoordinate, hwhole⟩ := whole_of_toCoordinate? hr
  have hsign := ((hasSign_of_zero_le hraw).div hdivisor).mul hscale
  have ht : Sign.positive / t * .positive = t := by cases t <;> rfl
  rw [ht] at hsign
  exact ⟨hcoordinate, hsign.of_whole hwhole⟩

/-! ## 2. Radii that fill -/

theorem Binary64.HasSign.toCoordinate_nonneg {x : Float} (hx : HasSign .positive x) :
    0 ≤ toCoordinate x := by
  change 0 ≤ (whole x).clamp
  cases hwhole : whole x with
  | number n =>
    have hn : 0 ≤ n := hx.of_whole hwhole
    simp only [Whole.clamp, lowestCoordinate, highestCoordinate]
    omega
  | infinite negative =>
    cases negative with
    | true => exact absurd hwhole hx.whole_ne_infinite
    | false => decide
  | undefined => exact Int.le_refl 0

/-- The circles inside a circle have no negative radii. -/
theorem hasSign_of_mem_ringRadii {w r : Float} {W : Nat} {a : Int} (hw : units? w = some (W : Int))
    (hW : 0 < W) (hr : units? r = some a) {radii : List Float} (h : ringRadii? w r = some radii) :
    ∀ x ∈ radii, HasSign .positive x := by
  rcases rings_spec hw hW hr with ⟨-, -, hnone⟩ | ⟨-, -, n, hleft, -, hsome⟩
  · rw [hnone] at h
    cases h
  · rw [hsome] at h
    cases h
    intro x hx
    obtain ⟨m, hm, rfl⟩ := List.mem_map.mp hx
    rw [List.mem_range] at hm
    have hlt : (W : Int) < a := (lt_iff_of_units hw hr).mp (hleft 0 (by omega))
    obtain ⟨X, rfl⟩ := Int.eq_ofNat_of_zero_le (a := a) (by omega)
    have hcount : ∀ j < m + 1, W < countdown W X j :=
      (left_iff hw hW hr (m + 1)).mp fun j hj => hleft j (by omega)
    exact hasSign_of_units (units?_remaining hw hW hr hcount) (Int.natCast_nonneg _)

/-- A circle wider than the pen that can be filled has circles in it. -/
theorem ne_nil_of_ringRadii? {w r : Float} {radii : List Float} (hlt : w < r)
    (h : ringRadii? w r = some radii) : radii ≠ [] := by
  rintro rfl
  have hbelow : Scalar.below w r = true := hlt
  rw [ringRadii?, if_pos hbelow] at h
  split at h
  · obtain ⟨rest, -, hrest⟩ := Option.map_eq_some_iff.mp h
    cases hrest
  · cases h

/-- A radius that is not positive is not above the width of a pen. -/
theorem not_lt_ofInt_of_nonpos {w : Float} {W : Nat} {radius : Int} (hw : units? w = some (W : Int))
    (hcoordinate : IsCoordinate radius) (hradius : radius ≤ 0) : ¬ w < ofInt radius := by
  intro hlt
  have hlt' := (lt_iff_of_units hw (units?_ofInt hcoordinate.natAbs_le)).mp hlt
  have hnonpos := nearestInt_nonpos (Int.mul_nonpos_of_nonpos_of_nonneg hradius natCast_unitsInOne_pos.le)
  omega

/-- **The circles that fill a circle are on the same side of zero as its radius.** -/
theorem IsRadius.toCoordinate_of_mem_ringRadii {t : Sign} {w : Float} {W : Nat} {radius : Int}
    (hradius : IsRadius t radius) (hw : units? w = some (W : Int)) (hW : 0 < W)
    {radii : List Float} (h : ringRadii? w (ofInt radius) = some radii) {x : Float}
    (hx : x ∈ radii) : 0 ≤ t.apply (toCoordinate x) := by
  obtain ⟨hcoordinate, hsign⟩ := hradius
  cases t with
  | positive =>
    obtain ⟨a, ha⟩ := exists_units_ofInt hcoordinate
    exact (hasSign_of_mem_ringRadii hw hW ha h x hx).toCoordinate_nonneg
  | negative =>
    have hnonpos : radius ≤ 0 := Int.nonpos_of_neg_nonneg hsign
    rw [ringRadii?_of_not_lt (not_lt_ofInt_of_nonpos hw hcoordinate hnonpos)] at h
    cases h
    cases hx

/-! ## 3. Radii that are remembered -/

/-- A circle has the radius of its definition. -/
theorem Draft.radius_of_figure? {d : Draft} {center : Position} {r : Int}
    (h : d.figure? = some (.circle center r)) : d.radius = r := by
  rw [figure?] at h
  split at h
  · cases h
    rfl
  · cases h
  · cases h
  · cases h
  · cases h

/-- A fill makes no circle of another figure. -/
theorem Figure.eq_circle_of_filled {K : Type} [Scalar K] {figure : Figure} {center : Position}
    {r : Int} (h : figure.filled K = .circle center r) : figure = .circle center r := by
  cases figure with
  | square => cases h
  | none | circle | polyline | triangle => exact h

/-- Whether something holds of all radii that a session remembers. -/
structure Session.RadiiIn (P : Int → Prop) (s : Session) : Prop where
  radius : P s.radius
  draft : ∀ d ∈ s.workpiece.draft, P d.radius
  figure : ∀ center r, s.workpiece.figure = .circle center r → P r

namespace Session

variable {P : Int → Prop}

theorem radiiIn_start (h : P 0) : start.RadiiIn P where
  radius := h
  draft := nofun
  figure := nofun

/-- **A session remembers no other radii than those that it is given.** -/
theorem RadiiIn.of_effect {K : Type} [Scalar K] {setup : Setup K} {s t : Session}
    {i : Instruction K} (hs : s.RadiiIn P) (h : Effect setup s i t)
    (hi : ∀ r, i.radius? setup.scaling = some r → P r) : t.RadiiIn P := by
  cases h with
  | points =>
    obtain ⟨hfigure, hradius, -⟩ :=
      frame_takePositions (i.reached setup.scaling) { s with pen.down := i.penAfter s.pen.down }
    refine ⟨?_, ?_, ?_⟩
    · rw [hradius]
      exact hs.radius
    · intro d hd
      rw [draft_takePositions] at hd
      obtain ⟨d', hd', rfl⟩ := Option.map_eq_some_iff.mp hd
      exact hs.draft d' hd'
    · rw [hfigure]
      exact hs.figure
  | select | displace => exact ⟨hs.radius, hs.draft, hs.figure⟩
  | radius hraw =>
    refine ⟨hi _ hraw, ?_, hs.figure⟩
    intro d hd
    obtain ⟨d', -, rfl⟩ := Option.map_eq_some_iff.mp hd
    exact hi _ hraw
  | start =>
    refine ⟨hs.radius, ?_, nofun⟩
    intro d hd
    cases Option.some.inj hd
    exact hs.radius
  | finish =>
    have hfinished : (∀ d ∈ (s.workpiece.finish s.line).1.draft, P d.radius) ∧
        ∀ center r, (s.workpiece.finish s.line).1.figure = .circle center r → P r := by
      rcases s.workpiece.finish_cases s.line with
        ⟨-, hsame⟩ | ⟨d, figure, hdraft, hfigure, hmade⟩ | hforgotten
      · rw [hsame]
        exact ⟨hs.draft, hs.figure⟩
      · rw [hmade]
        refine ⟨nofun, ?_⟩
        rintro center r rfl
        exact d.radius_of_figure? hfigure ▸ hs.draft d hdraft
      · rw [hforgotten]
        exact ⟨nofun, hs.figure⟩
    exact ⟨hs.radius, hfinished.1, hfinished.2⟩
  | fill =>
    refine ⟨hs.radius, hs.draft, ?_⟩
    intro center r hr
    exact hs.figure center r (Figure.eq_circle_of_filled hr)

end Session

/-! ## 4. Circles that are drawn -/

/-- The radius of a circle. -/
def Command.radius? : Command → Option Int
  | .circle _ radius _ _ => some radius
  | _ => none

theorem Pen.radius?_strokeTo (pen : Pen) (target : Position) :
    (pen.strokeTo target).radius? = none := by
  unfold strokeTo
  split <;> rfl

theorem Pen.radius?_strokeBy (pen : Pen) (delta : Position) :
    (pen.strokeBy delta).radius? = none := by
  unfold strokeBy
  split <;> rfl

/-- The outline of a figure has its radius, if it is a circle, and else it has none. -/
theorem Figure.eq_circle_of_mem_outline {figure : Figure} {c : Command} {r : Int}
    (hc : c ∈ figure.outline) (hr : c.radius? = some r) :
    ∃ center, figure = .circle center r := by
  cases figure with
  | none => cases hc
  | circle center radius =>
    rw [List.mem_singleton.mp hc] at hr
    cases hr
    exact ⟨center, rfl⟩
  | polyline | triangle | square =>
    rcases List.mem_cons.mp hc with rfl | hc
    · cases hr
    · obtain ⟨p, -, rfl⟩ := List.mem_map.mp hc
      cases hr

/-- Only a circle is filled with circles. -/
theorem Figure.eq_circle_of_mem_fillStrokes {figure : Figure} {w : Float} {strokes : List Command}
    (h : figure.fillStrokes? w = some strokes) {c : Command} {r : Int} (hc : c ∈ strokes)
    (hr : c.radius? = some r) :
    ∃ center radius radii x, figure = .circle center radius ∧
      ringRadii? w (ofInt radius) = some radii ∧ x ∈ radii ∧ r = toCoordinate x := by
  cases figure with
  | none | polyline | triangle =>
    cases h
    cases hc
  | circle center radius =>
    obtain ⟨radii, hradii, rfl⟩ := Option.map_eq_some_iff.mp h
    obtain ⟨x, hx, rfl⟩ := List.mem_map.mp hc
    cases hr
    exact ⟨center, radius, radii, x, rfl, hradii, hx, rfl⟩
  | square a b c d =>
    cases h
    rcases List.mem_cons.mp hc with rfl | hc
    · cases hr
    · obtain ⟨q, -, hq⟩ := List.mem_flatMap.mp hc
      obtain ⟨p, -, rfl⟩ := List.mem_map.mp hq
      cases hr

namespace Session

/-- Points and displacements draw no circles. -/
theorem radius?_of_mem_each {α : Type} {step : α → Session → Step}
    (h : ∀ a s, ∀ c ∈ (step a s).commands, c.radius? = none) (l : List α) (s : Session) :
    ∀ c ∈ (Step.each step l s).commands, c.radius? = none := by
  refine Step.each_induction (P := fun _ t => ∀ c ∈ t.commands, c.radius? = none) (fun _ => nofun) h
    ?_ l s
  intro s first next hfirst hnext
  rw [Step.andThen]
  split
  · exact hfirst
  · intro c hc
    rcases List.mem_append.mp hc with hc | hc
    · exact hfirst c hc
    · exact hnext c hc

theorem radius?_of_mem_plotPoint {setup : Setup Float} (command : String) (p : Point Float)
    (s : Session) : ∀ c ∈ (s.plotPoint setup command p).commands, c.radius? = none := by
  intro c hc
  rw [plotPoint] at hc
  split at hc
  · rw [takePosition] at hc
    split at hc
    · cases hc
    · cases hc
    · rw [List.mem_singleton.mp hc]
      exact s.pen.radius?_strokeTo _
  · cases hc

theorem radius?_of_mem_plotDelta {setup : Setup Float} (d : Point Float) (s : Session) :
    ∀ c ∈ (s.plotDelta setup d).commands, c.radius? = none := by
  intro c hc
  rw [plotDelta] at hc
  split at hc
  · rename_i pen command hgo
    rw [List.mem_singleton.mp hc]
    obtain ⟨delta, -, hgoBy⟩ := Option.bind_eq_some_iff.mp hgo
    obtain ⟨target, -, hstroke⟩ := Option.map_eq_some_iff.mp hgoBy
    cases hstroke
    exact s.pen.radius?_strokeBy delta
  · cases hc

/-- **A circle has the radius that the instruction gives, or that of the figure, or it fills the
figure.** -/
theorem radius?_of_mem_execute {setup : Setup Float} {i : Instruction Float} {s : Session}
    {c : Command} {r : Int} (hc : c ∈ (s.execute setup i).commands) (hr : c.radius? = some r) :
    i.radius? setup.scaling = some r ∨ (∃ center, s.workpiece.figure = .circle center r) ∨
      ∃ center radius radii x, s.workpiece.figure = .circle center radius ∧
        ringRadii? setup.penWidth (ofInt radius) = some radii ∧ x ∈ radii ∧
        r = toCoordinate x := by
  have hnone (h : c.radius? = none) : False := Option.some_ne_none r (hr.symm.trans h)
  cases i with
  | reset =>
    rw [List.mem_singleton.mp hc] at hr
    cases hr
  | selectPen n =>
    simp only [execute, selectPen, Pen.select?] at hc
    split at hc
    · rename_i pen command hselect
      rw [List.mem_singleton.mp hc] at hr
      split at hselect <;> cases hselect
      cases hr
    · cases hc
  | penUp points | penDown points | plotAbsolute points =>
    exact (hnone (radius?_of_mem_each (radius?_of_mem_plotPoint _) points _ c hc)).elim
  | plotRelative deltas =>
    exact (hnone (radius?_of_mem_each radius?_of_mem_plotDelta deltas s c hc)).elim
  | polygonMode mode => cases mode <;> cases hc
  | circle raw =>
    simp only [execute, takeRadius] at hc
    split at hc
    · cases hc
    · rename_i radius hradius
      split at hc
      · cases hc
      · rw [List.mem_singleton.mp hc] at hr
        cases hr
        exact .inl hradius
  | edge => exact .inr (.inl (Figure.eq_circle_of_mem_outline hc hr))
  | fill =>
    simp only [execute, fillFigure] at hc
    split at hc
    · cases hc
    · split at hc
      · cases hc
      · rename_i strokes hstrokes
        exact .inr (.inr (Figure.eq_circle_of_mem_fillStrokes hstrokes hc hr))
  | ignored => cases hc

/-! ## 5. Runs -/

section

variable {settings : Settings} {t : Sign} {s : Session}

/-- **A part of a program keeps the signs of the radii, and its circles have them.** -/
theorem RadiiIn.advance (hs : s.RadiiIn (IsRadius t)) (hsettings : settings.MeasuresWith t)
    {part : ProgramPart}
    (hpart : ∀ raw, part.instruction? = some (.circle raw) → ofInt 0 ≤ raw) :
    (s.advance settings.setup part).session.RadiiIn (IsRadius t) ∧
      ∀ c ∈ (s.advance settings.setup part).commands, ∀ r, c.radius? = some r →
        0 ≤ t.apply r := by
  cases hinstruction : part.instruction? with
  | none =>
    obtain ⟨line, fault, hadvance⟩ := advance_of_no_instruction settings.setup hinstruction
    rw [hadvance]
    exact ⟨⟨hs.radius, hs.draft, hs.figure⟩, nofun⟩
  | some i =>
    have hi (r : Int) (hr : i.radius? settings.setup.scaling = some r) : IsRadius t r := by
      cases i with
      | circle raw => exact hsettings.isRadius raw r (hpart raw hinstruction) hr
      | reset | selectPen | penUp | penDown | plotAbsolute | plotRelative | polygonMode | edge
      | fill | ignored => cases hr
    rw [advance_of_instruction? settings.setup hinstruction]
    refine ⟨hs.of_effect (effect_execute settings.setup i s) hi, ?_⟩
    intro c hc r hr
    rcases radius?_of_mem_execute hc hr with
      hgiven | ⟨center, hfigure⟩ | ⟨center, radius, radii, x, hfigure, hradii, hx, rfl⟩
    · exact (hi r hgiven).2
    · exact (hs.figure center r hfigure).2
    · obtain ⟨W, hW, hw⟩ := settings.exists_units_penWidth hsettings.accepted
      exact (hs.figure center radius hfigure).toCoordinate_of_mem_ringRadii hw hW hradii hx

/-- **So do the parts of a program up to the first fault.** -/
theorem RadiiIn.each_advance (hs : s.RadiiIn (IsRadius t)) (hsettings : settings.MeasuresWith t)
    {parts : List ProgramPart}
    (hparts : ∀ part ∈ parts, ∀ raw, part.instruction? = some (.circle raw) → ofInt 0 ≤ raw) :
    (Step.each (Session.advance settings.setup) parts s).session.RadiiIn (IsRadius t) ∧
      ∀ c ∈ (Step.each (Session.advance settings.setup) parts s).commands, ∀ r,
        c.radius? = some r → 0 ≤ t.apply r := by
  refine Step.each_induction_of_mem (P := fun s u => s.RadiiIn (IsRadius t) →
    u.session.RadiiIn (IsRadius t) ∧ ∀ c ∈ u.commands, ∀ r, c.radius? = some r → 0 ≤ t.apply r)
    (fun s hs => ⟨hs, nofun⟩) ?_ ?_ s hs
  · intro part hmem s hs
    exact hs.advance hsettings (hparts part hmem)
  · intro s first next hfirst hnext hs
    obtain ⟨hsession, hcommands⟩ := hfirst hs
    rw [Step.andThen]
    split
    · exact ⟨hsession, hcommands⟩
    · obtain ⟨hlast, hmore⟩ := hnext hsession
      refine ⟨hlast, ?_⟩
      intro c hc
      rcases List.mem_append.mp hc with hc | hc
      · exact hcommands c hc
      · exact hmore c hc

/-- **A fill that succeeds gives a circle wider than the pen circles inside it, unless radii are
negative.** -/
theorem RadiiIn.execute_fill (hs : s.RadiiIn (IsRadius t)) (hsettings : settings.MeasuresWith t)
    {center : Position} {radius : Int} (hfigure : s.workpiece.figure = .circle center radius)
    (hfault : (s.execute settings.setup .fill).fault = none) :
    (t = .positive → settings.setup.penWidth < ofInt |radius| →
        (s.execute settings.setup .fill).commands ≠ []) ∧
      (t = .negative → (s.execute settings.setup .fill).commands = []) := by
  obtain ⟨W, hW, hw⟩ := settings.exists_units_penWidth hsettings.accepted
  obtain ⟨hcoordinate, hsign⟩ := hs.figure center radius hfigure
  rw [execute_fill_of_circle hfigure] at hfault ⊢
  cases hradii : ringRadii? settings.setup.penWidth (ofInt radius) with
  | none =>
    rw [hradii] at hfault
    cases hfault
  | some radii =>
    constructor
    · rintro rfl hwide hnil
      have hradius : |radius| = radius := abs_of_nonneg hsign
      rw [hradius] at hwide
      exact ne_nil_of_ringRadii? hwide hradii (List.map_eq_nil_iff.mp hnil)
    · rintro rfl
      have hnonpos : radius ≤ 0 := Int.nonpos_of_neg_nonneg hsign
      rw [ringRadii?_of_not_lt (not_lt_ofInt_of_nonpos hw hcoordinate hnonpos)] at hradii
      cases hradii
      rfl

end

/-- A fill in a program that comes upon a circle: the radius of the circle, and what the fill
gives. -/
def FillsCircle (setup : Setup Float) (lines : List Text) (radius : Int) (given : List Command) :
    Prop :=
  ∃ done text rest, programParts lines = done ++ .command text :: rest ∧
    Instruction.parse text = .ok .fill ∧
    let s := (Step.each (advance setup) done start).session
    (∃ center, s.workpiece.figure = .circle center radius) ∧
      given = (s.advance setup (.command text)).commands

/-- **A fill in a program without fault leaves no circle wider than the pen unfilled, unless radii
are negative.** -/
theorem FillsCircle.given_ne_nil {settings : Settings} {t : Sign} {lines : List Text}
    {radius : Int} {given : List Command} (h : FillsCircle settings.setup lines radius given)
    (hsettings : settings.MeasuresWith t)
    (hparts : ∀ part ∈ programParts lines, ∀ raw, part.instruction? = some (.circle raw) →
      ofInt 0 ≤ raw)
    (hend : (Step.each (advance settings.setup) (programParts lines) start).fault = none) :
    (t = .positive → settings.setup.penWidth < ofInt |radius| → given ≠ []) ∧
      (t = .negative → given = []) := by
  obtain ⟨done, text, rest, hcut, hparse, ⟨center, hfigure⟩, rfl⟩ := h
  have hinstruction : (ProgramPart.command text).instruction? = some .fill := by
    rw [ProgramPart.instruction?, hparse]
    rfl
  have hdone := ((radiiIn_start (isRadius_zero t)).each_advance hsettings fun part hpart =>
    hparts part (hcut ▸ List.mem_append_left _ hpart)).1
  rw [hcut, Step.each_append] at hend
  have hnext := (Step.fault_andThen_eq_none_iff.mp hend).2
  rw [Step.each] at hnext
  have hfault := (Step.fault_andThen_eq_none_iff.mp hnext).1
  rw [advance_of_instruction? settings.setup hinstruction] at hfault ⊢
  exact hdone.execute_fill hsettings hfigure hfault

/-- That the radii of command texts are not negative can be evaluated. -/
theorem zero_le_of_all (texts : List Text)
    (h : texts.all (fun text =>
      match Instruction.parse text with
      | .ok (.circle raw) => decide (ofInt 0 ≤ raw)
      | _ => true) = true) :
    ∀ text ∈ texts, ∀ raw, Instruction.parse text = .ok (.circle raw) → ofInt 0 ≤ raw := by
  intro text htext raw hparse
  have hall := List.all_eq_true.mp h text htext
  rw [hparse] at hall
  exact of_decide_eq_true hall

/-- **The circles of a converted program have radii of the sign of the horizontal divisor**, if the
radii that the program gives are not negative.  With a positive divisor no circle has a negative
radius, and a fill leaves no circle wider than the pen unfilled; with a negative one no circle has a
positive radius, and a fill gives nothing for a circle. -/
theorem radius_of_convert {source : Text} {settings : Settings} {commands : List Command}
    (hconvert : convert source settings = .ok commands)
    (hradii : ∀ text ∈ programTexts source, ∀ raw,
      Instruction.parse text = .ok (.circle raw) → ofInt 0 ≤ raw) :
    (ofInt 0 < settings.xDiv.toFloat ∨ settings.xDiv.toFloat < ofInt 0) ∧
      (ofInt 0 < settings.xDiv.toFloat →
        (∀ center r a b, Command.circle center r a b ∈ commands → 0 ≤ r) ∧
          ∀ radius given, FillsCircle settings.setup source.lines radius given →
            settings.setup.penWidth < ofInt |radius| → given ≠ []) ∧
      (settings.xDiv.toFloat < ofInt 0 →
        (∀ center r a b, Command.circle center r a b ∈ commands → r ≤ 0) ∧
          ∀ radius given, FillsCircle settings.setup source.lines radius given →
            given = []) := by
  obtain ⟨haccepted, hend, rfl⟩ := convert_eq_ok_iff.mp hconvert
  obtain ⟨t, hpositive, hnegative, hsettings⟩ := Settings.exists_measuresWith haccepted
  have hparts : ∀ part ∈ programParts source.lines, ∀ raw,
      part.instruction? = some (.circle raw) → ofInt 0 ≤ raw := by
    intro part hpart raw hraw
    obtain ⟨text, rfl, hparse⟩ := ProgramPart.exists_of_instruction? hraw
    exact hradii text (command_mem_programParts.mp hpart) raw hparse
  rw [conversionStep, run_eq_each_advance] at hend ⊢
  have hcircles := ((radiiIn_start (isRadius_zero t)).each_advance hsettings hparts).2
  refine ⟨?_, ?_, ?_⟩
  · cases t with
    | positive => exact .inl (hpositive.mpr rfl)
    | negative => exact .inr (hnegative.mpr rfl)
  · intro h
    obtain rfl := hpositive.mp h
    refine ⟨fun center r a b hc => hcircles _ hc r rfl, fun radius given hgiven => ?_⟩
    exact (hgiven.given_ne_nil hsettings hparts hend).1 rfl
  · intro h
    obtain rfl := hnegative.mp h
    refine ⟨fun center r a b hc => ?_, fun radius given hgiven => ?_⟩
    · exact Int.nonpos_of_neg_nonneg (hcircles _ hc r rfl)
    · exact (hgiven.given_ne_nil hsettings hparts hend).2 rfl

/-- A circle that is drawn and filled: its outline and two circles inside it. -/
theorem radius_of_convert_object :
    let source : Text := "PM0;CI20;PM2;EP;FP;".toList
    let commands : List Command :=
      [.circle ⟨0, 0⟩ 5 0 360, .circle ⟨0, 0⟩ 3 0 360, .circle ⟨0, 0⟩ 1 0 360]
    convert source {} = .ok commands ∧
      (∀ center r a b, Command.circle center r a b ∈ commands → 0 ≤ r) ∧
      ∀ radius given, FillsCircle (Settings.setup {}) source.lines radius given →
        (Settings.setup {}).penWidth < ofInt |radius| → given ≠ [] := by
  intro source commands
  have hconvert : convert source {} = .ok commands := convert_eq_ok_iff.mpr (by decide +kernel)
  have hradii := zero_le_of_all (programTexts source) (by decide +kernel)
  exact ⟨hconvert, (radius_of_convert hconvert hradii).2.1 (by decide +kernel)⟩

/-- With a negative divisor a circle of a positive radius is drawn with a negative one, and a circle
much wider than the pen is left unfilled. -/
theorem negative_radius_of_convert :
    let settings : Settings := { xDiv := .ofInt (-4) }
    settings.check = none ∧
      (∀ text ∈ programTexts "CI100;".toList, ∀ raw,
        Instruction.parse text = .ok (.circle raw) → ofInt 0 ≤ raw) ∧
      convert "CI100;".toList settings = .ok [.circle ⟨0, 0⟩ (-25) 0 360] ∧
      convert "PM0;CI100;PM2;FP;".toList settings = .ok [] := by
  intro settings
  exact ⟨by decide +kernel, zero_le_of_all _ (by decide +kernel),
    convert_eq_ok_iff.mpr (by decide +kernel), convert_eq_ok_iff.mpr (by decide +kernel)⟩

end Session

end PenPlotter
