import PenPlotter.Proofs.Session.CircleCenter
import PenPlotter.Proofs.Session.Lossless
import PenPlotter.Proofs.Session.Persistence

/-!
# Where the remembered positions come from

The positions that a session remembers are where circles are centred, what the definition at hand
has heard, and the corners or the centre of the figure (`Session.remembered`).  No instruction
makes one up: behind an instruction they are among those remembered before and those that it came
to (`Session.Effect.remembered_subset`), so that in a run each is the origin or the image of a raw
point.  A fill, which writes corners back, only chooses among them.

The position of the pen is not remembered in this sense.  It is a sum of displacements, and such a
sum need not be a double; but nothing else is ever made of it.

The image of a raw point is a double, and comes through the doubles unchanged, however large it is.
-/

namespace PenPlotter

open Binary64

/-! ## 1. What is remembered -/

/-- The positions that a definition has heard and not forgotten. -/
def Draft.positions (d : Draft) : List Position :=
  d.center :: d.corners

/-- The positions that a figure is made of: its corners, or the centre of a circle. -/
def Figure.positions : Figure → List Position
  | circle center _ => [center]
  | figure => figure.corners

/-- The positions that a session remembers, apart from where its pen is. -/
def Session.remembered (s : Session) : List Position :=
  s.anchor :: (s.workpiece.draft.toList.flatMap Draft.positions ++ s.workpiece.figure.positions)

theorem Session.forall_mem_remembered_iff {s : Session} {P : Position → Prop} :
    (∀ p ∈ s.remembered, P p) ↔ P s.anchor ∧
      (∀ d, s.workpiece.draft = some d → ∀ p ∈ d.positions, P p) ∧
      ∀ p ∈ s.workpiece.figure.positions, P p := by
  rw [remembered, List.forall_mem_cons, List.forall_mem_append]
  cases s.workpiece.draft <;> simp

/-- What is remembered consists of what each part remembers. -/
theorem Session.remembered_parts (s : Session) :
    s.anchor ∈ s.remembered ∧ (∀ d, s.workpiece.draft = some d → d.positions ⊆ s.remembered) ∧
      s.workpiece.figure.positions ⊆ s.remembered :=
  forall_mem_remembered_iff.mp fun _ hp => hp

/-- A definition hears no other positions than those that it is told. -/
theorem Draft.positions_hear_subset (d : Draft) (down : Bool) (positions : List Position)
    (radius : Option Int) : (d.hear down positions radius).positions ⊆ d.positions ++ positions := by
  intro p hp
  rw [List.mem_append]
  cases down with
  | true =>
    rcases List.mem_cons.mp hp with hcenter | hcorner
    · exact .inl (List.mem_cons.mpr (.inl hcenter))
    · exact (List.mem_append.mp hcorner).imp_left (List.mem_cons_of_mem _)
  | false =>
    rcases List.mem_cons.mp hp with rfl | hcorner
    · exact (List.mem_cons.mp List.getLastD_mem_cons).imp_left fun h => List.mem_cons.mpr (.inl h)
    · exact .inl (List.mem_cons_of_mem _ hcorner)

/-- What a definition makes consists of what it has heard. -/
theorem Draft.positions_of_figure? {d : Draft} {figure : Figure} (h : d.figure? = some figure) :
    figure.positions ⊆ d.positions := by
  rw [figure?] at h
  rw [positions]
  split at h
  case h_1 =>
    cases h
    exact List.cons_subset_cons _ (List.nil_subset _)
  case h_5 => cases h
  all_goals
    rename_i hcorners
    cases h
    rw [hcorners]
    exact List.subset_cons_self _ _

/-- A fill makes a figure of no other positions. -/
theorem Figure.IsLossless.positions_filled_subset {figure : Figure} (h : figure.IsLossless) :
    (figure.filled Float).positions ⊆ figure.positions := by
  cases figure with
  | none | circle | polyline | triangle => exact List.Subset.refl _
  | square a b c d => exact h.corners_filled_subset

theorem Figure.IsLossless.of_mem_positions {figure : Figure} (h : figure.IsLossless) {p : Position}
    (hp : p ∈ figure.positions) : p.IsLossless := by
  cases figure with
  | circle center radius =>
    rw [List.mem_singleton.mp hp]
    exact h.1
  | none | polyline | triangle | square => exact h p hp

/-- A lossless coordinate is the coordinate of a double, and comes back from its own. -/
theorem IsLossless.comes_back {n : Int} (h : IsLossless n) :
    (∃ x : Float, toCoordinate? x = some n) ∧ toCoordinate (Scalar.ofInt n : Float) = n := by
  have hwhole : whole (ofInt n) = .number n := whole_ofInt h.2 h.1.natAbs_le
  refine ⟨⟨ofInt n, ?_⟩, h.toCoordinate_ofInt⟩
  change (whole (ofInt n)).coordinate? = some n
  rw [hwhole]
  exact coordinate?_eq_some_iff.mpr ⟨h.1, rfl⟩

namespace Session

theorem IsLossless.of_mem_remembered {s : Session} (hs : s.IsLossless) :
    ∀ p ∈ s.remembered, p.IsLossless := by
  refine forall_mem_remembered_iff.mpr ⟨hs.anchor, ?_, fun p => hs.figure.of_mem_positions⟩
  intro d hdraft
  exact List.forall_mem_cons.mpr ⟨(hs.draft d hdraft).center, (hs.draft d hdraft).corners⟩

/-! ## 2. One instruction -/

section

variable {setup : Setup Float} {s t : Session} {i : Instruction Float} (h : Effect setup s i t)

include h

/-- Circles are centred where they were before, or where the instruction came to. -/
theorem Effect.anchor_mem : t.anchor ∈ s.remembered ++ i.reached setup.scaling := by
  have hbefore : s.anchor ∈ s.remembered ++ i.reached setup.scaling :=
    List.mem_append_left _ s.remembered_parts.1
  rw [h.anchor]
  split
  · exact hbefore
  · rcases List.mem_cons.mp
      (List.getLastD_mem_cons (l := i.reached setup.scaling) (a := s.anchor)) with hsame | hreached
    · rw [hsame]
      exact hbefore
    · exact List.mem_append_right _ hreached

/-- A definition has heard what it had heard before, and the positions that the instruction came to.
If it has just been started, it has heard where circles are centred. -/
theorem Effect.draft_positions_subset {d : Draft} (hdraft : t.workpiece.draft = some d) :
    d.positions ⊆ s.remembered ++ i.reached setup.scaling := by
  by_cases hstart : i = .polygonMode .start
  · subst hstart
    cases h with
    | points _ hstart => exact absurd rfl hstart
    | start =>
      cases Option.some.inj hdraft
      exact List.cons_subset.mpr ⟨List.mem_append_left _ s.remembered_parts.1, List.nil_subset _⟩
  · by_cases hfinish : i = .polygonMode .finish
    · subst hfinish
      rw [h.draft_finish] at hdraft
      cases hdraft
    · rw [h.draft hstart hfinish] at hdraft
      obtain ⟨d', hd', rfl⟩ := Option.map_eq_some_iff.mp hdraft
      have hheard := s.remembered_parts.2.1 d' hd'
      intro p hp
      rcases List.mem_append.mp (d'.positions_hear_subset _ _ _ hp) with hbefore | hreached
      · exact List.mem_append_left _ (hheard hbefore)
      · exact List.mem_append_right _ hreached

/-- A figure is made of what was remembered before. -/
theorem Effect.figure_positions_subset (hs : s.IsLossless) :
    t.workpiece.figure.positions ⊆ s.remembered := by
  obtain ⟨-, hheard, hfigure⟩ := s.remembered_parts
  cases h with
  | points =>
    rw [(frame_takePositions _ _).1]
    exact hfigure
  | select | displace | radius => exact hfigure
  | start => exact List.nil_subset _
  | finish =>
    rcases s.workpiece.finish_cases s.line with
      ⟨-, hsame⟩ | ⟨d, figure, hdraft, hmakes, hmade⟩ | hforgotten
    · simp only [hsame]
      exact hfigure
    · simp only [hmade]
      exact List.Subset.trans (Draft.positions_of_figure? hmakes) (hheard d hdraft)
    · simp only [hforgotten]
      exact hfigure
  | fill => exact List.Subset.trans hs.figure.positions_filled_subset hfigure

/-- **An instruction makes up no position.**  What is remembered behind it was remembered before, or
the instruction came to it. -/
theorem Effect.remembered_subset (hs : s.IsLossless) :
    t.remembered ⊆ s.remembered ++ i.reached setup.scaling :=
  forall_mem_remembered_iff.mpr ⟨h.anchor_mem, fun _ hdraft => h.draft_positions_subset hdraft,
    fun _ hp => List.mem_append_left _ (h.figure_positions_subset hs hp)⟩

end

/-! ## 3. Runs -/

variable {setup : Setup Float}

theorem IsLossless.undergo {s : Session} (hs : s.IsLossless) (e : Event) :
    (Session.undergo setup e s).session.IsLossless := by
  cases e with
  | newLine => exact hs.line _
  | instruction i => exact hs.of_effect (effect_execute setup i s)

theorem IsLossless.remembered_undergo_subset {s : Session} (hs : s.IsLossless) (e : Event) :
    (Session.undergo setup e s).session.remembered ⊆ s.remembered ++ e.reached setup.scaling := by
  cases e with
  | newLine => exact List.subset_append_left _ _
  | instruction i => exact (effect_execute setup i s).remembered_subset hs

/-- **Events make up no position.** -/
theorem IsLossless.remembered_after_subset {s : Session} (hs : s.IsLossless) (events : List Event) :
    (after setup events s).remembered ⊆
      s.remembered ++ events.flatMap (Event.reached setup.scaling) := by
  induction events generalizing s with
  | nil => exact List.subset_append_left _ _
  | cons e rest ih =>
    intro p hp
    rw [List.flatMap_cons, ← List.append_assoc]
    rcases List.mem_append.mp (ih (hs.undergo e) hp) with hbefore | hreached
    · exact List.mem_append_left _ (hs.remembered_undergo_subset e hbefore)
    · exact List.mem_append_right _ hreached

/-- A square stays one when it is filled, and its corners are among those it had. -/
theorem IsLossless.exists_square_after_fills (setup : Setup Float) {s : Session}
    (hs : s.IsLossless) {a b c d : Position} (hfigure : s.workpiece.figure = .square a b c d)
    (n : Nat) :
    ∃ a' b' c' d', (after setup (List.replicate n Event.fill) s).workpiece.figure =
      .square a' b' c' d' ∧ [a', b', c', d'] ⊆ [a, b, c, d] := by
  induction n generalizing s a b c d with
  | zero => exact ⟨a, b, c, d, hfigure, List.Subset.refl _⟩
  | succ n ih =>
    have hsquare : (Figure.square a b c d).IsLossless := hfigure ▸ hs.figure
    have hfilled : (Session.undergo setup Event.fill s).session.workpiece.figure =
        (Figure.square a b c d).filled Float :=
      (congrArg (·.workpiece.figure) (session_execute_fill setup s)).trans (by rw [hfigure])
    rw [List.replicate_succ, after_cons]
    obtain ⟨a', b', c', d', hafter, hsubset⟩ := ih (hs.undergo Event.fill) hfilled
    exact ⟨a', b', c', d', hafter, fun p hp => hsquare.corners_filled_subset (hsubset hp)⟩

/-- **All positions that a session remembers come back from the doubles as they are.**  Each is the
origin or the image of a raw point that the run came to, and its coordinates are coordinates of
doubles.  So a fill that computes with doubles finds each corner of a square to be one of those
stored, before the first fill and behind any number of them. -/
theorem remembered_comes_back (setup : Setup Float) (requests : List Request) :
    let s := (Step.persist (respond setup) requests start).session
    (∀ p ∈ s.remembered,
      (p = .origin ∨ ∃ e ∈ trace setup requests start, p ∈ e.reached setup.scaling) ∧
      ∀ v ∈ [p.x, p.y], (∃ x : Float, toCoordinate? x = some v) ∧
        toCoordinate (Scalar.ofInt v : Float) = v) ∧
    ∀ a b c d, s.workpiece.figure = .square a b c d → ∀ n,
      ∃ a' b' c' d', (after setup (List.replicate n Event.fill) s).workpiece.figure =
          .square a' b' c' d' ∧
        [a', b', c', d'] ⊆ [a, b, c, d] ∧
        ∀ corner ∈ (Quad.ofPositions a' b' c' d' : Quad Float).positions.toList,
          corner ∈ [a', b', c', d'] := by
  intro s
  have hlossless : s.IsLossless := isLossless_of_run setup requests
  constructor
  · intro p hp
    constructor
    · have hs : s = after setup (trace setup requests start) start :=
        congrArg Step.session (persist_trace setup requests start).symm
      rw [hs] at hp
      rcases List.mem_append.mp (isLossless_start.remembered_after_subset _ hp) with
        hstart | hreached
      · exact .inl (List.mem_singleton.mp hstart)
      · exact .inr (List.mem_flatMap.mp hreached)
    · obtain ⟨hx, hy⟩ := hlossless.of_mem_remembered p hp
      intro v hv
      rcases List.mem_cons.mp hv with rfl | hv
      · exact hx.comes_back
      · rw [List.mem_singleton.mp hv]
        exact hy.comes_back
  · intro a b c d hfigure n
    obtain ⟨a', b', c', d', hafter, hsubset⟩ :=
      hlossless.exists_square_after_fills setup hfigure n
    have hsquare : (Figure.square a b c d).IsLossless := hfigure ▸ hlossless.figure
    have hsquare' : (Figure.square a' b' c' d').IsLossless := fun p hp => hsquare p (hsubset hp)
    exact ⟨a', b', c', d', hafter, hsubset, fun _ hcorner =>
      hsquare'.corners_filled_subset hcorner⟩

/-- A square at the ends of the device range is filled three times.  A displacement before has taken
the pen to where there is no double, and the position of the pen does not come back. -/
theorem remembered_comes_back_at_ends :
    let setup := Settings.setup {}
    let lowest : Float := ofInt (-36893488147419103232)
    let highest : Float := ofInt 36893488147419099136
    let requests : List Request :=
      [.feed "PU;PA36028797018963968,0;PR4,0;PM0".toList,
        .execute (.penDown
          [⟨lowest, lowest⟩, ⟨highest, lowest⟩, ⟨highest, highest⟩, ⟨lowest, highest⟩]),
        .feed "PM2".toList]
    let s := (Step.persist (respond setup) requests start).session
    let low : Int := -9223372036854775808
    let high : Int := 9223372036854774784
    (s.pen.position = ⟨9007199254740993, 0⟩ ∧
      toCoordinate (Scalar.ofInt 9007199254740993 : Float) = 9007199254740992) ∧
    s.workpiece.figure = .square ⟨low, low⟩ ⟨high, low⟩ ⟨high, high⟩ ⟨low, high⟩ ∧
    ∃ a b c d, (after setup (List.replicate 3 Event.fill) s).workpiece.figure = .square a b c d ∧
      [a, b, c, d] ⊆ [⟨low, low⟩, ⟨high, low⟩, ⟨high, high⟩, ⟨low, high⟩] ∧
      ∀ corner ∈ (Quad.ofPositions a b c d : Quad Float).positions.toList, corner ∈ [a, b, c, d] := by
  intro setup lowest highest requests s low high
  have hs : (Step.persist (respond setup) requests start).session = s := rfl
  have hreached : s.pen.position = ⟨9007199254740993, 0⟩ ∧
      s.workpiece.figure = .square ⟨low, low⟩ ⟨high, low⟩ ⟨high, high⟩ ⟨low, high⟩ := by
    decide +kernel
  obtain ⟨hposition, hfigure⟩ := hreached
  obtain ⟨-, hfills⟩ := remembered_comes_back setup requests
  rw [hs] at hfills
  exact ⟨⟨hposition, by decide +kernel⟩, hfigure, hfills _ _ _ _ hfigure 3⟩

end Session

end PenPlotter
