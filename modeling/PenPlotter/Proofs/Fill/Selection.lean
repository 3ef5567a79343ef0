import PenPlotter.Quad

/-!
# What is found by going through a list once

The corners of a quadrilateral and its widest gap are found in the same way: a list is gone
through, and a member takes the place of the best one so far if it beats it.  What is left at the
end is one of the members and beaten by none (`foldl_select`).

For that to beat has to be transitive, and no more is needed: members that cannot be compared, such
as a gap that is not a number, are passed over.  The orders of the corners are transitive if the
order of the coordinates is.
-/

namespace PenPlotter

/-! ## 1. Going through a list -/

section

variable {α : Type} {R : α → α → Prop} [DecidableRel R]

/-- **What is left after going through a list is one of its members and beaten by none.** -/
theorem foldl_select (irrefl : ∀ x, ¬ R x x)
    (trans : ∀ x y z, R x y → R y z → R x z) (x : α) (l : List α) :
    let best := l.foldl (fun best y => if R y best then y else best) x
    (best = x ∨ R best x) ∧ best ∈ x :: l ∧ ∀ y ∈ x :: l, ¬ R y best := by
  induction l generalizing x with
  | nil => simp [irrefl]
  | cons y rest ih =>
    rw [List.foldl_cons]
    by_cases hbeats : R y x
    · rw [if_pos hbeats]
      obtain ⟨hfrom, hmem, hbest⟩ := ih y
      have hx : R (rest.foldl (fun best y => if R y best then y else best) y) x := by
        rcases hfrom with heq | hfrom
        · rwa [heq]
        · exact trans _ _ _ hfrom hbeats
      refine ⟨.inr hx, List.mem_cons_of_mem x hmem, ?_⟩
      intro z hz
      rcases List.mem_cons.mp hz with rfl | hz
      · intro hback
        exact irrefl _ (trans _ _ _ hx hback)
      · exact hbest z hz
    · rw [if_neg hbeats]
      obtain ⟨hfrom, hmem, hbest⟩ := ih x
      refine ⟨hfrom, ?_, ?_⟩
      · rcases List.mem_cons.mp hmem with hmem | hmem
        · exact List.mem_cons.mpr (.inl hmem)
        · exact List.mem_cons_of_mem x (List.mem_cons_of_mem y hmem)
      · intro z hz
        rcases List.mem_cons.mp hz with rfl | hz
        · exact hbest z List.mem_cons_self
        · rcases List.mem_cons.mp hz with rfl | hz
          · intro hback
            rcases hfrom with heq | hfrom
            · exact hbeats (heq ▸ hback)
            · exact hbeats (trans _ _ _ hback hfrom)
          · exact hbest z (List.mem_cons_of_mem x hz)

end

/-- Comparing a part of the wholes is transitive, if comparing the parts is. -/
theorem transCmp_on {α β : Type} (cmp : β → β → Ordering) [Std.TransCmp cmp] (part : α → β) :
    Std.TransCmp fun a b => cmp (part a) (part b) where
  eq_swap := Std.OrientedCmp.eq_swap
  isLE_trans := Std.TransCmp.isLE_trans

namespace Quad

variable {K : Type}

/-! ## 2. Corners -/

/-- The first of some points in an order is one of them, and none comes before it. -/
theorem first_spec (order : Point K → Point K → Ordering) [Std.TransCmp order] (p : Point K)
    (more : List (Point K)) :
    first order p more ∈ p :: more ∧ ∀ q ∈ p :: more, order q (first order p more) ≠ .lt := by
  have hself : ∀ q, order q q ≠ .lt := by
    intro q
    have hrefl : order q q = .eq := Std.ReflCmp.compare_self
    rw [hrefl]
    decide
  have htrans : ∀ q r s, order q r = .lt → order r s = .lt → order q s = .lt :=
    fun _ _ _ => Std.TransCmp.lt_trans
  exact (foldl_select (R := fun q best => order q best = .lt) hself htrans p more).2

/-- Comparing one coordinate and then the other is transitive, if comparing the coordinates is. -/
theorem transCmp_then (cmp cmp' : K → K → Ordering) [Std.TransCmp cmp] [Std.TransCmp cmp']
    (part part' : Point K → K) :
    Std.TransCmp fun p q => (cmp (part p) (part q)).then (cmp' (part' p) (part' q)) :=
  have := transCmp_on cmp part
  have := transCmp_on cmp' part'
  inferInstanceAs (Std.TransCmp (compareLex (fun p q => cmp (part p) (part q))
    fun p q => cmp' (part' p) (part' q)))

variable [Scalar K]

section

variable [Std.TransCmp (Scalar.order : K → K → Ordering)]

instance : Std.TransCmp (leftFirst : Point K → Point K → Ordering) :=
  transCmp_then Scalar.order (fun a b => Scalar.order b a) Point.x Point.y

instance : Std.TransCmp (bottomFirst : Point K → Point K → Ordering) :=
  transCmp_then Scalar.order Scalar.order Point.y Point.x

instance : Std.TransCmp (rightFirst : Point K → Point K → Ordering) :=
  transCmp_then (fun a b => Scalar.order b a) Scalar.order Point.x Point.y

instance : Std.TransCmp (topFirst : Point K → Point K → Ordering) :=
  transCmp_then (fun a b => Scalar.order b a) (fun a b => Scalar.order b a) Point.y Point.x

end

/-! ## 3. The widest gap -/

/-- **The widest gap is zero or a gap, and neither zero nor a gap is above it.** -/
theorem widest_spec (hself : ∀ x : K, Scalar.below x x = false)
    (htrans : ∀ x y z : K, Scalar.below x y = true → Scalar.below y z = true →
      Scalar.below x z = true) (q : Quad K) :
    q.widest ∈ Scalar.ofInt 0 :: q.gaps ∧
      ∀ gap ∈ Scalar.ofInt 0 :: q.gaps, Scalar.below q.widest gap = false := by
  have hirrefl : ∀ x : K, ¬ Scalar.below x x = true := by
    intro x
    rw [hself]
    decide
  have hback : ∀ x y z : K, Scalar.below y x = true → Scalar.below z y = true →
      Scalar.below z x = true := fun x y z hyx hzy => htrans z y x hzy hyx
  obtain ⟨-, hmem, hbest⟩ := foldl_select
    (R := fun gap best : K => Scalar.below best gap = true) hirrefl hback (Scalar.ofInt 0) q.gaps
  exact ⟨hmem, fun gap hgap => Bool.eq_false_iff.mpr (hbest gap hgap)⟩

end Quad

end PenPlotter
