import Mathlib.AlgebraicGeometry.EllipticCurve.Affine.Point
import Mathlib.Tactic.LinearCombination

namespace ShieldedPool.Vault.Montgomery

open WeierstrassCurve.Affine (Point)

section Field

variable {F : Type} [Field F] {A : F}

def curve (A : F) : WeierstrassCurve.Affine F := ⟨0, A, 0, 1, 0⟩

structure Regular (A : F) : Prop where
  two_ne_zero : (2 : F) ≠ 0
  sq_ne_four : A ^ 2 ≠ 4

/-- The ratio of `x` to `z` is the abscissa of the point. -/
def Shows (x z : F) : (curve A).Point → Prop
  | .zero => x ≠ 0 ∧ z = 0
  | .some u _ _ => z ≠ 0 ∧ x = u * z

theorem negY_curve (u v : F) : (curve A).negY u v = -v := by
  simp [WeierstrassCurve.Affine.negY, curve]

theorem addX_curve (u w l : F) : (curve A).addX u w l = l ^ 2 - A - u - w := by
  simp [WeierstrassCurve.Affine.addX, curve]

theorem nonsingular_sq {u v : F} (h : (curve A).Nonsingular u v) :
    v ^ 2 = u ^ 3 + A * u ^ 2 + u := by
  simpa [curve, WeierstrassCurve.Affine.equation_iff] using h.1

namespace Regular

theorem four_ne_zero (hA : Regular A) : (4 : F) ≠ 0 := by
  have h := mul_ne_zero hA.two_ne_zero hA.two_ne_zero
  norm_num at h
  exact h

theorem sq_ne_one (hA : Regular A) {u : F} (h : u ^ 3 + A * u ^ 2 + u = 0) : u ^ 2 - 1 ≠ 0 := by
  intro hu
  have hcoefficient : A = -2 * u := by linear_combination h - (u + A) * hu
  apply hA.sq_ne_four
  rw [hcoefficient]
  linear_combination 4 * hu

theorem ne_negY (hA : Regular A) {u v : F} (hv : v ≠ 0) : v ≠ (curve A).negY u v := by
  rw [negY_curve]
  intro hneg
  exact mul_ne_zero hA.two_ne_zero hv (by linear_combination hneg)

end Regular

end Field

section Abscissas

variable {F : Type} [Field F] [DecidableEq F] {A u v w t : F}

theorem slope_double (hA : Regular A) (hv : v ≠ 0) :
    (curve A).slope u u v v * (2 * v) = 3 * u ^ 2 + 2 * A * u + 1 := by
  have hsum : v - -v ≠ 0 := by
    rw [sub_neg_eq_add, ← two_mul]
    exact mul_ne_zero hA.two_ne_zero hv
  rw [WeierstrassCurve.Affine.slope_of_Y_ne rfl (hA.ne_negY hv), negY_curve, two_mul v,
    ← sub_neg_eq_add v v, div_mul_cancel₀ _ hsum]
  simp [curve]

theorem slope_mul_sub (h : u ≠ w) : (curve A).slope u w v t * (u - w) = v - t := by
  rw [WeierstrassCurve.Affine.slope_of_X_ne h, div_mul_cancel₀ _ (sub_ne_zero.mpr h)]

theorem abscissa_double (hA : Regular A) (h : (curve A).Nonsingular u v) (hv : v ≠ 0) :
    (curve A).addX u u ((curve A).slope u u v v) * (4 * v ^ 2) = (u ^ 2 - 1) ^ 2 := by
  have hslope := slope_double (u := u) hA hv
  have hsq := nonsingular_sq h
  rw [addX_curve]
  generalize (curve A).slope u u v v = l at hslope ⊢
  linear_combination
    (l * (2 * v) + (3 * u ^ 2 + 2 * A * u + 1)) * hslope - 4 * (A + 2 * u) * hsq

theorem abscissa_add_mul_sub (h : (curve A).Nonsingular u v) (h' : (curve A).Nonsingular w t)
    (hne : u ≠ w) :
    (curve A).addX u w ((curve A).slope u w v t) *
      (curve A).addX u w ((curve A).slope u w v (-t)) * (u - w) ^ 2 = (u * w - 1) ^ 2 := by
  have hsub : (u - w) ^ 2 ≠ 0 := pow_ne_zero 2 (sub_ne_zero.mpr hne)
  have hl : (curve A).slope u w v t ^ 2 * (u - w) ^ 2 = (v - t) ^ 2 := by
    rw [← mul_pow, slope_mul_sub hne]
  have hm : (curve A).slope u w v (-t) ^ 2 * (u - w) ^ 2 = (v + t) ^ 2 := by
    rw [← mul_pow, slope_mul_sub hne, sub_neg_eq_add]
  have hv := nonsingular_sq h
  have ht := nonsingular_sq h'
  rw [addX_curve, addX_curve]
  generalize (curve A).slope u w v t = l at hl ⊢
  generalize (curve A).slope u w v (-t) = m at hm ⊢
  apply mul_right_cancel₀ hsub
  linear_combination
    (m ^ 2 * (u - w) ^ 2 - (A + u + w) * (u - w) ^ 2) * hl +
    ((v - t) ^ 2 - (A + u + w) * (u - w) ^ 2) * hm +
    (v ^ 2 - t ^ 2 + (u ^ 3 + A * u ^ 2 + u) - (w ^ 3 + A * w ^ 2 + w)
      - 2 * (A + u + w) * (u - w) ^ 2) * hv -
    (v ^ 2 - t ^ 2 + (u ^ 3 + A * u ^ 2 + u) - (w ^ 3 + A * w ^ 2 + w)
      + 2 * (A + u + w) * (u - w) ^ 2) * ht

end Abscissas

section Steps

variable {F : Type} [Field F] [DecidableEq F] {A x z x' z' u v : F} {P Q : (curve A).Point}

theorem Shows.double (hA : Regular A) (h : Shows x z P) :
    Shows ((x ^ 2 - z ^ 2) ^ 2) (4 * x * z * (x ^ 2 + A * x * z + z ^ 2)) (P + P) := by
  cases P with
  | zero =>
    obtain ⟨hx, rfl⟩ := h
    refine ⟨?_, by ring⟩
    have : (x ^ 2 - 0 ^ 2) ^ 2 = x ^ 4 := by ring
    rw [this]
    exact pow_ne_zero 4 hx
  | some u v hP =>
    obtain ⟨hz, rfl⟩ := h
    have hsq := nonsingular_sq hP
    by_cases hv : v = 0
    · have hneg : v = (curve A).negY u v := by rw [negY_curve, hv, neg_zero]
      have hroot : u ^ 3 + A * u ^ 2 + u = 0 := by simpa [hv] using hsq.symm
      rw [Point.add_self_of_Y_eq hneg]
      refine ⟨?_, by linear_combination 4 * z ^ 4 * hroot⟩
      have : ((u * z) ^ 2 - z ^ 2) ^ 2 = (z ^ 2 * (u ^ 2 - 1)) ^ 2 := by ring
      rw [this]
      exact pow_ne_zero 2 (mul_ne_zero (pow_ne_zero 2 hz) (hA.sq_ne_one hroot))
    · rw [Point.add_self_of_Y_ne (hA.ne_negY hv)]
      have hz4 : 4 * (u * z) * z * ((u * z) ^ 2 + A * (u * z) * z + z ^ 2) = 4 * v ^ 2 * z ^ 4 := by
        linear_combination -4 * z ^ 4 * hsq
      refine ⟨?_, ?_⟩
      · rw [hz4]
        exact mul_ne_zero (mul_ne_zero hA.four_ne_zero (pow_ne_zero 2 hv)) (pow_ne_zero 4 hz)
      · rw [hz4]
        linear_combination -z ^ 4 * abscissa_double hA hP hv

theorem sub_of_same_abscissa (hA : Regular A) {a b d u v : F} {ha : (curve A).Nonsingular a b}
    {hd : (curve A).Nonsingular a d} {h : (curve A).Nonsingular u v}
    (hsub : Point.some a d hd - Point.some a b ha = .some u v h) (hu : u ≠ 0) :
    Point.some a b ha + Point.some a d hd = 0 ∧ a ^ 2 - 1 ≠ 0 := by
  rcases Point.X_eq_iff.mp (rfl : a = a) with hsame | hopposite
  · rw [hsame, sub_self] at hsub
    cases hsub
  · have hdouble : Point.some a b ha + Point.some a b ha = - .some u v h := by
      rw [← hsub, hopposite]
      abel
    have hb : b ≠ 0 := by
      rintro rfl
      rw [Point.add_self_of_Y_eq (by rw [negY_curve, neg_zero])] at hdouble
      cases hdouble
    rw [Point.add_self_of_Y_ne (hA.ne_negY hb), Point.neg_some, Point.some.injEq] at hdouble
    refine ⟨by rw [hopposite, add_neg_cancel], fun hone => ?_⟩
    have habscissa := abscissa_double hA ha hb
    rw [hdouble.1, hone] at habscissa
    simp [hu, hb, hA.four_ne_zero] at habscissa

theorem Shows.add_of_finite (hA : Regular A) {a b c d : F} {ha : (curve A).Nonsingular a b}
    {hc : (curve A).Nonsingular c d} {h : (curve A).Nonsingular u v} (hz : z ≠ 0) (hz' : z' ≠ 0)
    (hsub : Point.some c d hc - Point.some a b ha = .some u v h) (hu : u ≠ 0) :
    Shows (4 * (a * z * (c * z') - z * z') ^ 2) (4 * u * (c * z' * z - z' * (a * z)) ^ 2)
      (Point.some a b ha + Point.some c d hc) := by
  have h4 := hA.four_ne_zero
  by_cases hne : c = a
  · subst hne
    obtain ⟨hsum, hone⟩ := sub_of_same_abscissa hA hsub hu
    have hfactor : c * z * (c * z') - z * z' = z * z' * (c ^ 2 - 1) := by ring
    rw [hsum, hfactor]
    exact ⟨by simp [h4, hz, hz', hone], by ring⟩
  · have hdifference : c * z' * z - z' * (a * z) = z * z' * (c - a) := by ring
    rw [sub_eq_add_neg, Point.neg_some, Point.add_of_X_ne hne, Point.some.injEq,
      negY_curve] at hsub
    have hproduct := abscissa_add_mul_sub hc ha hne
    rw [hsub.1] at hproduct
    rw [add_comm, Point.add_of_X_ne hne, hdifference]
    refine ⟨by simp [h4, hu, hz, hz', sub_ne_zero.mpr hne], ?_⟩
    linear_combination -4 * z ^ 2 * z' ^ 2 * hproduct

theorem Shows.add (hA : Regular A) (hP : Shows x z P) (hQ : Shows x' z' Q)
    {h : (curve A).Nonsingular u v} (hsub : Q - P = .some u v h) (hu : u ≠ 0) :
    Shows (4 * (x * x' - z * z') ^ 2) (4 * u * (x' * z - z' * x) ^ 2) (P + Q) := by
  have h4 := hA.four_ne_zero
  cases P with
  | zero =>
    obtain ⟨hx, rfl⟩ := hP
    obtain rfl : Q = .some u v h := (sub_zero Q).symm.trans hsub
    obtain ⟨hz, rfl⟩ := hQ
    exact ⟨by simp [h4, hu, hx, hz], by ring⟩
  | some a b ha =>
    obtain ⟨hz, rfl⟩ := hP
    cases Q with
    | zero =>
      obtain ⟨hx, rfl⟩ := hQ
      obtain ⟨rfl, -⟩ : a = u ∧ -b = v := by
        have hneg : - Point.some a b ha = .some u v h := (zero_sub _).symm.trans hsub
        rwa [Point.neg_some, Point.some.injEq, negY_curve] at hneg
      exact ⟨by simp [h4, hu, hx, hz], by ring⟩
    | some c d hc =>
      obtain ⟨hz', rfl⟩ := hQ
      exact add_of_finite hA hz hz' hsub hu

end Steps

end ShieldedPool.Vault.Montgomery
