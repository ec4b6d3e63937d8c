import Mathlib.FieldTheory.Finite.Basic
import Mathlib.Tactic.NormNum.Prime
import ShieldedPool.Proofs.Primality
import ShieldedPool.Proofs.Vault.Montgomery
import ShieldedPool.Vault.Curve25519

/-!
The ladder multiplies points of the curve, so that two parties who multiply the base point come to
one shared point. No order of the base point is used: where the abscissa is zero the rungs tell
nothing of the points, but the answer is zero there too.
-/

namespace ShieldedPool.Vault.Curve25519

open Lucas (Generates)
open Montgomery (Regular Shows curve)
open WeierstrassCurve.Affine (Point)

theorem prime_prime : prime.Prime := by
  have h1 : Nat.Prime 2773320623 :=
    (by decide +kernel : Generates _ 5 [2, 2437, 569003]).prime (by norm_num)
  have h2 : Nat.Prime 72106336199 :=
    (by decide +kernel : Generates _ 7 [2, 13, 2773320623]).prime (by simp [h1]; norm_num)
  have h3 : Nat.Prime 1919519569386763 :=
    (by decide +kernel : Generates _ 2 [2, 3, 7, 19, 47, 47, 127, 8574133]).prime (by norm_num)
  have h4 : Nat.Prime 75445702479781427272750846543864801 :=
    (by decide +kernel : Generates _ 7 [2, 2, 2, 2, 2, 3, 3, 5, 5, 75707, 72106336199,
      1919519569386763]).prime (by simp [h2, h3]; norm_num)
  have h5 : Nat.Prime 31757755568855353 :=
    (by decide +kernel : Generates _ 10 [2, 2, 2, 3, 31, 107, 223, 4153, 430751]).prime
      (by norm_num)
  have h6 : Nat.Prime 74058212732561358302231226437062788676166966415465897661863160754340907 :=
    (by decide +kernel : Generates _ 2 [2, 3, 353, 57467, 132049, 1923133, 31757755568855353,
      75445702479781427272750846543864801]).prime (by simp [h4, h5]; norm_num)
  have h : Generates prime 2 [2, 2, 3, 65147,
    74058212732561358302231226437062788676166966415465897661863160754340907] := by decide +kernel
  exact h.prime (by simp [h6]; norm_num)

instance : Fact prime.Prime := ⟨prime_prime⟩

section Arithmetic

variable {a b : Nat}

theorem cast_sub (h : b ≤ prime) : ((sub a b : Nat) : ZMod prime) = a - b := by
  rw [sub, ZMod.natCast_mod, Nat.cast_sub (by omega), Nat.cast_add, ZMod.natCast_self, add_zero]

theorem cast_inverse (a : Nat) : ((inverse a : Nat) : ZMod prime) = (a : ZMod prime)⁻¹ := by
  rw [inverse, Lucas.cast_powMod prime a (by decide +kernel)]
  rcases eq_or_ne (a : ZMod prime) 0 with ha | ha
  · rw [ha, inv_zero, zero_pow (by decide +kernel)]
  · apply eq_inv_of_mul_eq_one_left
    rw [← pow_succ]
    exact ZMod.pow_card_sub_one_eq_one ha

end Arithmetic

def coefficient : ZMod prime := 486662

theorem regular : Regular coefficient where
  two_ne_zero := by
    have h : ((2 : ℕ) : ZMod prime) ≠ ((0 : ℕ) : ZMod prime) := by
      rw [Ne, ZMod.natCast_eq_natCast_iff']
      decide
    exact_mod_cast h
  sq_ne_four := by
    have h : ((486662 ^ 2 : ℕ) : ZMod prime) ≠ ((4 : ℕ) : ZMod prime) := by
      rw [Ne, ZMod.natCast_eq_natCast_iff']
      decide
    rw [coefficient]
    exact_mod_cast h

structure Rungs.Reduced (r : Rungs) : Prop where
  z2_lt : r.z2 < prime
  z3_lt : r.z3 < prime

theorem Rungs.Reduced.swap {r : Rungs} (h : r.Reduced) (b : Bool) : (r.swap b).Reduced := by
  cases b with
  | false => exact h
  | true => exact ⟨h.z3_lt, h.z2_lt⟩

theorem Rungs.reduced_step (x1 : Nat) (r : Rungs) : (r.step x1).Reduced :=
  ⟨Nat.mod_lt _ (by decide), Nat.mod_lt _ (by decide)⟩

theorem Rungs.Reduced.cast_step {r : Rungs} (h : r.Reduced) (x1 : Nat) :
    ((r.step x1).x2 : ZMod prime) = ((r.x2 : ZMod prime) ^ 2 - r.z2 ^ 2) ^ 2 ∧
    ((r.step x1).z2 : ZMod prime) =
      4 * r.x2 * r.z2 * (r.x2 ^ 2 + coefficient * r.x2 * r.z2 + r.z2 ^ 2) ∧
    ((r.step x1).x3 : ZMod prime) = 4 * (r.x2 * r.x3 - r.z2 * r.z3) ^ 2 ∧
    ((r.step x1).z3 : ZMod prime) = 4 * x1 * (r.x3 * r.z2 - r.z3 * r.x2) ^ 2 := by
  have hmod (n : Nat) : n % prime ≤ prime := Nat.le_of_lt (Nat.mod_lt n (by decide))
  simp only [Rungs.step, ZMod.natCast_mod, Nat.cast_mul, Nat.cast_add, cast_sub h.z2_lt.le,
    cast_sub h.z3_lt.le, cast_sub (hmod _), coefficient]
  refine ⟨by ring, by push_cast; ring, by ring, by ring⟩

/-- The two rungs show two points. -/
structure Stands (r : Rungs) (P Q : (curve coefficient).Point) : Prop where
  reduced : r.Reduced
  first : Shows (r.x2 : ZMod prime) r.z2 P
  second : Shows (r.x3 : ZMod prime) r.z3 Q

section Climb

variable {x1 m : Nat} {r : Rungs} {u v : ZMod prime} {h : (curve coefficient).Nonsingular u v}
  {D P Q : (curve coefficient).Point}

theorem Stands.swap (hr : Stands r P Q) : Stands (r.swap true) Q P :=
  ⟨hr.reduced.swap true, hr.second, hr.first⟩

theorem Stands.step (hr : Stands r P Q) (hsub : Q - P = .some u v h) (hu : u ≠ 0)
    (hx1 : (x1 : ZMod prime) = u) : Stands (r.step x1) (P + P) (P + Q) := by
  obtain ⟨hx2, hz2, hx3, hz3⟩ := hr.reduced.cast_step x1
  refine ⟨r.reduced_step x1, ?_, ?_⟩
  · rw [hx2, hz2]
    exact hr.first.double regular
  · rw [hx3, hz3, hx1]
    exact hr.first.add regular hr.second hsub hu

theorem Stands.rung (hr : Stands r (m • D) ((m + 1) • D)) (hD : D = .some u v h) (hu : u ≠ 0)
    (hx1 : (x1 : ZMod prime) = u) (b : Bool) :
    Stands (((r.swap b).step x1).swap b) ((2 * m + b.toNat) • D)
      ((2 * m + b.toNat + 1) • D) := by
  cases b with
  | false =>
    have hfirst : m + m = 2 * m + false.toNat := by rw [two_mul]; rfl
    have hsecond : m + (m + 1) = 2 * m + false.toNat + 1 := by rw [← hfirst]; rfl
    have hsub : (m + 1) • D - m • D = .some u v h := by rw [succ_nsmul, add_sub_cancel_left, hD]
    have hstep := hr.step hsub hu hx1
    rw [← add_nsmul, ← add_nsmul, hfirst, hsecond] at hstep
    exact hstep
  | true =>
    have hfirst : m + 1 + m = 2 * m + true.toNat := by rw [two_mul, add_right_comm]; rfl
    have hsecond : m + 1 + (m + 1) = 2 * m + true.toNat + 1 := by rw [← hfirst]; rfl
    have hsub : m • D - (m + 1) • D = - .some u v h := by rw [succ_nsmul, sub_add_cancel_left, hD]
    have hstep := (hr.swap.step hsub hu hx1).swap
    rw [← add_nsmul, ← add_nsmul, hfirst, hsecond] at hstep
    exact hstep

theorem Stands.ladder (hr : Stands r (m • D) ((m + 1) • D)) (hD : D = .some u v h) (hu : u ≠ 0)
    (hx1 : (x1 : ZMod prime) = u) (k n : Nat) :
    Stands (ladder x1 k n r) ((m * 2 ^ n + k % 2 ^ n) • D) ((m * 2 ^ n + k % 2 ^ n + 1) • D) := by
  -- the bits of `k` from `n` up have made `m`, and each round adds one bit to it
  induction n generalizing r m with
  | zero => simpa [Curve25519.ladder, Nat.mod_one] using hr
  | succ n ih =>
    have hbits : (2 * m + (k.testBit n).toNat) * 2 ^ n + k % 2 ^ n =
        m * 2 ^ (n + 1) + k % 2 ^ (n + 1) := by
      rw [Nat.mod_pow_succ, Nat.toNat_testBit]
      ring
    have hrest := ih (hr.rung hD hu hx1 (k.testBit n))
    rw [hbits] at hrest
    exact hrest

end Climb

/-- Each rung is at zero or at infinity, or is no point at all. -/
structure Flat (r : Rungs) : Prop where
  reduced : r.Reduced
  first : (r.x2 : ZMod prime) * r.z2 = 0
  second : (r.x3 : ZMod prime) * r.z3 = 0

section Flat

variable {r : Rungs}

theorem Flat.swap (hr : Flat r) (b : Bool) : Flat (r.swap b) := by
  cases b with
  | false => exact hr
  | true => exact ⟨hr.reduced.swap true, hr.second, hr.first⟩

theorem Flat.step (hr : Flat r) : Flat (r.step 0) := by
  obtain ⟨-, hz2, -, hz3⟩ := hr.reduced.cast_step 0
  refine ⟨r.reduced_step 0, ?_, ?_⟩
  · rw [hz2, mul_assoc 4, hr.first, mul_zero, zero_mul, mul_zero]
  · rw [hz3, Nat.cast_zero, mul_zero, zero_mul, mul_zero]

theorem Flat.ladder (hr : Flat r) (k n : Nat) : Flat (ladder 0 k n r) := by
  induction n generalizing r with
  | zero => exact hr
  | succ n ih => exact ih ((hr.swap _).step.swap _)

end Flat

section Multiples

def abscissa : (curve coefficient).Point → ZMod prime
  | .zero => 0
  | .some u _ _ => u

variable {P : (curve coefficient).Point}

theorem abscissa_of_shows {x z : ZMod prime} (h : Shows x z P) : x * z⁻¹ = abscissa P := by
  cases P with
  | zero =>
    obtain ⟨-, rfl⟩ := h
    simp [abscissa]
  | some u v hP =>
    obtain ⟨hz, rfl⟩ := h
    exact mul_inv_cancel_right₀ hz u

theorem nsmul_of_abscissa_eq_zero (h : abscissa P = 0) (k : Nat) : k • P = 0 ∨ k • P = P := by
  have hdouble : P + P = 0 := by
    cases P with
    | zero => rfl
    | some u v hP =>
      obtain rfl : u = 0 := h
      have hv : v = 0 := by simpa using Montgomery.nonsingular_sq hP
      exact Point.add_self_of_Y_eq (by rw [Montgomery.negY_curve, hv, neg_zero])
  induction k with
  | zero => exact .inl (zero_nsmul P)
  | succ k ih =>
    rw [succ_nsmul]
    rcases ih with hzero | hone
    · exact .inr (by rw [hzero, zero_add])
    · exact .inl (by rw [hone, hdouble])

theorem abscissa_nsmul_of_eq_zero (h : abscissa P = 0) (k : Nat) : abscissa (k • P) = 0 := by
  rcases nsmul_of_abscissa_eq_zero h k with hk | hk
  · rw [hk]; rfl
  · rw [hk, h]

theorem ladder_abscissa {x1 k : Nat} (hx1 : (x1 : ZMod prime) = abscissa P) (hlt : x1 < prime)
    (hk : k < 2 ^ 255) :
    ((ladder x1 k 255 ⟨1, 0, x1, 1⟩).x2 : ZMod prime) *
      ((ladder x1 k 255 ⟨1, 0, x1, 1⟩).z2 : ZMod prime)⁻¹ = abscissa (k • P) := by
  have hreduced : (⟨1, 0, x1, 1⟩ : Rungs).Reduced :=
    ⟨(by decide : 0 < prime), (by decide : 1 < prime)⟩
  -- a difference of abscissa zero does not show the sum, but then no multiple has another abscissa
  by_cases hzero : abscissa P = 0
  · rw [abscissa_nsmul_of_eq_zero hzero, mul_eq_zero, inv_eq_zero, ← mul_eq_zero]
    obtain rfl : x1 = 0 := by
      rw [hzero, ZMod.natCast_eq_zero_iff] at hx1
      exact Nat.eq_zero_of_dvd_of_lt hx1 hlt
    exact ((⟨hreduced, by simp, by simp⟩ : Flat ⟨1, 0, 0, 1⟩).ladder k 255).first
  · cases P with
    | zero => exact absurd rfl hzero
    | some u v hP =>
      have hstart : Stands ⟨1, 0, x1, 1⟩ (0 • Point.some u v hP) ((0 + 1) • Point.some u v hP) := by
        rw [zero_nsmul, zero_add, one_nsmul]
        have hsecond : Shows (x1 : ZMod prime) (1 : Nat) (Point.some u v hP) := by
          refine ⟨by simp, ?_⟩
          rw [hx1, Nat.cast_one, mul_one]
          rfl
        exact ⟨hreduced, ⟨by simp, Nat.cast_zero⟩, hsecond⟩
      have hend := (hstart.ladder rfl hzero hx1 k 255).first
      rw [zero_mul, zero_add, Nat.mod_eq_of_lt hk] at hend
      exact abscissa_of_shows hend

end Multiples

section Agreement

def ordinate : Nat :=
  14781619447589544791020593568409986887264606134616475288964881837755586237401

theorem nonsingular_base : (curve coefficient).Nonsingular (9 : Nat) (ordinate : Nat) := by
  have hsq : ((ordinate ^ 2 : Nat) : ZMod prime) = ((9 ^ 3 + 486662 * 9 ^ 2 + 9 : Nat)) := by
    rw [ZMod.natCast_eq_natCast_iff']
    decide +kernel
  have hdouble : ((2 * ordinate : Nat) : ZMod prime) ≠ 0 := by
    rw [Ne, ZMod.natCast_eq_zero_iff]
    decide +kernel
  rw [WeierstrassCurve.Affine.nonsingular_iff', WeierstrassCurve.Affine.equation_iff]
  push_cast at hsq hdouble ⊢
  refine ⟨?_, .inr ?_⟩
  · simp only [curve, coefficient]
    linear_combination hsq
  · simpa [curve] using hdouble

def base : (curve coefficient).Point := .some _ _ nonsingular_base

def multiplier (secret : Word) : Nat := clamp (Bytes.valueLE secret.bytes) % order

def abscissaWord (P : (curve coefficient).Point) : Word := Block.natLE 32 (abscissa P).val

def Reads (w : Word) (P : (curve coefficient).Point) : Prop :=
  ((Bytes.valueLE w.bytes % (2 * highBit) % prime : Nat) : ZMod prime) = abscissa P

theorem reads_abscissaWord (P : (curve coefficient).Point) : Reads (abscissaWord P) P := by
  have hlt : (abscissa P).val < prime := ZMod.val_lt _
  have hbits : prime < 2 * highBit := by decide
  have hbytes : prime < Bytes.capacity 32 := by decide
  rw [Reads, abscissaWord, Block.natLE, Bytes.valueLE_natLE, Nat.mod_eq_of_lt (hlt.trans hbytes),
    Nat.mod_eq_of_lt (hlt.trans hbits), Nat.mod_eq_of_lt hlt, ZMod.natCast_zmod_val]

theorem multiply_of_reads {w : Word} {P : (curve coefficient).Point} (h : Reads w P)
    (secret : Word) : multiply secret w = abscissaWord (multiplier secret • P) := by
  have hlt : multiplier secret < 2 ^ 255 :=
    (Nat.mod_lt _ (by decide : 0 < order)).trans (by decide)
  have hladder := ladder_abscissa h (Nat.mod_lt _ (by decide)) hlt
  rw [← cast_inverse, ← Nat.cast_mul] at hladder
  rw [abscissaWord, ← hladder, ZMod.val_natCast]
  rfl

theorem publicKey_eq (secret : Word) :
    publicKey secret = abscissaWord (multiplier secret • base) := by
  apply multiply_of_reads
  rfl

theorem multiply_publicKey (a b : Word) :
    multiply a (publicKey b) = abscissaWord ((multiplier a * multiplier b) • base) := by
  rw [publicKey_eq, multiply_of_reads (reads_abscissaWord _), mul_nsmul']

theorem multiply_publicKey_comm (a b : Word) :
    multiply a (publicKey b) = multiply b (publicKey a) := by
  rw [multiply_publicKey, multiply_publicKey, mul_comm]

end Agreement

end ShieldedPool.Vault.Curve25519
