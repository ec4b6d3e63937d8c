import Mathlib.NumberTheory.LucasPrimality
import ShieldedPool.Arithmetic

namespace ShieldedPool.Lucas

theorem cast_powMod (p base : Nat) {bits e : Nat} (h : e < 2 ^ bits) :
    (powMod p base bits e : ZMod p) = (base : ZMod p) ^ e := by
  induction bits generalizing e with
  | zero =>
    obtain rfl : e = 0 := by omega
    simp [powMod]
  | succ bits ih =>
    have hhalf := ih (e := e / 2) (by omega)
    rw [powMod]
    rcases Nat.mod_two_eq_zero_or_one e with heven | hodd
    · have he : e = e / 2 + e / 2 := by omega
      simp only [heven, hhalf, zero_ne_one, if_false, ZMod.natCast_mod, Nat.cast_mul]
      rw [← pow_add, ← he]
    · have he : e = e / 2 + e / 2 + 1 := by omega
      simp only [hodd, hhalf, if_true, ZMod.natCast_mod, Nat.cast_mul]
      rw [← pow_add, ← pow_succ, ← he]

/-- `g` has order `p - 1` modulo `p`, where `qs` are the primes of `p - 1`. -/
def Generates (p g : Nat) (qs : List Nat) : Prop :=
  1 < p ∧ p < 2 ^ 256 ∧ qs.prod = p - 1 ∧ powMod p g 256 (p - 1) % p = 1 ∧
    ∀ q ∈ qs, powMod p g 256 ((p - 1) / q) % p ≠ 1

instance (p g : Nat) (qs : List Nat) : Decidable (Generates p g qs) :=
  inferInstanceAs (Decidable (_ ∧ _))

section Test

variable {p g e : Nat} {qs : List Nat}

theorem pow_eq_one_iff (hp : 1 < p) (he : e < 2 ^ 256) :
    (g : ZMod p) ^ e = 1 ↔ powMod p g 256 e % p = 1 := by
  rw [← cast_powMod p g he, ← Nat.cast_one (R := ZMod p), ZMod.natCast_eq_natCast_iff',
    Nat.mod_eq_of_lt hp]

theorem Generates.prime (h : Generates p g qs) (hqs : ∀ q ∈ qs, q.Prime) : p.Prime := by
  obtain ⟨hone, hsize, hprod, hfull, hparts⟩ := h
  refine lucas_primality p g ((pow_eq_one_iff hone (by omega)).mpr hfull) fun q hq hdvd => ?_
  rw [← hprod, hq.prime.dvd_prod_iff] at hdvd
  obtain ⟨r, hr, hqr⟩ := hdvd
  obtain rfl := (Nat.prime_dvd_prime_iff_eq hq (hqs r hr)).mp hqr
  have hle := Nat.div_le_self (p - 1) q
  rw [Ne, pow_eq_one_iff hone (by omega)]
  exact hparts q hr

end Test

end ShieldedPool.Lucas
