import Mathlib.Algebra.Group.Fin.Basic
import Mathlib.FieldTheory.Finite.Basic
import Mathlib.Tactic.NormNum.Prime
import ShieldedPool.Hash.Mimc
import ShieldedPool.Proofs.Primality

namespace ShieldedPool

namespace Field

open Lucas (Generates)

theorem modulus_prime : modulus.Prime := by
  have h1 : Nat.Prime 405928799 :=
    (by decide +kernel : Generates _ 22 [2, 11, 3691, 4999]).prime (by norm_num)
  have h2 : Nat.Prime 639533339 :=
    (by decide +kernel : Generates _ 2 [2, 229, 853, 1637]).prime (by norm_num)
  have h3 : Nat.Prime 12048837557 :=
    (by decide +kernel : Generates _ 2 [2, 2, 7, 7, 661, 93001]).prime (by norm_num)
  have h4 : Nat.Prime 5156902474397 :=
    (by decide +kernel : Generates _ 2 [2, 2, 107, 12048837557]).prime (by simp [h3]; norm_num)
  have h5 : Nat.Prime 1670836401704629 :=
    (by decide +kernel : Generates _ 2 [2, 2, 3, 3, 3, 3, 5156902474397]).prime
      (by simp [h4]; norm_num)
  have h6 : Nat.Prime 65865678001877903 :=
    (by decide +kernel : Generates _ 5 [2, 83, 379, 1637, 639533339]).prime (by simp [h2]; norm_num)
  have h7 : Nat.Prime 13818364434197438864469338081 :=
    (by decide +kernel : Generates _ 3 [2, 2, 2, 2, 2, 5, 823, 1593227, 65865678001877903]).prime
      (by simp [h6]; norm_num)
  have h : Generates modulus 5 (List.replicate 28 2 ++ [3, 3, 13, 29, 983, 11003, 237073,
      405928799, 1670836401704629, 13818364434197438864469338081]) := by decide +kernel
  exact h.prime (by simp [h1, h5, h7]; norm_num)

instance : NeZero modulus := ⟨by decide⟩

instance : Fact modulus.Prime := ⟨modulus_prime⟩

def toZMod (x : Scalar) : ZMod modulus := x.val

theorem toZMod_injective : Function.Injective toZMod := by
  intro x y h
  have hvalue : x.val % modulus = y.val % modulus := (ZMod.natCast_eq_natCast_iff' _ _ _).mp h
  rw [Nat.mod_eq_of_lt x.isLt, Nat.mod_eq_of_lt y.isLt] at hvalue
  exact Fin.ext hvalue

theorem toZMod_mul (x y : Scalar) : toZMod (x * y) = toZMod x * toZMod y := by
  rw [toZMod, Fin.val_mul, ZMod.natCast_mod, Nat.cast_mul]
  rfl

end Field

namespace Hash.Mimc

open ShieldedPool.Field (modulus toZMod toZMod_injective toZMod_mul)

def rootExponent : Nat := (4 * (modulus - 1) + 1) / 5

theorem pow_rootExponent (x : ZMod modulus) : (x ^ 5) ^ rootExponent = x := by
  have hexponent : 5 * rootExponent = (modulus - 1) * 4 + 1 := by decide +kernel
  rw [← pow_mul, hexponent]
  rcases eq_or_ne x 0 with rfl | hx
  · exact zero_pow (Nat.succ_ne_zero _)
  · rw [pow_succ, pow_mul, ZMod.pow_card_sub_one_eq_one hx, one_pow, one_mul]

theorem toZMod_fifth (t : Scalar) : toZMod (fifth t) = toZMod t ^ 5 := by
  simp only [fifth, toZMod_mul]
  ring

theorem fifth_bijective : Function.Bijective fifth := by
  apply Finite.injective_iff_bijective.mp
  intro s t h
  apply toZMod_injective
  rw [← pow_rootExponent (toZMod s), ← toZMod_fifth, h, toZMod_fifth, pow_rootExponent]

theorem cipherRound_bijective (key c : Scalar) :
    Function.Bijective fun m => cipherRound key m c :=
  fifth_bijective.comp
    ((AddGroup.addRight_bijective c).comp (AddGroup.addRight_bijective key))

theorem rounds_bijective (constants : List Scalar) (key : Scalar) :
    Function.Bijective (constants.foldl (cipherRound key)) := by
  induction constants with
  | nil => exact Function.bijective_id
  | cons c constants ih => exact ih.comp (cipherRound_bijective key c)

theorem length_chain (n : Nat) (w : Word) : (chain n w).length = n := by
  induction n generalizing w with
  | zero => rfl
  | succ n ih => rw [chain, List.length_cons, ih]

theorem cipher_permutes (key : Scalar) : roundConstants.length = 110 ∧
    ∀ constants : List Scalar, Function.Bijective (cipher constants key) := by
  refine ⟨?_, fun constants => ?_⟩
  · rw [roundConstants, List.length_map, length_chain, roundCount]
  · exact (AddGroup.addRight_bijective key).comp (rounds_bijective constants key)

end Hash.Mimc

end ShieldedPool
