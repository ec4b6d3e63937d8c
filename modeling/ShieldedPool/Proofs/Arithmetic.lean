import ShieldedPool.Arithmetic

namespace ShieldedPool

variable {a b c : UInt64}

theorem checkedMul_eq_some (h : checkedMul a b = some c) : c.toNat = a.toNat * b.toNat := by
  unfold checkedMul at h
  split at h
  case isTrue hlt =>
    cases h
    rw [UInt64.toNat_mul]
    exact Nat.mod_eq_of_lt hlt
  case isFalse => cases h

theorem exists_checkedMul_iff :
    (∃ c, checkedMul a b = some c) ↔ a.toNat * b.toNat < UInt64.size := by
  unfold checkedMul
  split
  case isTrue hlt => exact iff_of_true ⟨_, rfl⟩ hlt
  case isFalse hge => exact iff_of_false (fun h => by cases h.choose_spec) hge

theorem checkedAdd_eq_some (h : checkedAdd a b = some c) : c.toNat = a.toNat + b.toNat := by
  unfold checkedAdd at h
  split at h
  case isTrue hlt =>
    cases h
    rw [UInt64.toNat_add]
    exact Nat.mod_eq_of_lt hlt
  case isFalse => cases h

theorem checkedMul_ofNat {m n : Nat} (hm : m < UInt64.size) (hn : n < UInt64.size) :
    checkedMul (UInt64.ofNat m) (UInt64.ofNat n) =
      if m * n < UInt64.size then some (UInt64.ofNat (m * n)) else none := by
  rw [checkedMul, UInt64.toNat_ofNat_of_lt' hm, UInt64.toNat_ofNat_of_lt' hn, UInt64.ofNat_mul]

theorem checkedAdd_ofNat {m n : Nat} (hm : m < UInt64.size) (hn : n < UInt64.size) :
    checkedAdd (UInt64.ofNat m) (UInt64.ofNat n) =
      if m + n < UInt64.size then some (UInt64.ofNat (m + n)) else none := by
  rw [checkedAdd, UInt64.toNat_ofNat_of_lt' hm, UInt64.toNat_ofNat_of_lt' hn, UInt64.ofNat_add]

theorem toNat_saturatingMul (x y : UInt64) :
    (saturatingMul x y).toNat = min (x.toNat * y.toNat) (UInt64.size - 1) := by
  cases h : checkedMul x y with
  | some z =>
    have hsize := z.toNat_lt_size
    rw [saturatingMul, h, Option.getD_some, ← checkedMul_eq_some h]
    omega
  | none =>
    have hlarge : ¬ x.toNat * y.toNat < UInt64.size := fun hlt => by
      obtain ⟨z, hz⟩ := exists_checkedMul_iff.mpr hlt
      rw [h] at hz
      cases hz
    rw [saturatingMul, h, Option.getD_none, UInt64.toNat_ofNat_of_lt' (by decide)]
    omega

theorem toNat_sub_or_zero (a b : UInt64) :
    (if b ≤ a then a - b else 0).toNat = a.toNat - b.toNat := by
  split
  case isTrue h => exact UInt64.toNat_sub_of_le _ _ h
  case isFalse h =>
    have hlt := UInt64.lt_iff_toNat_lt.mp (UInt64.not_le.mp h)
    exact (Nat.sub_eq_zero_of_le (Nat.le_of_lt hlt)).symm

end ShieldedPool
