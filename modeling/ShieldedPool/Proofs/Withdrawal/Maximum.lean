import ShieldedPool.Proofs.Arithmetic
import ShieldedPool.Proofs.Withdrawal

namespace ShieldedPool

namespace FeePolicy

variable (p : FeePolicy)

theorem toNat_fee (amount : UInt64) : (p.fee amount).toNat =
    if p.divisor = 0 then p.minimum.toNat
    else max (amount.toNat / p.divisor.toNat) p.minimum.toNat := by
  unfold fee
  split
  · rfl
  · rw [← UInt64.toNat_div]
    change (if _ then _ else _ : UInt64).toNat = _
    split
    case isTrue h => exact (Nat.max_eq_right (UInt64.le_iff_toNat_le.mp h)).symm
    case isFalse h =>
      exact (Nat.max_eq_left (Nat.le_of_lt (UInt64.lt_iff_toNat_lt.mp (UInt64.not_le.mp h)))).symm

theorem minimum_le_fee (amount : UInt64) : p.minimum.toNat ≤ (p.fee amount).toNat := by
  rw [toNat_fee]
  split
  · exact Nat.le_refl _
  · exact Nat.le_max_right ..

theorem fee_mono {a b : UInt64} (h : a.toNat ≤ b.toNat) : (p.fee a).toNat ≤ (p.fee b).toNat := by
  have hshare := Nat.div_le_div_right (c := p.divisor.toNat) h
  rw [toNat_fee, toNat_fee]
  split <;> omega

theorem fee_eq_minimum (amount : UInt64) (h : amount.toNat < (p.fee amount).toNat) :
    (p.fee amount).toNat = p.minimum.toNat := by
  have hshare := Nat.div_le_self amount.toNat p.divisor.toNat
  rw [toNat_fee] at h ⊢
  split at h
  case isTrue hflat => exact if_pos hflat
  case isFalse hshared =>
    rw [if_neg hshared]
    omega

end FeePolicy

namespace Note

variable (n : Note) (p : FeePolicy) {amount : UInt64}

theorem toNat_maxWithdrawal :
    (n.maxWithdrawal p).units.toNat = n.amount.toNat - (p.fee n.amount).toNat :=
  toNat_sub_or_zero n.amount (p.fee n.amount)

theorem covers_of_le_maxWithdrawal (hpos : 0 < amount) (h : amount ≤ (n.maxWithdrawal p).units) :
    amount.toNat + (p.fee amount).toNat ≤ n.amount.toNat := by
  have hpos := UInt64.lt_iff_toNat_lt.mp hpos
  have hle := UInt64.le_iff_toNat_le.mp h
  rw [UInt64.toNat_zero] at hpos
  rw [toNat_maxWithdrawal] at hle
  have hfee := p.fee_mono (a := amount) (b := n.amount) (by omega)
  omega

theorem toNat_maxWithdrawal_add_one (h : 0 < (p.fee n.amount).toNat) :
    ((n.maxWithdrawal p).units + 1).toNat = (n.maxWithdrawal p).units.toNat + 1 := by
  have hmax := n.toNat_maxWithdrawal p
  have hsize := n.amount.toNat_lt
  have hnote := (n.maxWithdrawal p).units.toNat_lt
  rw [UInt64.toNat_add, UInt64.toNat_one, Nat.mod_eq_of_lt (by omega)]

def PaysAtMost : Prop :=
  ∀ amount : UInt64, 0 < amount →
    (amount.toNat + (p.fee amount).toNat ≤ n.amount.toNat ↔ amount ≤ (n.maxWithdrawal p).units)

theorem paysAtMost_iff :
    n.PaysAtMost p ↔ p.fee n.amount ≤ p.fee ((n.maxWithdrawal p).units + 1) := by
  have hmax := n.toNat_maxWithdrawal p
  rw [UInt64.le_iff_toNat_le]
  constructor
  · intro h
    refine Nat.le_of_not_lt fun hlt => ?_
    have hcharged : 0 < (p.fee n.amount).toNat := by omega
    have hnext := n.toNat_maxWithdrawal_add_one p hcharged
    have hrefused : ¬ (n.maxWithdrawal p).units + 1 ≤ (n.maxWithdrawal p).units := by
      rw [UInt64.le_iff_toNat_le]
      omega
    rw [← h _ (UInt64.lt_iff_toNat_lt.mpr (by rw [UInt64.toNat_zero]; omega))] at hrefused
    -- So the note does not even cover its own fee, which is the minimum then.
    have hfloor := p.minimum_le_fee ((n.maxWithdrawal p).units + 1)
    have hfee := p.fee_eq_minimum n.amount (by omega)
    omega
  · intro hfee amount hpos
    refine ⟨fun hcovered => ?_, n.covers_of_le_maxWithdrawal p hpos⟩
    refine UInt64.le_iff_toNat_le.mpr (Nat.le_of_not_lt fun hmore => ?_)
    by_cases hcharged : 0 < (p.fee n.amount).toNat
    case neg => omega
    case pos =>
      have hnext := n.toNat_maxWithdrawal_add_one p hcharged
      have hmono := p.fee_mono (a := (n.maxWithdrawal p).units + 1) (b := amount) (by omega)
      omega

end Note

namespace Withdrawal

variable {source : Random.Source}

theorem generateChange_eq_ok_iff (amount : UInt64) (n : Note) (p : FeePolicy)
    (hs : source.ServesNote) :
    (∃ change, (generateChange amount n p source).1 = .ok change) ↔
      amount.toNat + (p.fee amount).toNat ≤ n.amount.toNat := by
  rw [← exists_rest_iff]
  simp only [← change_eq_ok_iff, generateChange]
  cases change amount n p with
  | error e => simp
  | ok rest =>
    obtain ⟨k, r, hnote⟩ := Note.generate_of rest hs
    simp [hnote]

theorem maxWithdrawal_greatest_iff (n : Note) (p : FeePolicy) (hs : source.ServesNote) :
    (∀ amount : UInt64, (∃ change, (generateChange amount n p source).1 = .ok change) ↔
      amount.toNat + (p.fee amount).toNat ≤ n.amount.toNat) ∧
    (∀ amount : UInt64, 0 < amount → amount ≤ (n.maxWithdrawal p).units →
      ∃ change, (generateChange amount n p source).1 = .ok change) ∧
    ((∀ amount : UInt64, 0 < amount →
        ((∃ change, (generateChange amount n p source).1 = .ok change) ↔
          amount ≤ (n.maxWithdrawal p).units)) ↔
      p.fee n.amount ≤ p.fee ((n.maxWithdrawal p).units + 1)) := by
  have hgoes := fun amount : UInt64 => generateChange_eq_ok_iff amount n p hs
  refine ⟨hgoes, fun amount hpos hle => ?_, ?_⟩
  · exact (hgoes amount).mpr (n.covers_of_le_maxWithdrawal p hpos hle)
  · rw [← n.paysAtMost_iff p, Note.PaysAtMost]
    exact forall₂_congr fun amount _ => by rw [hgoes]

namespace Tenth

def policy : FeePolicy := ⟨10, 0⟩

def twoCoins : Note := { amount := 2000000, k := Block.zero 31, r := Block.zero 31 }

def supply : Random.Source := .seeded 0 none

theorem supply_serves : supply.ServesNote := ⟨rfl, rfl⟩

theorem maxWithdrawal_units : (twoCoins.maxWithdrawal policy).units = 1800000 := rfl

theorem two_coins_pay_more : supply.ServesNote ∧
    (∃ change, (generateChange 1800000 twoCoins policy supply).1 = .ok change) ∧
      ¬ ∀ amount : UInt64, 0 < amount →
        ((∃ change, (generateChange amount twoCoins policy supply).1 = .ok change) ↔
          amount ≤ (twoCoins.maxWithdrawal policy).units) := by
  obtain ⟨-, hpays, hgreatest⟩ := maxWithdrawal_greatest_iff twoCoins policy supply_serves
  refine ⟨supply_serves, hpays 1800000 (by decide) (by decide), fun h => ?_⟩
  exact absurd (hgreatest.mp h) (by decide)

theorem more_than_maximum_withdrawn :
    (twoCoins.maxWithdrawal policy).units = 1800000 ∧
      (∃ change, (generateChange 1818182 twoCoins policy supply).1 = .ok change) ∧
      ¬ ((∃ change, (generateChange 1818182 twoCoins policy supply).1 = .ok change) ↔
        (1818182 : UInt64) ≤ (twoCoins.maxWithdrawal policy).units) := by
  have hgoes : ∃ change, (generateChange 1818182 twoCoins policy supply).1 = .ok change :=
    (generateChange_eq_ok_iff _ _ _ supply_serves).mpr (by decide)
  refine ⟨maxWithdrawal_units, hgoes, fun h => ?_⟩
  exact absurd (h.mp hgoes) (by rw [maxWithdrawal_units]; decide)

end Tenth

end Withdrawal

end ShieldedPool
