import Mathlib
import ShieldedPool.Proofs.Store.Keys

namespace ShieldedPool

theorem Stats.toNat_minus (a b : UInt64) : (minus a b).toNat = a.toNat - b.toNat := by
  unfold minus
  split
  case isTrue hle => exact UInt64.toNat_sub_of_le a b hle
  case isFalse hnot =>
    have := UInt64.lt_iff_toNat_lt.mp (UInt64.not_le.mp hnot)
    rw [UInt64.toNat_zero]
    omega

namespace Store

def StandsAt (totals : List (String × Total)) (key : String) (n : Nat) : Prop :=
  totals.lookup key = some (.exact n) ∨ totals.lookup key = none ∧ n = 0

theorem lookup_cons_of_ne {key k : String} (h : key ≠ k) (t : Total)
    (totals : List (String × Total)) :
    ((k, t) :: totals).lookup key = totals.lookup key := by
  rw [List.lookup_cons, beq_false_of_ne h]

theorem lookup_setTotal_self (key : String) (t : Total) (totals : List (String × Total)) :
    (setTotal key t totals).lookup key = some t := by
  induction totals with
  | nil => exact List.lookup_cons_self
  | cons entry totals ih =>
    obtain ⟨k, u⟩ := entry
    unfold setTotal
    split
    case isTrue h =>
      subst h
      exact List.lookup_cons_self
    case isFalse h => rw [lookup_cons_of_ne (Ne.symm h), ih]

theorem lookup_setTotal_of_ne {key other : String} (h : other ≠ key) (t : Total)
    (totals : List (String × Total)) :
    (setTotal key t totals).lookup other = totals.lookup other := by
  induction totals with
  | nil => exact lookup_cons_of_ne h t []
  | cons entry totals ih =>
    obtain ⟨k, u⟩ := entry
    unfold setTotal
    split
    case isTrue hk =>
      subst hk
      rw [lookup_cons_of_ne h, lookup_cons_of_ne h]
    case isFalse hk => rw [List.lookup_cons, List.lookup_cons, ih]

theorem StandsAt.bump_self {totals : List (String × Total)} {key : String} {n delta : Nat}
    (h : StandsAt totals key n) (hroom : n + delta < signedLimit) :
    StandsAt (bump totals (key, delta)) key (n + delta) := by
  refine .inl ?_
  unfold bump
  dsimp only
  rcases h with hn | ⟨hnone, rfl⟩
  · have hlt : (n : Int) + delta < signedLimit := by omega
    rw [hn]
    dsimp only
    rw [lookup_setTotal_self, Total.add, if_pos hlt, Int.natCast_add]
  · rw [hnone]
    dsimp only
    rw [lookup_setTotal_self, Nat.zero_add]

theorem StandsAt.bump_of_ne {totals : List (String × Total)} {key : String} {n : Nat}
    (h : StandsAt totals key n) {b : String × Int} (hne : key ≠ b.1) :
    StandsAt (bump totals b) key n := by
  have hsame : (bump totals b).lookup key = totals.lookup key := by
    unfold bump
    split <;> exact lookup_setTotal_of_ne hne _ totals
  rw [StandsAt, hsame]
  exact h

def share (key : String) (t : TxnRecord) : Nat :=
  match t.txnType with
  | .deposit =>
    if key = "total_deposits" then t.amount.toNat else if key = "count_deposits" then 1 else 0
  | .withdrawal =>
    if key = "total_withdrawals" then t.amount.toNat
    else if key = "total_fees" then t.fee.toNat else 0

theorem StandsAt.bump_two {totals : List (String × Total)} {key first second : String}
    {n d e : Nat} (h : StandsAt totals key n) (hne : first ≠ second)
    (hroom : n + (if key = first then d else if key = second then e else 0) < signedLimit) :
    StandsAt (bump (bump totals (first, d)) (second, e)) key
      (n + if key = first then d else if key = second then e else 0) := by
  by_cases hfirst : key = first
  case pos =>
    rw [if_pos hfirst] at hroom ⊢
    subst hfirst
    exact (h.bump_self hroom).bump_of_ne hne
  case neg =>
    rw [if_neg hfirst] at hroom ⊢
    by_cases hsecond : key = second
    case pos =>
      rw [if_pos hsecond] at hroom ⊢
      subst hsecond
      exact (h.bump_of_ne hfirst).bump_self hroom
    case neg =>
      rw [if_neg hsecond, Nat.add_zero]
      exact (h.bump_of_ne hfirst).bump_of_ne hsecond

theorem StandsAt.post {s : Store} {key : String} {n : Nat} {t : TxnRecord}
    (h : StandsAt s.totals key n) (hroom : n + share key t < signedLimit) :
    StandsAt (s.post t).totals key (n + share key t) := by
  unfold share at hroom ⊢
  unfold Store.post bumps
  cases htype : t.txnType with
  | deposit =>
    rw [htype] at hroom
    exact h.bump_two (by decide) hroom
  | withdrawal =>
    rw [htype] at hroom
    exact h.bump_two (by decide) hroom

theorem unsigned_natCast (n : Nat) : unsigned n = UInt64.ofNat n := by
  refine UInt64.toNat_inj.mp ?_
  rw [unsigned, UInt64.toNat_ofNat', UInt64.toNat_ofNat', ← Int.natCast_emod, Int.toNat_natCast,
    Nat.mod_mod]

theorem StandsAt.total {s : Store} {key : String} {n : Nat} (h : StandsAt s.totals key n) :
    s.total key = .ok (UInt64.ofNat n) := by
  unfold Store.total
  rcases h with hn | ⟨hnone, rfl⟩
  · rw [hn]
    exact congrArg Except.ok (unsigned_natCast n)
  · rw [hnone]
    rfl

end Store

end ShieldedPool
