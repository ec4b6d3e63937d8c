import ShieldedPool.Proofs.Ledger.Assembly

namespace ShieldedPool.Ledger

theorem AccountInfo.toNat_spendable (account : AccountInfo) :
    account.spendable.toNat = account.amount.toNat - account.minBalance.toNat :=
  toNat_sub_or_zero account.amount account.minBalance

namespace Builder

variable {b : Builder} {params : ChainParams}

theorem toNat_maxDeposit (b : Builder) (account : AccountInfo) (params : ChainParams) :
    (b.maxDeposit account params).toNat =
      account.amount.toNat - account.minBalance.toNat -
        b.config.depositFeeMultiplier.toNat * params.minFee.toNat := by
  have hsize := account.spendable.toNat_lt_size
  have hmax : (b.maxDeposit account params).toNat = account.spendable.toNat -
      (saturatingMul b.config.depositFeeMultiplier params.minFee).toNat := toNat_sub_or_zero _ _
  rw [hmax, toNat_saturatingMul, ← account.toNat_spendable]
  omega

theorem deposit_payment {amount : UInt64} {depositor : Address} {note : Note} {g : DepositGroup}
    (h : b.deposit amount depositor note params = .ok g) :
    ∃ t, g.txns[1]? = some t ∧ b.IsPayment depositor amount t ∧
      t.fee.toNat = b.config.depositFeeMultiplier.toNat * params.minFee.toNat := by
  obtain ⟨-, fee, args, hfee, -, -, htxns, -⟩ := deposit_eq_ok h
  rw [htxns, depositTxns_eq_filled, assignGroup_members]
  exact ⟨_, rfl, ⟨rfl, rfl⟩, checkedMul_eq_some hfee⟩

theorem maxDeposit_affords (account : AccountInfo) {amount : UInt64} {depositor : Address}
    {note : Note} {g : DepositGroup} (h : b.deposit amount depositor note params = .ok g) :
    ∃ t, g.txns[1]? = some t ∧ b.IsPayment depositor amount t ∧
      (amount.toNat + t.fee.toNat + account.minBalance.toNat ≤ account.amount.toNat ↔
        amount ≤ b.maxDeposit account params) := by
  obtain ⟨hcheck, -⟩ := deposit_eq_ok h
  obtain ⟨hpos, -⟩ := checkDeposit_ok_iff.mp hcheck
  have hpos : 0 < amount.toNat := UInt64.lt_iff_toNat_lt.mp hpos
  obtain ⟨t, ht, hpayment, hfee⟩ := deposit_payment h
  refine ⟨t, ht, hpayment, ?_⟩
  rw [UInt64.le_iff_toNat_le, toNat_maxDeposit, hfee]
  omega

namespace LastUnit

open EightMembers (builder chain note)

def account : AccountInfo := ⟨5156000, 100000⟩

def oneUnitShort : AccountInfo := ⟨5155999, 100000⟩

theorem five_coins_affordable : ∃ g t,
    builder.deposit 5000000 ⟨Block.zero 32⟩ note chain = .ok g ∧ g.txns[1]? = some t ∧
      5000000 ≤ builder.maxDeposit account chain ∧ 5000000 + t.fee.toNat + 100000 ≤ 5156000 ∧
      ¬ 5000000 ≤ builder.maxDeposit oneUnitShort chain ∧
      ¬ 5000000 + t.fee.toNat + 100000 ≤ 5155999 := by
  have hbuilt : ∃ g, builder.deposit 5000000 ⟨Block.zero 32⟩ note chain = .ok g :=
    deposit_exists_iff.mpr (by decide)
  obtain ⟨g, hg⟩ := hbuilt
  obtain ⟨t, ht, -, henough⟩ := maxDeposit_affords account hg
  obtain ⟨t', ht', -, hshort⟩ := maxDeposit_affords oneUnitShort hg
  cases ht.symm.trans ht'
  have hmax : 5000000 ≤ builder.maxDeposit account chain := by decide
  have hless : ¬ 5000000 ≤ builder.maxDeposit oneUnitShort chain := by decide
  exact ⟨g, t, hg, ht, hmax, henough.mpr hmax, hless, fun h => hless (hshort.mp h)⟩

end LastUnit

end Builder

end ShieldedPool.Ledger
