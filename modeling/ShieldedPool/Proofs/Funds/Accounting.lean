import ShieldedPool.Proofs.Funds.Writing
import ShieldedPool.Proofs.Hash.Evaluation

namespace ShieldedPool.Funds

theorem share_count_le (t : TxnRecord) : Store.share "count_deposits" t ≤ 1 := by
  unfold Store.share
  cases t.txnType <;> simp

theorem total_count_le (h : List Step) : total "count_deposits" h ≤ h.length := by
  unfold total
  induction h with
  | nil => exact Nat.le_refl 0
  | cons e h ih =>
    have := share_count_le e.record
    rw [List.map_cons, List.sum_cons, List.length_cons]
    omega

namespace Account

variable {h : List Step} {secret : Vault.Secret} {s : Store}

theorem total_eq (ha : Account h secret s) {key : String}
    (hroom : total key h < Store.signedLimit) :
    s.total key = .ok (UInt64.ofNat (total key h)) := by
  obtain ⟨ts, ns, hwritten, hts, -⟩ := ha.records
  have hsum : ((h.map Step.record).map (Store.share key)).sum = total key h := by
    rw [List.map_map]
    rfl
  rw [← hsum] at hroom ⊢
  exact hwritten.total hts hroom

theorem stats_eq (ha : Account h secret s)
    (hwithdrawn : total "total_withdrawals" h < Store.signedLimit)
    (hpaid : total "total_fees" h < Store.signedLimit) :
    s.stats = .ok
      { depositTotal := Amount.ofUnits (UInt64.ofNat (total "total_deposits" h))
        withdrawalTotal := Amount.ofUnits (UInt64.ofNat (total "total_withdrawals" h))
        feeTotal := Amount.ofUnits (UInt64.ofNat (total "total_fees" h))
        depositCount := UInt64.ofNat (total "count_deposits" h)
        noteCount := UInt64.ofNat h.length } := by
  have hcount := Nat.lt_of_le_of_lt (total_count_le h) ha.noted
  unfold Store.stats
  rw [ha.total_eq ha.deposited, ha.total_eq hwithdrawn, ha.total_eq hpaid, ha.total_eq hcount,
    ha.txns_eq, List.length_map]
  rfl

end Account

theorem toNat_tvl (st : Stats) :
    st.tvl.units.toNat =
      st.depositTotal.units.toNat - st.withdrawalTotal.units.toNat - st.feeTotal.units.toNat := by
  unfold Stats.tvl Amount.ofUnits
  rw [Stats.toNat_minus, Stats.toNat_minus]

def Reports (h : List Step) (d : Step) (found : UInt64 × ChainEnd) : Prop :=
  ∃ last, Leads h d last ∧ Unspent h last ∧ found = (d.record.leafIndex, endOf last)

theorem ends_account_for_totals {h : List Step} {secret : Vault.Secret} {s : Store}
    (ha : Account h secret s) :
    ∃ ends st, Funds.ends s.snapshot (openAll secret s.sealedNullifiers) = .ok ends ∧
      s.stats = .ok st ∧ List.Forall₂ (Reports h) (h.filter Step.isDeposit) ends ∧
      (ends.map fun found => found.2.held).sum + st.withdrawalTotal.units.toNat +
        st.feeTotal.units.toNat = st.depositTotal.units.toNat ∧
      st.tvl.units.toNat = (ends.map fun found => found.2.held).sum := by
  obtain ⟨cs, hcs⟩ := ha.history.chains ha.distinct
  have hbalance := hcs.balance
  have hdeposited := ha.deposited
  have hstats := ha.stats_eq (by omega) (by omega)
  have hheld : ((cs.map fun c => (c.1.record.leafIndex, endOf c.2)).map
      fun found => found.2.held).sum = (cs.map fun c => c.2.note.amount.toNat).sum := by
    rw [List.map_map]
    simp only [Function.comp_def, held_endOf]
  have hexact (n : Nat) (hn : n < Store.signedLimit) : (UInt64.ofNat n).toNat = n :=
    UInt64.toNat_ofNat_of_lt' (Nat.lt_trans hn (by decide))
  have hsum := hexact _ hdeposited
  have hwithdrawn := hexact (total "total_withdrawals" h) (by omega)
  have hpaid := hexact (total "total_fees" h) (by omega)
  refine ⟨_, _, ha.ends_eq hcs, hstats, ?_, ?_, ?_⟩
  · rw [← hcs.deposits]
    refine List.forall₂_map_left_iff.mpr (List.forall₂_map_right_iff.mpr
      (List.forall₂_same.mpr fun c hc => ⟨c.2, hcs.leads c hc, ?_, rfl⟩))
    exact ((hcs.lasts c.2).mp (List.mem_map_of_mem hc)).2
  · rw [hheld]
    dsimp only [Amount.ofUnits]
    omega
  · rw [hheld, toNat_tvl]
    dsimp only [Amount.ofUnits]
    omega

namespace TwoDeposits

def note (amount leaf : UInt64) (seed : UInt8) : Note :=
  { amount, k := Block.fill 31 seed, r := Block.fill 31 seed, leafIndex := leaf, txnId := some "T" }

def deposit (n : Note) : Step :=
  ⟨⟨n.leafIndex, n.commitment, "T", .deposit, n.amount, 0, none⟩, n, rfl⟩

def withdrawal (n spent : Note) (amount fee : UInt64) : Step :=
  ⟨⟨n.leafIndex, n.commitment, "T", .withdrawal, amount, fee, some spent.nullifier.bytes⟩, n, rfl⟩

def first : Note := note 5000000 0 1

def change : Note := note 3924700 1 2

def second : Note := note 1000000 2 3

def nothing : Note := note 0 3 4

def earlier : List Step := [deposit first, withdrawal change first 1000000 75300]

def history : List Step :=
  earlier ++ [deposit second] ++ [withdrawal nothing second 924700 75300]

def notes : List Note := [first, change, second, nothing]

theorem numbers :
    (notes.map Note.nullifierNat).Nodup ∧ (notes.map Note.commitmentNat).Nodup := by
  decide +kernel

theorem distinct : Distinct history := Note.nodup_nullifiers numbers.1

theorem commitments : (history.map (·.record.commitment)).Nodup :=
  Note.nodup_commitments numbers.2

theorem history_history : History history := by
  have hfirst : (withdrawal change first 1000000 75300).Draws (deposit first) :=
    ⟨⟨rfl, rfl⟩, by decide, by decide⟩
  have hsecond : (withdrawal nothing second 924700 75300).Draws (deposit second) :=
    ⟨⟨rfl, rfl⟩, by decide, by decide⟩
  have h₁ : History [deposit first] := History.start.step rfl (.deposit rfl rfl)
  have hfresh : Unspent [deposit first] (deposit first) := by
    rintro w hw ⟨htype, -⟩
    rw [List.mem_singleton.mp hw] at htype
    cases htype
  have h₂ : History earlier := h₁.step rfl
    (.withdrawal (List.mem_singleton.mpr rfl) hfresh hfirst)
  have h₃ : History (earlier ++ [deposit second]) := h₂.step rfl (.deposit rfl rfl)
  have hunspent : Unspent (earlier ++ [deposit second]) (deposit second) := by
    refine unspent_append.mpr ⟨h₂.unspent_new distinct.of_append, ?_⟩
    rintro ⟨htype, -⟩
    cases htype
  exact h₃.step rfl
    (.withdrawal List.mem_concat_self hunspent hsecond)

theorem writable : Writable history where
  amount := by decide
  fee := by decide
  commitments := commitments
  txns := by
    have htxns : ∀ e ∈ history, e.note.txnId = some "T" := by decide
    exact fun e he => ⟨"T", htxns e he⟩

theorem ends_account_for_two_deposits : ∃ s, Account history Writing.secret s ∧
    ∃ ends st, Funds.ends s.snapshot (openAll Writing.secret s.sealedNullifiers) = .ok ends ∧
      s.stats = .ok st ∧ List.Forall₂ (Reports history) (history.filter Step.isDeposit) ends ∧
      (ends.map fun found => found.2.held).sum + st.withdrawalTotal.units.toNat +
        st.feeTotal.units.toNat = st.depositTotal.units.toNat ∧
      st.tvl.units.toNat = (ends.map fun found => found.2.held).sum := by
  obtain ⟨s, hs⟩ := Writing.exists_holds history_history (by decide) writable
  have ha : Account history Writing.secret s :=
    ⟨history_history, distinct, hs.records, hs.opens, by decide, by decide⟩
  exact ⟨s, ha, ends_account_for_totals ha⟩

end TwoDeposits

end ShieldedPool.Funds
