import ShieldedPool.Proofs.Store.Written

namespace ShieldedPool.Store

def recordAll : List TxnRecord → Store → Store
  | [], s => s
  | t :: ts, s => recordAll ts (s.recordTxn t).2

def accepted : List TxnRecord → Store → List TxnRecord
  | [], _ => []
  | t :: ts, s =>
    match (s.recordTxn t).1 with
    | .ok () => t :: accepted ts (s.recordTxn t).2
    | .error _ => accepted ts (s.recordTxn t).2

def depositsOf (ts : List TxnRecord) : List TxnRecord := ts.filter (·.txnType = .deposit)

def withdrawalsOf (ts : List TxnRecord) : List TxnRecord := ts.filter (·.txnType = .withdrawal)

def sumOf (number : TxnRecord → UInt64) (ts : List TxnRecord) : Nat :=
  (ts.map fun t => (number t).toNat).sum

structure Room (ts : List TxnRecord) : Prop where
  leaves : ∀ t ∈ ts, t.leafIndex.toNat < signedLimit
  deposited : sumOf TxnRecord.amount (depositsOf ts) < signedLimit
  withdrawn : sumOf TxnRecord.amount (withdrawalsOf ts) < signedLimit
  paid : sumOf TxnRecord.fee (withdrawalsOf ts) < signedLimit
  counted : (depositsOf ts).length < signedLimit

structure Sums (ts : List TxnRecord) (st : Stats) : Prop where
  depositTotal : st.depositTotal.units.toNat = sumOf TxnRecord.amount (depositsOf ts)
  withdrawalTotal : st.withdrawalTotal.units.toNat = sumOf TxnRecord.amount (withdrawalsOf ts)
  feeTotal : st.feeTotal.units.toNat = sumOf TxnRecord.fee (withdrawalsOf ts)
  depositCount : st.depositCount.toNat = (depositsOf ts).length
  noteCount : st.noteCount.toNat = ts.length
  spentNoteCount : st.spentNoteCount.toNat = (withdrawalsOf ts).length

def tally (ts : List TxnRecord) : Stats where
  depositTotal := Amount.ofUnits (UInt64.ofNat (sumOf TxnRecord.amount (depositsOf ts)))
  withdrawalTotal := Amount.ofUnits (UInt64.ofNat (sumOf TxnRecord.amount (withdrawalsOf ts)))
  feeTotal := Amount.ofUnits (UInt64.ofNat (sumOf TxnRecord.fee (withdrawalsOf ts)))
  depositCount := UInt64.ofNat (depositsOf ts).length
  noteCount := UInt64.ofNat ts.length

structure Admits (ts : List TxnRecord) (t : TxnRecord) : Prop where
  amount : t.amount.toNat < signedLimit
  fee : t.fee.toNat < signedLimit
  leaf : ∀ u ∈ ts, u.leafIndex ≠ t.leafIndex
  commitment : ∀ u ∈ ts, u.commitment ≠ t.commitment

structure Recorded (ts : List TxnRecord) (s : Store) : Prop where
  -- `Written` has the newest first, `ts` the oldest.
  written : Written ts.reverse [] s
  leaves : ts.Pairwise (·.leafIndex ≠ ·.leafIndex)
  commitments : ts.Pairwise (·.commitment ≠ ·.commitment)

structure Tallies (ts : List TxnRecord) (s : Store) : Prop where
  rows : s.txns.Perm (ts.map rowOf)
  leaves : ts.Pairwise (·.leafIndex ≠ ·.leafIndex)
  commitments : ts.Pairwise (·.commitment ≠ ·.commitment)
  stats : ∃ st, s.stats = .ok st ∧ Sums ts st

section Sums

variable {ts us : List TxnRecord}

theorem sum_share {key : String} {p : TxnRecord → Bool} {f : TxnRecord → Nat}
    (h : ∀ t, share key t = if p t then f t else 0) (ts : List TxnRecord) :
    (ts.map (share key)).sum = ((ts.filter p).map f).sum := by
  induction ts with
  | nil => rfl
  | cons t ts ih =>
    cases hp : p t <;> simp [h t, hp, ih]

theorem sum_deposits (ts : List TxnRecord) :
    (ts.map (share "total_deposits")).sum = sumOf TxnRecord.amount (depositsOf ts) := by
  refine sum_share (fun t => ?_) ts
  cases htype : t.txnType <;> simp [share, htype]

theorem sum_withdrawals (ts : List TxnRecord) :
    (ts.map (share "total_withdrawals")).sum = sumOf TxnRecord.amount (withdrawalsOf ts) := by
  refine sum_share (fun t => ?_) ts
  cases htype : t.txnType <;> simp [share, htype]

theorem sum_fees (ts : List TxnRecord) :
    (ts.map (share "total_fees")).sum = sumOf TxnRecord.fee (withdrawalsOf ts) := by
  refine sum_share (fun t => ?_) ts
  cases htype : t.txnType <;> simp [share, htype]

theorem sum_count (ts : List TxnRecord) :
    (ts.map (share "count_deposits")).sum = (depositsOf ts).length := by
  have hshare (t : TxnRecord) :
      share "count_deposits" t = if decide (t.txnType = .deposit) then 1 else 0 := by
    cases htype : t.txnType <;> simp [share, htype]
  simpa [depositsOf] using sum_share hshare ts

theorem length_deposits_add_withdrawals (ts : List TxnRecord) :
    (depositsOf ts).length + (withdrawalsOf ts).length = ts.length := by
  induction ts with
  | nil => rfl
  | cons t ts ih =>
    cases htype : t.txnType <;> simp [depositsOf, withdrawalsOf, htype] at ih ⊢ <;> omega

theorem Room.of_append (h : Room (ts ++ us)) : Room ts := by
  obtain ⟨hleaves, hdeposited, hwithdrawn, hpaid, hcounted⟩ := h
  simp only [depositsOf, withdrawalsOf, sumOf, List.filter_append, List.map_append,
    List.sum_append, List.length_append] at hdeposited hwithdrawn hpaid hcounted
  refine ⟨fun t ht => hleaves t (List.mem_append_left us ht), ?_, ?_, ?_, ?_⟩ <;>
    simp only [depositsOf, withdrawalsOf, sumOf] <;> omega

theorem Room.length_le (h : Room ts) (hleaves : ts.Pairwise (·.leafIndex ≠ ·.leafIndex)) :
    ts.length ≤ signedLimit := by
  have hnodup : (ts.map fun t => t.leafIndex.toNat).Nodup := by
    rw [List.Nodup, List.pairwise_map]
    exact hleaves.imp fun hne heq => hne (UInt64.toNat_inj.mp heq)
  have hsub : (ts.map fun t => t.leafIndex.toNat) ⊆ List.range signedLimit := by
    intro leaf hleaf
    obtain ⟨t, ht, rfl⟩ := List.mem_map.mp hleaf
    exact List.mem_range.mpr (h.leaves t ht)
  have hle := (List.subperm_of_subset hnodup hsub).length_le
  rwa [List.length_map, List.length_range] at hle

end Sums

section Runs

variable {ts : List TxnRecord} {s : Store} {t : TxnRecord}

theorem recorded_fresh (vault : Vault.PublicKey) : Recorded [] { vault } :=
  ⟨.fresh vault, .nil, .nil⟩

theorem signed_inj {a b : UInt64} : signed a = signed b ↔ a = b :=
  ⟨fun h => by_contra fun hne => signed_ne hne h, congrArg signed⟩

theorem Recorded.rows (h : Recorded ts s) : s.txns.Perm (ts.map rowOf) :=
  h.written.txns.2.trans ((List.reverse_perm ts).map rowOf)

theorem Recorded.posts_iff (h : Recorded ts s) : Posts s t ↔ Admits ts t := by
  have hrow {p : TxnRow → Prop} : (∀ row ∈ s.txns, p row) ↔ ∀ u ∈ ts, p (rowOf u) := by
    simp only [h.rows.mem_iff, List.mem_map, forall_exists_index, and_imp,
      forall_apply_eq_imp_iff₂]
  have hleaf (u : TxnRecord) : (rowOf u).leaf ≠ (rowOf t).leaf ↔ u.leafIndex ≠ t.leafIndex :=
    not_congr signed_inj
  have hcommitment (u : TxnRecord) :
      (rowOf u).commitment ≠ (rowOf t).commitment ↔ u.commitment ≠ t.commitment :=
    not_congr ⟨Block.eq_of_bytes_eq, congrArg Block.bytes⟩
  constructor
  · rintro ⟨hamount, hfee, hleaves, hcommitments⟩
    exact ⟨hamount, hfee, fun u hu => (hleaf u).mp (hrow.mp hleaves u hu),
      fun u hu => (hcommitment u).mp (hrow.mp hcommitments u hu)⟩
  · rintro ⟨hamount, hfee, hleaves, hcommitments⟩
    exact ⟨hamount, hfee, hrow.mpr fun u hu => (hleaf u).mpr (hleaves u hu),
      hrow.mpr fun u hu => (hcommitment u).mpr (hcommitments u hu)⟩

theorem Recorded.answer (h : Recorded ts s) (t : TxnRecord) :
    Admits ts t ∧ s.recordTxn t = (.ok (), s.post t) ∨
      ¬ Admits ts t ∧ ∃ e, s.recordTxn t = (.error e, s) := by
  by_cases hadmits : Admits ts t
  · exact .inl ⟨hadmits, recordTxn_of (h.posts_iff.mpr hadmits)⟩
  · rcases recordTxn_cases t s with ⟨e, hr⟩ | ⟨hposts, -⟩
    · exact .inr ⟨hadmits, e, hr⟩
    · exact absurd (h.posts_iff.mp hposts) hadmits

theorem Recorded.post (h : Recorded ts s) (hadmits : Admits ts t) :
    Recorded (ts ++ [t]) (s.post t) := by
  constructor
  · rw [List.reverse_append]
    exact h.written.record (recordTxn_of (h.posts_iff.mpr hadmits))
  · have hnew : ∀ u ∈ ts, ∀ x ∈ [t], u.leafIndex ≠ x.leafIndex := by simpa using hadmits.leaf
    exact List.pairwise_append.mpr ⟨h.leaves, List.pairwise_singleton _ t, hnew⟩
  · have hnew : ∀ u ∈ ts, ∀ x ∈ [t], u.commitment ≠ x.commitment := by
      simpa using hadmits.commitment
    exact List.pairwise_append.mpr ⟨h.commitments, List.pairwise_singleton _ t, hnew⟩

theorem Recorded.all (h : Recorded ts s) (calls : List TxnRecord) :
    Recorded (ts ++ accepted calls s) (recordAll calls s) := by
  induction calls generalizing ts s with
  | nil => simpa [accepted, recordAll] using h
  | cons t calls ih =>
    rcases h.answer t with ⟨hadmits, hr⟩ | ⟨-, e, hr⟩
    · simpa [accepted, recordAll, hr] using ih (h.post hadmits)
    · simpa [accepted, recordAll, hr] using ih h

theorem accepted_append (done rest : List TxnRecord) (s : Store) :
    accepted (done ++ rest) s = accepted done s ++ accepted rest (recordAll done s) := by
  induction done generalizing s with
  | nil => rfl
  | cons t done ih =>
    simp only [List.cons_append, accepted, recordAll, ih]
    cases (s.recordTxn t).1 <;> rfl

theorem Recorded.stats_eq (h : Recorded ts s) (hroom : Room ts) : s.stats = .ok (tally ts) := by
  have htotal {key : String} {n : Nat} (hsum : (ts.map (share key)).sum = n)
      (hn : n < signedLimit) : s.total key = .ok (UInt64.ofNat n) := by
    subst hsum
    exact h.written.total (List.reverse_perm ts) hn
  have hlength : s.txns.length = ts.length := by simpa using h.rows.length_eq
  unfold Store.stats
  rw [htotal (sum_deposits ts) hroom.deposited, htotal (sum_withdrawals ts) hroom.withdrawn,
    htotal (sum_fees ts) hroom.paid, htotal (sum_count ts) hroom.counted, hlength]
  rfl

theorem sums_tally (h : Room ts) (hleaves : ts.Pairwise (·.leafIndex ≠ ·.leafIndex)) :
    Sums ts (tally ts) := by
  have hfit {n : Nat} (hn : n ≤ signedLimit) : (UInt64.ofNat n).toNat = n :=
    UInt64.toNat_ofNat_of_lt' (Nat.lt_of_le_of_lt hn (by decide))
  have hnotes := hfit (h.length_le hleaves)
  have hdeposits := hfit h.counted.le
  refine ⟨hfit h.deposited.le, hfit h.withdrawn.le, hfit h.paid.le, hdeposits, hnotes, ?_⟩
  have hsplit := length_deposits_add_withdrawals ts
  rw [Stats.spentNoteCount, Stats.toNat_minus, tally, hnotes, hdeposits]
  omega

end Runs

theorem recordings_tallied (vault : Vault.PublicKey) {calls : List TxnRecord}
    (h : Room (accepted calls { vault })) :
    (∀ done t rest, calls = done ++ t :: rest →
      Admits (accepted done { vault }) t ∧ ((recordAll done { vault }).recordTxn t).1 = .ok () ∨
        ¬ Admits (accepted done { vault }) t ∧
          ∃ e, (recordAll done { vault }).recordTxn t = (.error e, recordAll done { vault })) ∧
      ∀ done rest, calls = done ++ rest →
        Tallies (accepted done { vault }) (recordAll done { vault }) := by
  have hrecorded (done : List TxnRecord) :
      Recorded (accepted done { vault }) (recordAll done { vault }) :=
    (recorded_fresh vault).all done
  constructor
  · intro done t rest hsplit
    rcases (hrecorded done).answer t with ⟨hadmits, hr⟩ | hrefused
    · exact .inl ⟨hadmits, by rw [hr]⟩
    · exact .inr hrefused
  · intro done rest hsplit
    rw [hsplit, accepted_append] at h
    have hdone := hrecorded done
    exact ⟨hdone.rows, hdone.leaves, hdone.commitments, tally _, hdone.stats_eq h.of_append,
      sums_tally h.of_append hdone.leaves⟩

namespace MixedCalls

def vault : Vault.PublicKey := ⟨Block.zero 32⟩

def spent : TxnRecord := ⟨7, Block.fill 32 1, "W", .withdrawal, 10, 1, some [9]⟩

def paid : TxnRecord := ⟨0, Block.fill 32 2, "D", .deposit, 50, 0, none⟩

def calls : List TxnRecord :=
  [{ paid with amount := 9223372036854775808 }, spent, { paid with leafIndex := 7 },
    { paid with commitment := Block.fill 32 1 }, paid]

theorem accepted_calls : accepted calls { vault } = [spent, paid] := by decide +kernel

theorem recordings_tallied_mixed : Room (accepted calls { vault }) ∧
    Tallies [spent, paid] (recordAll calls { vault }) ∧
    ¬ Admits [spent] { paid with leafIndex := 7 } := by
  have hroom : Room (accepted calls { vault }) := by
    rw [accepted_calls]
    constructor <;> decide
  obtain ⟨-, htallies⟩ := recordings_tallied vault hroom
  have hall := htallies calls [] (List.append_nil calls).symm
  rw [accepted_calls] at hall
  exact ⟨hroom, hall, fun h => h.leaf spent List.mem_cons_self rfl⟩

end MixedCalls

end ShieldedPool.Store
