import ShieldedPool.Proofs.Store.Totals

namespace ShieldedPool.Store

inductive Written : List TxnRecord → List Note → Store → Prop
  | fresh (vault : Vault.PublicKey) : Written [] [] { vault }
  | record {ts : List TxnRecord} {ns : List Note} {s s' : Store} {t : TxnRecord} :
      Written ts ns s → s.recordTxn t = (.ok (), s') → Written (t :: ts) ns s'
  | save {ts : List TxnRecord} {ns : List Note} {s s' : Store} {n : Note}
      {source source' : Random.Source} :
      Written ts ns s → s.saveNote n source = (.ok (), s', source') → Written ts (n :: ns) s'
  | keep {ts : List TxnRecord} {ns : List Note} {s s' : Store} :
      Written ts ns s → s'.notes = s.notes → s'.txns = s.txns → s'.totals = s.totals →
      Written ts ns s'

theorem eq_of_ascending {α : Type} (key : α → Int) {as bs : List α}
    (ha : as.Pairwise (key · < key ·)) (hb : bs.Pairwise (key · < key ·)) (hperm : as.Perm bs) :
    as = bs :=
  hperm.eq_of_pairwise (fun _ _ _ _ hlt hgt => absurd hgt (Int.lt_asymm hlt)) ha hb

namespace Written

variable {ts us : List TxnRecord} {ns ms : List Note} {s : Store}

theorem txns (h : Written ts ns s) :
    s.txns.Pairwise (·.leaf < ·.leaf) ∧ s.txns.Perm (ts.map rowOf) := by
  induction h with
  | fresh => exact ⟨.nil, .nil⟩
  | save _ hsave ih =>
    obtain ⟨row, -, rfl⟩ := saveNote_ok hsave
    exact ih
  | keep _ _ htxns _ ih => rwa [htxns]
  | @record ts ns s s' t _ hrecord ih =>
    obtain ⟨hposts, rfl⟩ := recordTxn_ok hrecord
    obtain ⟨hsorted, hperm⟩ := ih
    rw [post]
    exact ⟨pairwise_orderedInsert hsorted hposts.leaf,
      (List.perm_orderedInsert _ _ _).trans (hperm.cons (rowOf t))⟩

theorem notes (h : Written ts ns s) :
    s.notes.Pairwise (·.leaf < ·.leaf) ∧
      (s.notes.map NoteRow.leaf).Perm (ns.map fun n => signed n.leafIndex) := by
  induction h with
  | fresh => exact ⟨.nil, .nil⟩
  | record _ hrecord ih =>
    obtain ⟨-, rfl⟩ := recordTxn_ok hrecord
    exact ih
  | keep _ hnotes _ _ ih => rwa [hnotes]
  | @save ts ns s s' n _ _ _ hsave ih =>
    obtain ⟨row, hsaves, rfl⟩ := saveNote_ok hsave
    obtain ⟨hsorted, hperm⟩ := ih
    have hrow := (List.perm_orderedInsert (fun a b : NoteRow => a.leaf ≤ b.leaf) row s.notes).map
      NoteRow.leaf
    rw [Store.record]
    refine ⟨pairwise_orderedInsert hsorted hsaves.free, hrow.trans ?_⟩
    rw [List.map_cons, hsaves.leaf, List.map_cons]
    exact hperm.cons _

theorem standsAt (h : Written ts ns s) {key : String}
    (hroom : (ts.map (share key)).sum < signedLimit) :
    StandsAt s.totals key (ts.map (share key)).sum := by
  induction h with
  | fresh => exact .inr ⟨rfl, rfl⟩
  | save _ hsave ih =>
    obtain ⟨row, -, rfl⟩ := saveNote_ok hsave
    exact ih hroom
  | keep _ _ _ htotals ih =>
    rw [htotals]
    exact ih hroom
  | record _ hrecord ih =>
    obtain ⟨-, rfl⟩ := recordTxn_ok hrecord
    rw [List.map_cons, List.sum_cons, Nat.add_comm] at hroom ⊢
    exact (ih (by omega)).post hroom

theorem txns_eq (h : Written ts ns s) (hperm : ts.Perm us)
    (hsorted : us.Pairwise fun t u => signed t.leafIndex < signed u.leafIndex) :
    s.txns = us.map rowOf := by
  obtain ⟨hrows, hts⟩ := h.txns
  have hus : (us.map rowOf).Pairwise (·.leaf < ·.leaf) := List.pairwise_map.mpr hsorted
  exact eq_of_ascending TxnRow.leaf hrows hus (hts.trans (hperm.map rowOf))

theorem leaves_eq (h : Written ts ns s) (hperm : ns.Perm ms)
    (hsorted : ms.Pairwise fun n m => signed n.leafIndex < signed m.leafIndex) :
    s.notes.map NoteRow.leaf = ms.map fun n => signed n.leafIndex := by
  obtain ⟨hrows, hns⟩ := h.notes
  exact eq_of_ascending id (List.pairwise_map.mpr hrows) (List.pairwise_map.mpr hsorted)
    (hns.trans (hperm.map _))

theorem total (h : Written ts ns s) (hperm : ts.Perm us) {key : String}
    (hroom : (us.map (share key)).sum < signedLimit) :
    s.total key = .ok (UInt64.ofNat (us.map (share key)).sum) := by
  have hsum := (hperm.map (share key)).sum_nat
  rw [← hsum] at hroom ⊢
  exact (h.standsAt hroom).total

end Written

theorem toTxnType_code (t : TxnType) : toTxnType t.code = .ok t := by
  cases t <;> rfl

theorem rowOf_deposit_iff {t : TxnRecord} : (rowOf t).txnType = 0 ↔ t.txnType = .deposit := by
  unfold rowOf
  cases t.txnType <;> simp [TxnType.code]

theorem rowOf_spends_iff {t : TxnRecord} {nullifier : Bytes} :
    ((rowOf t).txnType = 1 ∧ (rowOf t).fromNullifier = some nullifier) ↔
      t.txnType = .withdrawal ∧ t.fromNullifier = some nullifier := by
  unfold rowOf
  cases t.txnType <;> simp [TxnType.code]

theorem toRecord_rowOf {t : TxnRecord} (h : t.leafIndex.toNat < signedLimit) :
    (rowOf t).toRecord = .ok t := by
  have hunsigned (field : String) (n : UInt64) : toUnsigned field n.toNat = .ok n := by
    rw [toUnsigned, if_neg (Int.not_lt.mpr (Int.natCast_nonneg _)), Int.toNat_natCast,
      UInt64.ofNat_toNat]
  unfold TxnRow.toRecord rowOf
  dsimp only
  rw [signed, if_pos h, toTxnType_code, hunsigned, hunsigned, hunsigned, toWord_bytes]
  rfl

end ShieldedPool.Store
