import ShieldedPool.Proofs.Store.Registration

namespace ShieldedPool.Store

theorem pairwise_orderedInsert {α : Type} {key : α → Int} {row : α} {rows : List α}
    (h : rows.Pairwise (key · < key ·)) (hfree : ∀ x ∈ rows, key x ≠ key row) :
    (rows.orderedInsert (key · ≤ key ·) row).Pairwise (key · < key ·) := by
  induction h with
  | nil => exact List.pairwise_singleton _ _
  | @cons x rows hfirst hrest ih =>
    have hne := hfree x (List.mem_cons_self ..)
    rw [List.orderedInsert_cons]
    split
    case isTrue hle =>
      have hlt : key row < key x := by omega
      refine List.pairwise_cons.mpr ⟨fun y hy => ?_, List.pairwise_cons.mpr ⟨hfirst, hrest⟩⟩
      rcases List.mem_cons.mp hy with rfl | hy
      · exact hlt
      · exact Int.lt_trans hlt (hfirst y hy)
    case isFalse hle =>
      have hlater := ih fun y hy => hfree y (List.mem_cons_of_mem x hy)
      refine List.pairwise_cons.mpr ⟨fun y hy => ?_, hlater⟩
      rcases (List.mem_orderedInsert _).mp hy with rfl | hy
      · exact Int.not_le.mp hle
      · exact hfirst y hy

theorem find?_of_unique {α : Type} {rows : List α} {test : α → Bool} {row : α}
    (hmem : row ∈ rows) (htest : test row = true)
    (hunique : ∀ other ∈ rows, test other = true → other = row) : rows.find? test = some row := by
  cases hfind : rows.find? test with
  | none => exact absurd htest (List.find?_eq_none.mp hfind row hmem)
  | some other =>
    rw [hunique other (List.mem_of_find?_eq_some hfind) (List.find?_some hfind)]

def rowOf (t : TxnRecord) : TxnRow :=
  ⟨signed t.leafIndex, t.commitment.bytes, t.txnId, t.txnType.code, t.amount.toNat, t.fee.toNat,
    t.fromNullifier⟩

def post (t : TxnRecord) (s : Store) : Store :=
  { s with
    txns := s.txns.orderedInsert (·.leaf ≤ ·.leaf) (rowOf t)
    totals := (bumps t.txnType t.amount.toNat t.fee.toNat).foldl bump s.totals }

structure Posts (s : Store) (t : TxnRecord) : Prop where
  amount : t.amount.toNat < signedLimit
  fee : t.fee.toNat < signedLimit
  leaf : ∀ other ∈ s.txns, other.leaf ≠ (rowOf t).leaf
  commitment : ∀ other ∈ s.txns, other.commitment ≠ (rowOf t).commitment

theorem toInteger_eq_ok {field : String} {n : UInt64} {k : Int} (h : toInteger field n = .ok k) :
    n.toNat < signedLimit ∧ k = n.toNat := by
  unfold toInteger at h
  split at h
  case isTrue hlt =>
    cases h
    exact ⟨hlt, rfl⟩
  · cases h

theorem addTxn_eq_ok {s s' : Store} {row : TxnRow} (h : s.addTxn row = (.ok (), s')) :
    (∀ other ∈ s.txns, other.leaf ≠ row.leaf) ∧
      (∀ other ∈ s.txns, other.commitment ≠ row.commitment) ∧
        s' = { s with txns := s.txns.orderedInsert (·.leaf ≤ ·.leaf) row } := by
  unfold addTxn at h
  split at h
  · cases h
  case isFalse hleaf =>
    split at h
    · cases h
    case isFalse hcommitment =>
      cases h
      rw [insertBy_eq]
      exact ⟨not_any_iff.mp hleaf, not_any_iff.mp hcommitment, rfl⟩

theorem recordTxn_ok {s s' : Store} {t : TxnRecord} (h : s.recordTxn t = (.ok (), s')) :
    Posts s t ∧ s' = s.post t := by
  unfold recordTxn at h
  cases ha : toInteger "amount" t.amount with
  | error e => rw [ha] at h; cases h
  | ok amount =>
    rw [ha] at h
    dsimp only at h
    cases hf : toInteger "fee" t.fee with
    | error e => rw [hf] at h; cases h
    | ok fee =>
      rw [hf] at h
      dsimp only at h
      obtain ⟨hamount, rfl⟩ := toInteger_eq_ok ha
      obtain ⟨hfee, rfl⟩ := toInteger_eq_ok hf
      split at h
      · cases h
      case h_2 s₁ hadd =>
        cases h
        obtain ⟨hleaf, hcommitment, rfl⟩ := addTxn_eq_ok hadd
        exact ⟨⟨hamount, hfee, hleaf, hcommitment⟩, rfl⟩

theorem recordTxn_of {s : Store} {t : TxnRecord} (h : Posts s t) :
    s.recordTxn t = (.ok (), s.post t) := by
  have hadd : s.addTxn (rowOf t) =
      (.ok (), { s with txns := s.txns.orderedInsert (·.leaf ≤ ·.leaf) (rowOf t) }) := by
    unfold addTxn
    rw [if_neg (not_any_iff.mpr h.leaf), if_neg (not_any_iff.mpr h.commitment), insertBy_eq]
  unfold recordTxn toInteger
  rw [if_pos h.amount, if_pos h.fee]
  dsimp only
  unfold rowOf at hadd
  rw [hadd]
  rfl

theorem recordTxn_error {s s' : Store} {t : TxnRecord} {e : StoreError}
    (h : s.recordTxn t = (.error e, s')) : s' = s := by
  unfold recordTxn at h
  split at h
  · cases h; rfl
  · split at h
    · cases h; rfl
    · split at h
      · cases h; rfl
      · cases h

theorem recordTxn_cases (t : TxnRecord) (s : Store) :
    (∃ e, s.recordTxn t = (.error e, s)) ∨ Posts s t ∧ s.recordTxn t = (.ok (), s.post t) := by
  cases hr : s.recordTxn t with
  | mk r s' =>
    cases r with
    | error e => exact .inl ⟨e, by rw [recordTxn_error hr]⟩
    | ok u =>
      obtain ⟨hposts, rfl⟩ := recordTxn_ok hr
      exact .inr ⟨hposts, rfl⟩

theorem eq_of_pairwise_ne {α β : Type} {column : α → β} {rows : List α}
    (h : rows.Pairwise (column · ≠ column ·)) {x y : α} (hx : x ∈ rows) (hy : y ∈ rows)
    (heq : column x = column y) : x = y :=
  List.inj_on_of_nodup_map (List.pairwise_map.mpr h) hx hy heq

structure Ordered (s : Store) : Prop where
  ascending : s.pending.Pairwise (·.id < ·.id)
  positive : ∀ row ∈ s.pending, 0 < row.id
  leaves : ∀ t ∈ s.txns, ∃ leaf, t.leaf = signed leaf

theorem Ordered.nodup {s : Store} (h : Ordered s) : (s.pending.map (·.id)).Nodup := by
  rw [List.Nodup, List.pairwise_map]
  exact h.ascending.imp fun hlt => Int.ne_of_lt hlt

structure Keyed (s : Store) : Prop extends Ordered s where
  begun : 0 ≤ s.lastId
  notes : s.notes.Pairwise (·.leaf < ·.leaf)
  txns : s.txns.Pairwise (·.leaf < ·.leaf)
  commitments : s.txns.Pairwise (·.commitment ≠ ·.commitment)

theorem keyed_fresh (vault : Vault.PublicKey) : Keyed { vault } where
  ascending := .nil
  positive := by intro row hrow; cases hrow
  leaves := by intro t ht; cases ht
  begun := Int.le_refl 0
  notes := .nil
  txns := .nil
  commitments := .nil

variable {s : Store}

theorem Keyed.txn_eq_of_leaf (h : Keyed s) {t t' : TxnRow} (ht : t ∈ s.txns) (ht' : t' ∈ s.txns)
    (heq : t.leaf = t'.leaf) : t = t' :=
  eq_of_pairwise_ne (h.txns.imp Int.ne_of_lt) ht ht' heq

theorem Keyed.txn_eq_of_commitment (h : Keyed s) {t t' : TxnRow} (ht : t ∈ s.txns)
    (ht' : t' ∈ s.txns) (heq : t.commitment = t'.commitment) : t = t' :=
  eq_of_pairwise_ne h.commitments ht ht' heq

theorem Keyed.filter (h : Keyed s) (q : PendingRow → Bool) :
    Keyed { s with pending := s.pending.filter q } :=
  { h with
    ascending := h.ascending.filter q
    positive := fun row hrow => h.positive row (List.mem_filter.mp hrow).1 }

theorem Keyed.record (h : Keyed s) {row : NoteRow}
    (hfree : ∀ other ∈ s.notes, other.leaf ≠ row.leaf) :
    Keyed (s.record row) := by
  refine { h with notes := ?_ }
  rw [Store.record]
  exact pairwise_orderedInsert h.notes hfree

theorem Keyed.post (h : Keyed s) {t : TxnRecord} (hpost : Posts s t) : Keyed (s.post t) := by
  have hperm : (s.post t).txns.Perm (rowOf t :: s.txns) := by
    rw [Store.post]
    exact List.perm_orderedInsert _ _ _
  refine { h with leaves := ?_, txns := ?_, commitments := ?_ }
  · intro u hu
    rcases List.mem_cons.mp (hperm.mem_iff.mp hu) with rfl | hu
    · exact ⟨t.leafIndex, rfl⟩
    · exact h.leaves u hu
  · rw [Store.post]
    exact pairwise_orderedInsert h.txns hpost.leaf
  · refine hperm.symm.pairwise ?_ fun hne => hne.symm
    exact List.pairwise_cons.mpr ⟨fun other ho => (hpost.commitment other ho).symm, h.commitments⟩

theorem Keyed.enrol (h : Keyed s) {row : PendingRow}
    (hfresh : ∀ other ∈ s.pending, other.id < row.id) (hid : s.lastId < row.id) :
    Keyed (s.enrol row) := by
  have hbegun := h.begun
  refine { h with ascending := ?_, positive := ?_, begun := ?_ }
  · refine List.pairwise_append.mpr ⟨h.ascending, List.pairwise_singleton _ _, ?_⟩
    intro other ho x hx
    rw [List.mem_singleton.mp hx]
    exact hfresh other ho
  · intro other ho
    rcases List.mem_append.mp ho with ho | ho
    · exact h.positive other ho
    · rw [List.mem_singleton.mp ho]
      omega
  · exact Int.le_of_lt (Int.lt_of_le_of_lt hbegun hid)

end ShieldedPool.Store
