import ShieldedPool.Proofs.Store.Recording
import ShieldedPool.Store.Basic

namespace ShieldedPool.Store

def byLeaf (ts : List TxnRecord) : List TxnRecord :=
  ts.insertionSort (·.leafIndex ≤ ·.leafIndex)

def LeafFits (t : TxnRecord) : Prop := t.leafIndex.toNat < signedLimit

instance (t : TxnRecord) : Decidable (LeafFits t) := inferInstanceAs (Decidable (_ < _))

def fitting (ts : List TxnRecord) : List TxnRecord := ts.filter (LeafFits ·)

def beyond (ts : List TxnRecord) : List TxnRecord := ts.filter (¬ LeafFits ·)

def stored (ts : List TxnRecord) : List TxnRecord := byLeaf (beyond ts) ++ byLeaf (fitting ts)

def leafFault (t : TxnRecord) : StoreError :=
  .malformed (.negative "leaf_index" (signed t.leafIndex))

def Alone (ts : List TxnRecord) (t : TxnRecord) (nullifier : Bytes) : Prop :=
  t ∈ withdrawalsOf ts ∧ t.fromNullifier = some nullifier ∧
    ∀ u ∈ withdrawalsOf ts, u.fromNullifier = some nullifier → u = t

section Order

variable {ts : List TxnRecord}

theorem perm_byLeaf (ts : List TxnRecord) : (byLeaf ts).Perm ts := List.perm_insertionSort _ ts

theorem pairwise_byLeaf (h : ts.Pairwise (·.leafIndex ≠ ·.leafIndex)) :
    (byLeaf ts).Pairwise (·.leafIndex < ·.leafIndex) := by
  let before (t u : TxnRecord) : Prop := t.leafIndex ≤ u.leafIndex
  have : Std.Total before := ⟨fun t u => UInt64.le_total t.leafIndex u.leafIndex⟩
  have : IsTrans TxnRecord before := ⟨fun _ _ _ => UInt64.le_trans⟩
  have hsorted : (byLeaf ts).Pairwise before := List.pairwise_insertionSort before ts
  have hne : (byLeaf ts).Pairwise (·.leafIndex ≠ ·.leafIndex) :=
    h.perm (perm_byLeaf ts).symm Ne.symm
  exact hsorted.imp₂ (fun _ _ hle hne => UInt64.lt_of_le_of_ne hle hne) hne

theorem perm_stored (ts : List TxnRecord) : (stored ts).Perm ts := by
  have hparts : (beyond ts ++ fitting ts).Perm ts := by
    simpa [beyond, fitting] using
      List.perm_append_comm.trans (List.filter_append_perm (fun t => decide (LeafFits t)) ts)
  exact ((perm_byLeaf _).append (perm_byLeaf _)).trans hparts

theorem signed_of_fits {t : TxnRecord} (h : LeafFits t) : signed t.leafIndex = t.leafIndex.toNat :=
  if_pos h

theorem signed_of_not_fits {t : TxnRecord} (h : ¬ LeafFits t) :
    signed t.leafIndex = (t.leafIndex.toNat : Int) - UInt64.size := if_neg h

theorem signed_neg {t : TxnRecord} (h : ¬ LeafFits t) : signed t.leafIndex < 0 := by
  rw [signed_of_not_fits h]
  have := t.leafIndex.toNat_lt
  have : UInt64.size = 18446744073709551616 := rfl
  omega

theorem pairwise_stored (h : ts.Pairwise (·.leafIndex ≠ ·.leafIndex)) :
    (stored ts).Pairwise (signed ·.leafIndex < signed ·.leafIndex) := by
  have hbeyond : ∀ t ∈ byLeaf (beyond ts), ¬ LeafFits t := by
    intro t ht
    simpa using (List.mem_filter.mp ((perm_byLeaf _).mem_iff.mp ht)).2
  have hfitting : ∀ t ∈ byLeaf (fitting ts), LeafFits t := by
    intro t ht
    simpa using (List.mem_filter.mp ((perm_byLeaf _).mem_iff.mp ht)).2
  refine List.pairwise_append.mpr ⟨?_, ?_, fun t ht u hu => ?_⟩
  · refine (pairwise_byLeaf (h.filter _)).imp_of_mem fun ht hu hlt => ?_
    rw [signed_of_not_fits (hbeyond _ ht), signed_of_not_fits (hbeyond _ hu)]
    have := UInt64.lt_iff_toNat_lt.mp hlt
    omega
  · refine (pairwise_byLeaf (h.filter _)).imp_of_mem fun ht hu hlt => ?_
    rw [signed_of_fits (hfitting _ ht), signed_of_fits (hfitting _ hu)]
    have := UInt64.lt_iff_toNat_lt.mp hlt
    omega
  · -- Every key of the first part is negative, none of the second is.
    have := signed_neg (hbeyond t ht)
    rw [signed_of_fits (hfitting u hu)]
    omega

theorem rows_eq_stored {rows : List TxnRow} (hsorted : rows.Pairwise (·.leaf < ·.leaf))
    (hperm : rows.Perm (ts.map rowOf)) (hleaves : ts.Pairwise (·.leafIndex ≠ ·.leafIndex)) :
    rows = (stored ts).map rowOf := by
  have hstored : ((stored ts).map rowOf).Pairwise (·.leaf < ·.leaf) :=
    List.pairwise_map.mpr (pairwise_stored hleaves)
  exact eq_of_ascending TxnRow.leaf hsorted hstored
    (hperm.trans ((perm_stored ts).symm.map rowOf))

theorem stored_of_fits (h : ∀ t ∈ ts, LeafFits t) : stored ts = byLeaf ts := by
  have hbeyond : beyond ts = [] := by simpa [beyond] using h
  have hfitting : fitting ts = ts := by simpa [fitting] using h
  rw [stored, hbeyond, hfitting]
  rfl

theorem stored_of_beyond (h : ∀ t ∈ ts, ¬ LeafFits t) : stored ts = byLeaf ts := by
  have hbeyond : beyond ts = ts := by simpa [beyond] using h
  have hfitting : fitting ts = [] := by simpa [fitting] using h
  rw [stored, hbeyond, hfitting]
  exact List.append_nil _

theorem stored_eq_byLeaf_iff (h : ts.Pairwise (·.leafIndex ≠ ·.leafIndex)) :
    stored ts = byLeaf ts ↔ (∀ t ∈ ts, LeafFits t) ∨ ∀ t ∈ ts, ¬ LeafFits t := by
  constructor
  · intro heq
    by_contra hmixed
    simp only [not_or, not_forall, not_not] at hmixed
    obtain ⟨⟨t, ht, hbeyond⟩, u, hu, hfits⟩ := hmixed
    have hrow : t ∈ byLeaf (beyond ts) :=
      (perm_byLeaf _).mem_iff.mpr (List.mem_filter.mpr ⟨ht, by simpa using hbeyond⟩)
    have hlater : u ∈ byLeaf (fitting ts) :=
      (perm_byLeaf _).mem_iff.mpr (List.mem_filter.mpr ⟨hu, by simpa using hfits⟩)
    have hsorted := pairwise_byLeaf h
    rw [← heq, stored] at hsorted
    have hlt := UInt64.lt_iff_toNat_lt.mp ((List.pairwise_append.mp hsorted).2.2 t hrow u hlater)
    exact hbeyond (Nat.lt_trans hlt hfits)
  · rintro (hall | hnone)
    · exact stored_of_fits hall
    · exact stored_of_beyond hnone

end Order

section Readers

variable {ts us : List TxnRecord} {s : Store} {t : TxnRecord}

theorem toRecord_beyond (h : ¬ LeafFits t) : (rowOf t).toRecord = .error (leafFault t) := by
  unfold TxnRow.toRecord rowOf
  dsimp only
  rw [toTxnType_code, toUnsigned, if_pos (signed_neg h)]
  rfl

theorem records_of_fits (h : ∀ t ∈ us, LeafFits t) :
    (us.map rowOf).mapM TxnRow.toRecord = .ok us := by
  rw [mapM_eq_ok_iff, List.forall₂_map_left_iff, List.forall₂_same]
  exact fun t ht => toRecord_rowOf (h t ht)

theorem Recorded.txns_eq (h : Recorded ts s) : s.txns = (stored ts).map rowOf :=
  rows_eq_stored h.written.txns.1 h.rows h.leaves

theorem Recorded.deposits_eq (h : Recorded ts s) :
    s.txns.filter (·.txnType = 0) = (stored (depositsOf ts)).map rowOf := by
  have hfilter : (ts.map rowOf).filter (·.txnType = 0) = (depositsOf ts).map rowOf := by
    rw [List.filter_map, depositsOf]
    congr 1
    exact List.filter_congr fun t _ => decide_eq_decide.mpr rowOf_deposit_iff
  refine rows_eq_stored (h.written.txns.1.filter _) ?_ (h.leaves.filter _)
  rw [← hfilter]
  exact h.rows.filter _

theorem Recorded.deposits_cases (h : Recorded ts s) :
    (∀ t ∈ depositsOf ts, LeafFits t) ∧ s.deposits = .ok (byLeaf (depositsOf ts)) ∨
      ∃ t ∈ depositsOf ts, ¬ LeafFits t ∧ s.deposits = .error (leafFault t) := by
  unfold Store.deposits
  rw [h.deposits_eq]
  by_cases hall : ∀ t ∈ depositsOf ts, LeafFits t
  · refine .inl ⟨hall, ?_⟩
    rw [stored_of_fits hall]
    exact records_of_fits fun t ht => hall t ((perm_byLeaf _).mem_iff.mp ht)
  · -- The rows with negative leaves come first.
    right
    cases hbeyond : byLeaf (beyond (depositsOf ts)) with
    | nil =>
      have hnone : beyond (depositsOf ts) = [] := by
        simpa [hbeyond] using (perm_byLeaf (beyond (depositsOf ts))).symm
      exact absurd (by simpa [beyond] using hnone) hall
    | cons t later =>
      have hmem : t ∈ beyond (depositsOf ts) :=
        (perm_byLeaf _).mem_iff.mp (hbeyond ▸ List.mem_cons_self ..)
      obtain ⟨ht, hnot⟩ := List.mem_filter.mp hmem
      have hnot : ¬ LeafFits t := by simpa using hnot
      refine ⟨t, ht, hnot, ?_⟩
      rw [stored, hbeyond, List.cons_append, List.map_cons, List.mapM_cons, toRecord_beyond hnot]
      rfl

theorem Recorded.mem_txns (h : Recorded ts s) {row : TxnRow} :
    row ∈ s.txns ↔ ∃ t ∈ ts, rowOf t = row := by
  rw [h.rows.mem_iff, List.mem_map]

theorem Recorded.txnOf_eq (h : Recorded ts s) (ht : t ∈ ts) :
    s.txnOf t.commitment = .ok (t.leafIndex, t.txnId) := by
  have hfind : s.txns.find? (·.commitment = t.commitment.bytes) = some (rowOf t) := by
    refine find?_of_unique (h.mem_txns.mpr ⟨t, ht, rfl⟩) (decide_eq_true rfl) ?_
    intro other hother hsame
    obtain ⟨u, hu, rfl⟩ := h.mem_txns.mp hother
    have hbytes : u.commitment.bytes = t.commitment.bytes := of_decide_eq_true hsame
    rw [eq_of_pairwise_ne h.commitments hu ht (Block.eq_of_bytes_eq hbytes)]
  unfold Store.txnOf
  rw [hfind]
  dsimp only [rowOf]
  rw [unsigned_signed]

theorem Recorded.spentBy_eq (h : Recorded ts s) {n : Bytes} (ht : Alone ts t n) :
    s.spentBy n = if LeafFits t then .ok (some t) else .error (leafFault t) := by
  obtain ⟨hmem, hn, hunique⟩ := ht
  obtain ⟨hmem, htype⟩ := List.mem_filter.mp hmem
  have hfind : (s.txns.find? fun row => row.txnType = 1 ∧ row.fromNullifier = some n) =
      some (rowOf t) := by
    refine find?_of_unique (h.mem_txns.mpr ⟨t, hmem, rfl⟩) ?_ ?_
    · exact decide_eq_true (rowOf_spends_iff.mpr ⟨of_decide_eq_true htype, hn⟩)
    · intro other hother hspends
      obtain ⟨u, hu, rfl⟩ := h.mem_txns.mp hother
      obtain ⟨hutype, hun⟩ := rowOf_spends_iff.mp (of_decide_eq_true hspends)
      rw [hunique u (List.mem_filter.mpr ⟨hu, decide_eq_true hutype⟩) hun]
  unfold Store.spentBy
  rw [hfind]
  dsimp only
  by_cases hfits : LeafFits t
  · rw [if_pos hfits, toRecord_rowOf hfits]
    rfl
  · rw [if_neg hfits, toRecord_beyond hfits]
    rfl

theorem Recorded.commitments_eq (h : Recorded ts s) :
    s.commitments = .ok ((stored ts).map (·.commitment)) := by
  rw [commitments_eq_ok, h.txns_eq, List.forall₂_map_left_iff, List.forall₂_map_right_iff,
    List.forall₂_same]
  exact fun t _ => rfl

theorem eq_of_commitments (hts : ts.Pairwise (·.commitment ≠ ·.commitment))
    {xs ys : List TxnRecord} (hxs : ∀ x ∈ xs, x ∈ ts) (hys : ∀ y ∈ ys, y ∈ ts)
    (h : xs.map (·.commitment) = ys.map (·.commitment)) : xs = ys := by
  induction xs generalizing ys with
  | nil =>
    cases ys with
    | nil => rfl
    | cons y ys => cases h
  | cons x xs ih =>
    cases ys with
    | nil => cases h
    | cons y ys =>
      obtain ⟨hhead, htail⟩ := List.cons_eq_cons.mp h
      obtain ⟨hx, hxs⟩ := List.forall_mem_cons.mp hxs
      obtain ⟨hy, hys⟩ := List.forall_mem_cons.mp hys
      rw [eq_of_pairwise_ne hts hx hy hhead, ih hxs hys htail]

theorem Recorded.commitments_byLeaf_iff (h : Recorded ts s) :
    s.commitments = .ok ((byLeaf ts).map (·.commitment)) ↔
      (∀ t ∈ ts, LeafFits t) ∨ ∀ t ∈ ts, ¬ LeafFits t := by
  rw [h.commitments_eq, ← stored_eq_byLeaf_iff h.leaves]
  constructor
  · intro heq
    exact eq_of_commitments h.commitments (fun t ht => (perm_stored ts).mem_iff.mp ht)
      (fun t ht => (perm_byLeaf ts).mem_iff.mp ht) (Except.ok.inj heq)
  · intro heq
    rw [heq]

end Readers

theorem recordings_read_back (vault : Vault.PublicKey) (calls : List TxnRecord) :
    let ts := accepted calls { vault }
    let s := recordAll calls { vault }
    (∀ t ∈ ts, s.txnOf t.commitment = .ok (t.leafIndex, t.txnId)) ∧
      ((∀ t ∈ depositsOf ts, LeafFits t) ∧ s.snapshot.deposits = .ok (byLeaf (depositsOf ts)) ∨
        ∃ t ∈ depositsOf ts, ¬ LeafFits t ∧ s.snapshot.deposits = .error (leafFault t)) ∧
      (∀ t n, Alone ts t n → s.snapshot.spentBy n =
        if LeafFits t then .ok (some t) else .error (leafFault t)) ∧
      s.commitments = .ok ((stored ts).map (·.commitment)) ∧
      (s.commitments = .ok ((byLeaf ts).map (·.commitment)) ↔
        (∀ t ∈ ts, LeafFits t) ∨ ∀ t ∈ ts, ¬ LeafFits t) := by
  have h : Recorded (accepted calls { vault }) (recordAll calls { vault }) :=
    (recorded_fresh vault).all calls
  exact ⟨fun t ht => h.txnOf_eq ht, h.deposits_cases, fun t n ht => h.spentBy_eq ht,
    h.commitments_eq, h.commitments_byLeaf_iff⟩

namespace FarLeaf

def vault : Vault.PublicKey := ⟨Block.zero 32⟩

def near : TxnRecord := ⟨0, Block.fill 32 1, "N", .deposit, 5, 0, none⟩

def far : TxnRecord := ⟨9223372036854775808, Block.fill 32 2, "F", .deposit, 5, 0, none⟩

theorem far_deposit_hides_deposits :
    accepted [near, far] { vault } = [near, far] ∧
      byLeaf (depositsOf [near, far]) = [near, far] ∧
      (recordAll [near, far] { vault }).snapshot.deposits =
        .error (.malformed (.negative "leaf_index" (-9223372036854775808))) ∧
      (recordAll [near, far] { vault }).commitments = .ok [far.commitment, near.commitment] := by
  decide +kernel

end FarLeaf

end ShieldedPool.Store
