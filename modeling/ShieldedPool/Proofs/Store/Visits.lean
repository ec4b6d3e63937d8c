import ShieldedPool.Proofs.Result
import ShieldedPool.Proofs.Trace
import ShieldedPool.Proofs.Store.Keys
import ShieldedPool.Store.Sweep

namespace ShieldedPool

def SweepReport.total (r : SweepReport) : Nat := r.promoted + r.discarded + r.retained

namespace Store

def offer (row : NoteRow) (rows : List NoteRow) : List NoteRow :=
  if rows.any (·.leaf = row.leaf) then rows else rows.orderedInsert (·.leaf ≤ ·.leaf) row

def without (ids : List Int) (s : Store) : Store :=
  { s with pending := s.pending.filter fun row => !ids.contains row.id }

theorem sublist_offer (row : NoteRow) (rows : List NoteRow) :
    rows.Sublist (offer row rows) := by
  unfold offer
  split
  · exact .refl rows
  · exact List.sublist_orderedInsert row rows

theorem mem_offer {row n : NoteRow} {rows : List NoteRow} (h : n ∈ offer row rows) :
    n ∈ rows ∨ n = row ∧ ∀ other ∈ rows, other.leaf ≠ row.leaf := by
  unfold offer at h
  split at h
  · exact .inl h
  case isFalse hfree =>
    rcases (List.mem_orderedInsert _).mp h with rfl | h
    · exact .inr ⟨rfl, not_any_iff.mp hfree⟩
    · exact .inl h

theorem exists_leaf_offer (row : NoteRow) (rows : List NoteRow) :
    ∃ n ∈ offer row rows, n.leaf = row.leaf := by
  unfold offer
  split
  case isTrue htaken =>
    obtain ⟨other, ho, heq⟩ := List.any_eq_true.mp htaken
    exact ⟨other, ho, of_decide_eq_true heq⟩
  · exact ⟨row, (List.mem_orderedInsert _).mpr (.inl rfl), rfl⟩

theorem promote_eq (r : UnconfirmedRecord) (leafIndex : UInt64) (s : Store) :
    s.promote r leafIndex =
      { s with
        notes := offer ⟨signed leafIndex, r.commitment.bytes, r.txnId, r.nullifier⟩ s.notes
        pending := s.pending.filter (·.id ≠ r.id) } := by
  unfold promote addNote offer
  by_cases h : s.notes.any (·.leaf = signed leafIndex)
  · rw [if_pos h, if_pos h]
    rfl
  · rw [if_neg h, if_neg h, insertBy_eq]
    rfl

theorem leafOf_none {s : Store} {w : Word} (h : s.txns.find? (·.commitment = w.bytes) = none) :
    s.leafOf w = .error .notFound := by
  simp only [leafOf, txnOf, h]
  rfl

theorem leafOf_some {s : Store} {w : Word} {t : TxnRow}
    (h : s.txns.find? (·.commitment = w.bytes) = some t) : s.leafOf w = .ok (unsigned t.leaf) := by
  simp only [leafOf, txnOf, h]
  rfl

structure Reads (row : PendingRow) (r : UnconfirmedRecord) : Prop where
  id : r.id = row.id
  commitment : r.commitment.bytes = row.commitment
  nullifier : r.nullifier = row.nullifier
  txnId : r.txnId = row.txnId
  createdAt : r.createdAt = unsigned row.createdAt

def PendingRow.Readable (row : PendingRow) : Prop := row.commitment.length = 32

theorem toRecord_eq_ok {row : PendingRow} {r : UnconfirmedRecord} (h : row.toRecord = .ok r) :
    Reads row r := by
  obtain ⟨w, hw, h⟩ := bind_ok h
  cases h
  unfold toWord at hw
  split at hw
  · cases hw
  case h_2 w' hw' =>
    cases hw
    exact ⟨rfl, (Block.ofBytes?_eq_some_iff.mp hw').symm, rfl, rfl, rfl⟩

theorem Reads.readable {row : PendingRow} {r : UnconfirmedRecord} (h : Reads row r) :
    row.Readable := by
  rw [PendingRow.Readable, ← h.commitment]
  exact r.commitment.length_eq

theorem PendingRow.Readable.toRecord {row : PendingRow} (h : row.Readable) :
    ∃ r, row.toRecord = .ok r := by
  have hw : toWord row.commitment = .ok ⟨row.commitment, h⟩ := toWord_bytes ⟨row.commitment, h⟩
  unfold PendingRow.toRecord
  rw [hw]
  exact ⟨_, rfl⟩

theorem reads_of_mapM {rows : List PendingRow} {records : List UnconfirmedRecord}
    (h : rows.mapM PendingRow.toRecord = .ok records) : List.Forall₂ Reads rows records :=
  (mapM_eq_ok_iff.mp h).imp fun _ _ hr => toRecord_eq_ok hr

theorem ids_of_reads {rows : List PendingRow} {records : List UnconfirmedRecord}
    (h : List.Forall₂ Reads rows records) : records.map (·.id) = rows.map (·.id) := by
  induction h with
  | nil => rfl
  | cons hr _ ih => rw [List.map_cons, List.map_cons, hr.id, ih]

theorem readable_of_reads {rows : List PendingRow} {records : List UnconfirmedRecord}
    (h : List.Forall₂ Reads rows records) : ∀ row ∈ rows, row.Readable := by
  induction h with
  | nil => intro row hrow; cases hrow
  | cons hr _ ih =>
    intro row hrow
    rcases List.mem_cons.mp hrow with rfl | hrow
    · exact hr.readable
    · exact ih row hrow

theorem exists_records {rows : List PendingRow} (h : ∀ row ∈ rows, row.Readable) :
    ∃ records, rows.mapM PendingRow.toRecord = .ok records := by
  induction rows with
  | nil => exact ⟨[], rfl⟩
  | cons row rows ih =>
    obtain ⟨r, hr⟩ := (h row (List.mem_cons_self ..)).toRecord
    obtain ⟨records, hrecords⟩ := ih fun other ho => h other (List.mem_cons_of_mem row ho)
    exact ⟨r :: records, mapM_eq_ok_iff.mpr (.cons hr (mapM_eq_ok_iff.mp hrecords))⟩

structure Holds (s : Store) (ids : List Int) : Prop where
  nodup : ids.Nodup
  present : ∀ id ∈ ids, ∃ row ∈ s.pending, row.id = id

theorem Holds.sublist {s : Store} {ids ids' : List Int} (h : Holds s ids)
    (hsub : ids'.Sublist ids) : Holds s ids' :=
  ⟨h.nodup.sublist hsub, fun id hid => h.present id (hsub.subset hid)⟩

theorem Ordered.holds {s : Store} (h : Ordered s) {rows : List PendingRow}
    (hsub : rows.Sublist s.pending) : Holds s (rows.map (·.id)) := by
  refine ⟨h.nodup.sublist (hsub.map _), fun id hid => ?_⟩
  obtain ⟨row, hrow, rfl⟩ := List.mem_map.mp hid
  exact ⟨row, hsub.subset hrow, rfl⟩

theorem Holds.count {s : Store} {ids : List Int} (h : Holds s ids)
    (hids : (s.pending.map (·.id)).Nodup) :
    s.pending.length - (s.without ids).pending.length = ids.length := by
  have hperm : ((s.pending.filter fun row => ids.contains row.id).map (·.id)).Perm ids := by
    refine (List.perm_ext_iff_of_nodup (hids.sublist (List.filter_sublist.map _)) h.nodup).mpr ?_
    intro id
    constructor
    · intro hid
      obtain ⟨row, hrow, rfl⟩ := List.mem_map.mp hid
      exact List.contains_iff_mem.mp (List.mem_filter.mp hrow).2
    · intro hid
      obtain ⟨row, hrow, rfl⟩ := h.present id hid
      exact List.mem_map.mpr ⟨row, List.mem_filter.mpr ⟨hrow, List.contains_iff_mem.mpr hid⟩, rfl⟩
  have hlength := hperm.length_eq
  have hsplit := s.pending.length_eq_length_filter_add fun row => ids.contains row.id
  rw [List.length_map] at hlength
  simp only [without]
  omega

theorem Holds.promote {s : Store} {ids : List Int} {r : UnconfirmedRecord} (h : Holds s ids)
    (hother : r.id ∉ ids) (leaf : UInt64) : Holds (s.promote r leaf) ids := by
  refine ⟨h.nodup, fun id hid => ?_⟩
  obtain ⟨p, hp, rfl⟩ := h.present id hid
  rw [promote_eq]
  refine ⟨p, List.mem_filter.mpr ⟨hp, decide_eq_true fun heq => hother ?_⟩, rfl⟩
  rwa [← heq]

theorem Holds.deleteUnconfirmedBatch {s : Store} {ids : List Int} (h : Holds s ids)
    (hids : (s.pending.map (·.id)).Nodup) (hfew : ids.length ≤ maxVariables) :
    s.deleteUnconfirmedBatch ids = (.ok ids.length, s.without ids) := by
  unfold Store.deleteUnconfirmedBatch
  rw [if_neg (Nat.not_lt.mpr hfew)]
  exact Prod.ext (congrArg Except.ok (h.count hids)) rfl

end Store

namespace Sweep

open Store (PendingRow NoteRow TxnRow Reads Holds Ordered offer without signed unsigned)

def visit (now retention : UInt64) (x : SweepReport × Store) (row : PendingRow) :
    SweepReport × Store :=
  let (report, s) := x
  match s.txns.find? (·.commitment = row.commitment) with
  | some t =>
    ({ report with promoted := report.promoted + 1 },
      { s with
        notes := offer ⟨t.leaf, row.commitment, row.txnId, row.nullifier⟩ s.notes
        pending := s.pending.filter (·.id ≠ row.id) })
  | none =>
    if retention.toNat ≤ now.toNat - (unsigned row.createdAt).toNat then
      ({ report with discarded := report.discarded + 1 },
        { s with pending := s.pending.filter (·.id ≠ row.id) })
    else ({ report with retained := report.retained + 1 }, s)

def onePass (now retention : UInt64) (s : Store) : SweepReport × Store :=
  s.pending.foldl (visit now retention) ({}, s)

def settled (stale : List Int) (report : SweepReport) (s : Store) : SweepReport × Store :=
  ({ report with discarded := report.discarded + stale.length }, s.without stale)

theorem settled_nil (report : SweepReport) (s : Store) : settled [] report s = (report, s) := by
  simp [settled, without]

section Resolve

variable {now retention : UInt64} {s : Store} {row : PendingRow}

theorem visit_recorded {t : TxnRow} (h : s.txns.find? (·.commitment = row.commitment) = some t)
    (stale : List Int) (report : SweepReport) :
    visit now retention (settled stale report s) row =
      settled stale { report with promoted := report.promoted + 1 }
        { s with
          notes := offer ⟨t.leaf, row.commitment, row.txnId, row.nullifier⟩ s.notes
          pending := s.pending.filter (·.id ≠ row.id) } := by
  simp only [visit, settled, without, h, List.filter_filter, Bool.and_comm]

theorem visit_promoted {r : UnconfirmedRecord} {t : TxnRow} {leaf : UInt64} (hr : Reads row r)
    (h : s.txns.find? (·.commitment = row.commitment) = some t) (hleaf : t.leaf = signed leaf)
    (stale : List Int) (report : SweepReport) :
    visit now retention (settled stale report s) row =
      settled stale { report with promoted := report.promoted + 1 } (s.promote r leaf) := by
  rw [visit_recorded h, Store.promote_eq, hr.commitment, hr.nullifier, hr.txnId, hr.id, hleaf]

theorem visit_stale (h : s.txns.find? (·.commitment = row.commitment) = none)
    (hage : retention.toNat ≤ now.toNat - (unsigned row.createdAt).toNat) (stale : List Int)
    (report : SweepReport) :
    visit now retention (settled stale report s) row = settled (stale ++ [row.id]) report s := by
  have hfilter : (fun p : PendingRow => decide (p.id ≠ row.id) && !stale.contains p.id) =
      fun p => !(stale ++ [row.id]).contains p.id := by
    funext p
    simp [Bool.and_comm]
  simp only [visit, settled, without, h, if_pos hage, List.filter_filter, hfilter,
    List.length_append, List.length_singleton, Nat.add_assoc]

theorem visit_waiting (h : s.txns.find? (·.commitment = row.commitment) = none)
    (hage : ¬ retention.toNat ≤ now.toNat - (unsigned row.createdAt).toNat) (stale : List Int)
    (report : SweepReport) :
    visit now retention (settled stale report s) row =
      settled stale { report with retained := report.retained + 1 } s := by
  simp only [visit, settled, without, h, if_neg hage]

variable {σ : Type} (client : Ledger.Client σ) (l : σ)

theorem resolve_run {rows : List PendingRow} {records : List UnconfirmedRecord}
    (hread : List.Forall₂ Reads rows records)
    (hleaves : ∀ t ∈ s.txns, ∃ leaf, t.leaf = signed leaf) (stale : List Int)
    (report : SweepReport) (hholds : Holds s (stale ++ rows.map (·.id))) :
    ∃ stale' report' s',
      (resolve now retention records stale report).run client s l = (.ok (stale', report'), s', l) ∧
        rows.foldl (visit now retention) (settled stale report s) = settled stale' report' s' ∧
        Holds s' stale' ∧ stale'.length ≤ stale.length + rows.length ∧
        s'.pending.Sublist s.pending := by
  induction hread generalizing s stale report with
  | nil =>
    rw [List.map_nil, List.append_nil] at hholds
    exact ⟨stale, report, s, rfl, rfl, hholds, Nat.le_add_right _ _, .refl _⟩
  | @cons row r rows records hr hread ih =>
    rw [List.foldl_cons, List.length_cons, resolve, Flow.run_act]
    rw [List.map_cons] at hholds
    have hrest : Holds s (stale ++ rows.map (·.id)) :=
      hholds.sublist ((List.Sublist.refl stale).append (List.sublist_cons_self row.id _))
    cases hfind : s.txns.find? (·.commitment = row.commitment) with
    | some t =>
      obtain ⟨leaf, hleaf⟩ := hleaves t (List.mem_of_find?_eq_some hfind)
      have hfound : s.leafOf r.commitment = .ok leaf := by
        rw [Store.leafOf_some (by rw [hr.commitment]; exact hfind), hleaf, Store.unsigned_signed]
      -- A promoted row leaves at once, so it must not be among those that are put off.
      have hother : r.id ∉ stale ++ rows.map (·.id) := by
        rw [hr.id]
        exact (List.nodup_cons.mp (List.nodup_middle.mp hholds.nodup)).1
      have hkept : ∀ t ∈ (s.promote r leaf).txns, ∃ leaf, t.leaf = signed leaf := by
        rw [Store.promote_eq]
        exact hleaves
      have hpending : (s.promote r leaf).pending.Sublist s.pending := by
        rw [Store.promote_eq]
        exact List.filter_sublist
      rw [hfound]
      dsimp only
      rw [Flow.run_act, visit_promoted hr hfind hleaf]
      obtain ⟨stale', report', s', hrun, hfold, hheld, hlength, hsub⟩ :=
        ih hkept stale { report with promoted := report.promoted + 1 } (hrest.promote hother leaf)
      exact ⟨stale', report', s', hrun, hfold, hheld, by omega, hsub.trans hpending⟩
    | none =>
      have hfound : s.leafOf r.commitment = .error .notFound :=
        Store.leafOf_none (by rw [hr.commitment]; exact hfind)
      have hstale : isStale now retention r = true ↔
          retention.toNat ≤ now.toNat - (unsigned row.createdAt).toNat := by
        rw [isStale, hr.createdAt]
        exact decide_eq_true_iff
      rw [hfound]
      dsimp only
      by_cases hage : retention.toNat ≤ now.toNat - (unsigned row.createdAt).toNat
      · rw [visit_stale hfind hage, if_pos (hstale.mpr hage), hr.id]
        rw [List.append_cons] at hholds
        obtain ⟨stale', report', s', hrun, hfold, hheld, hlength, hsub⟩ :=
          ih hleaves (stale ++ [row.id]) report hholds
        rw [List.length_append, List.length_singleton] at hlength
        exact ⟨stale', report', s', hrun, hfold, hheld, by omega, hsub⟩
      · rw [visit_waiting hfind hage, if_neg fun h => hage (hstale.mp h)]
        obtain ⟨stale', report', s', hrun, hfold, hheld, hlength, hsub⟩ :=
          ih hleaves stale { report with retained := report.retained + 1 } hrest
        exact ⟨stale', report', s', hrun, hfold, hheld, by omega, hsub⟩

end Resolve

section Visits

variable (now retention : UInt64)

theorem visit_rest (x : SweepReport × Store) (row : PendingRow) :
    (visit now retention x row).2.txns = x.2.txns ∧
      ∃ q : PendingRow → Bool, (visit now retention x row).2.pending = x.2.pending.filter q ∧
        ∀ p, p.id ≠ row.id → q p = true := by
  have hall : x.2.pending = x.2.pending.filter fun _ => true := by simp
  unfold visit
  dsimp only
  split
  · exact ⟨rfl, _, rfl, fun p hp => decide_eq_true hp⟩
  · split
    · exact ⟨rfl, _, rfl, fun p hp => decide_eq_true hp⟩
    · exact ⟨rfl, _, hall, fun _ _ => rfl⟩

theorem visits_rest (rows : List PendingRow) (x : SweepReport × Store) :
    (rows.foldl (visit now retention) x).2.txns = x.2.txns ∧
      ∃ q : PendingRow → Bool,
        (rows.foldl (visit now retention) x).2.pending = x.2.pending.filter q ∧
          ∀ p, (∀ row ∈ rows, p.id ≠ row.id) → q p = true := by
  induction rows generalizing x with
  | nil => exact ⟨rfl, fun _ => true, by simp, fun _ _ => rfl⟩
  | cons row rows ih =>
    obtain ⟨htxns, q, hq, hstay⟩ := ih (visit now retention x row)
    obtain ⟨htxns', q', hq', hstay'⟩ := visit_rest now retention x row
    refine ⟨htxns.trans htxns', fun p => q p && q' p, ?_, fun p hp => ?_⟩
    · rw [List.foldl_cons, hq, hq', List.filter_filter]
    · have hlater := hstay p fun other ho => hp other (List.mem_cons_of_mem row ho)
      have hnow := hstay' p (hp row (List.mem_cons_self ..))
      exact Bool.and_eq_true_iff.mpr ⟨hlater, hnow⟩

theorem Ordered.visits {s : Store} (h : Ordered s) (rows : List PendingRow)
    (report : SweepReport) : Ordered (rows.foldl (visit now retention) (report, s)).2 := by
  obtain ⟨htxns, q, hq, -⟩ := visits_rest now retention rows (report, s)
  refine ⟨?_, ?_, ?_⟩
  · rw [hq]
    exact h.ascending.filter q
  · intro row hrow
    rw [hq] at hrow
    exact h.positive row (List.mem_filter.mp hrow).1
  · rw [htxns]
    exact h.leaves

theorem visit_total (x : SweepReport × Store) (row : PendingRow) :
    (visit now retention x row).1.total = x.1.total + 1 := by
  unfold visit SweepReport.total
  dsimp only
  split
  · dsimp only; omega
  · split
    · dsimp only; omega
    · dsimp only; omega

theorem visits_total (rows : List PendingRow) (x : SweepReport × Store) :
    (rows.foldl (visit now retention) x).1.total = x.1.total + rows.length := by
  induction rows generalizing x with
  | nil => rfl
  | cons row rows ih =>
    rw [List.foldl_cons, ih, visit_total, List.length_cons, Nat.add_assoc, Nat.add_comm 1]

theorem visit_notes (x : SweepReport × Store) (row : PendingRow) :
    x.2.notes.Sublist (visit now retention x row).2.notes := by
  unfold visit
  dsimp only
  split
  · exact Store.sublist_offer _ _
  · split
    · exact .refl _
    · exact .refl _

theorem visits_notes (rows : List PendingRow) (x : SweepReport × Store) :
    x.2.notes.Sublist (rows.foldl (visit now retention) x).2.notes := by
  induction rows generalizing x with
  | nil => exact .refl _
  | cons row rows ih => exact (visit_notes now retention x row).trans (ih _)

def Brought (s : Store) (n : NoteRow) : Prop :=
  ∃ row ∈ s.pending, ∃ t ∈ s.txns, t.commitment = row.commitment ∧
    n = ⟨t.leaf, row.commitment, row.txnId, row.nullifier⟩ ∧ ∀ other ∈ s.notes, other.leaf ≠ t.leaf

variable {s : Store} {rows : List PendingRow} {x : SweepReport × Store} {row : PendingRow}

theorem visit_brought (hrow : row ∈ s.pending) (htxns : x.2.txns = s.txns)
    (hnotes : s.notes ⊆ x.2.notes) (h : ∀ n ∈ x.2.notes, n ∈ s.notes ∨ Brought s n) :
    ∀ n ∈ (visit now retention x row).2.notes, n ∈ s.notes ∨ Brought s n := by
  intro n hn
  unfold visit at hn
  dsimp only at hn
  split at hn
  case h_1 t hfind =>
    rcases Store.mem_offer hn with hn | ⟨rfl, hfree⟩
    · exact h n hn
    · have ht := List.mem_of_find?_eq_some hfind
      have hc := of_decide_eq_true (List.find?_some hfind :)
      rw [htxns] at ht
      exact .inr ⟨row, hrow, t, ht, hc, rfl, fun other ho => hfree other (hnotes ho)⟩
  · split at hn
    · exact h n hn
    · exact h n hn

theorem visits_brought (hrows : rows ⊆ s.pending) (htxns : x.2.txns = s.txns)
    (hnotes : s.notes ⊆ x.2.notes) (h : ∀ n ∈ x.2.notes, n ∈ s.notes ∨ Brought s n) :
    ∀ n ∈ (rows.foldl (visit now retention) x).2.notes, n ∈ s.notes ∨ Brought s n := by
  induction rows generalizing x with
  | nil => exact h
  | cons row rows ih =>
    obtain ⟨hrow, hrest⟩ := List.cons_subset.mp hrows
    refine ih hrest ((visit_rest now retention x row).1.trans htxns) ?_
      (visit_brought now retention hrow htxns hnotes h)
    exact List.Subset.trans hnotes (visit_notes now retention x row).subset

theorem visit_takes {t : TxnRow} (h : x.2.txns.find? (·.commitment = row.commitment) = some t) :
    ∃ n ∈ (visit now retention x row).2.notes, n.leaf = t.leaf := by
  simp only [visit, h]
  exact Store.exists_leaf_offer ⟨t.leaf, row.commitment, row.txnId, row.nullifier⟩ x.2.notes

theorem visits_take {t : TxnRow} (hrow : row ∈ rows)
    (h : x.2.txns.find? (·.commitment = row.commitment) = some t) :
    ∃ n ∈ (rows.foldl (visit now retention) x).2.notes, n.leaf = t.leaf := by
  induction rows generalizing x with
  | nil => cases hrow
  | cons other rows ih =>
    rw [List.foldl_cons]
    rcases List.mem_cons.mp hrow with rfl | hrow
    · obtain ⟨n, hn, hleaf⟩ := visit_takes now retention h
      exact ⟨n, (visits_notes now retention rows _).subset hn, hleaf⟩
    · refine ih hrow ?_
      rwa [(visit_rest now retention x other).1]

end Visits

end Sweep

end ShieldedPool
