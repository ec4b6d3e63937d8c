import ShieldedPool.Proofs.Hash.Evaluation
import ShieldedPool.Proofs.Store.OnePass

namespace ShieldedPool

namespace Store

theorem Keyed.offer {s : Store} (h : Keyed s) (row : NoteRow) :
    Keyed { s with notes := offer row s.notes } := by
  unfold Store.offer
  split
  · exact h
  case isFalse hfree => exact h.record (not_any_iff.mp hfree)

theorem Keyed.promote {s : Store} (h : Keyed s) (r : UnconfirmedRecord) (leafIndex : UInt64) :
    Keyed (s.promote r leafIndex) := by
  rw [promote_eq]
  exact (h.offer _).filter _

theorem Keyed.deleteUnconfirmedBatch {s : Store} (h : Keyed s) (ids : List Int) :
    Keyed (s.deleteUnconfirmedBatch ids).2 := by
  unfold Store.deleteUnconfirmedBatch
  split
  · exact h
  · exact h.filter _

end Store

namespace Sweep

open Store (PendingRow NoteRow TxnRow Keyed)

section Acts

variable {acts : ∀ β : Type, (Store → β × Store) → Prop}
  {asks : ∀ β : Type, Ledger.Query β → Prop} (now retention : UInt64)

theorem resolve_every (hlook : ∀ w, acts _ fun s => (s.leafOf w, s))
    (hpromote : ∀ r leaf, acts _ fun s => ((), s.promote r leaf))
    (records : List UnconfirmedRecord) (stale : List Int) (report : SweepReport) :
    (resolve now retention records stale report).Every acts asks := by
  induction records generalizing stale report with
  | nil => trivial
  | cons r records ih =>
    refine ⟨hlook _, fun found => ?_⟩
    dsimp only
    split
    · exact ⟨hpromote _ _, fun _ => ih _ _⟩
    · split
      · exact ih _ _
      · exact ih _ _
    · trivial

theorem batches_every (hread : ∀ after limit, acts _ fun s => (s.unconfirmedBatch after limit, s))
    (hlook : ∀ w, acts _ fun s => (s.leafOf w, s))
    (hpromote : ∀ r leaf, acts _ fun s => ((), s.promote r leaf))
    (hdelete : ∀ ids, acts _ fun s => s.deleteUnconfirmedBatch ids) (size : UInt64)
    (allowed : Nat) (after : Int) (report : SweepReport) :
    (batches now retention size allowed after report).Every acts asks := by
  induction allowed generalizing after report with
  | zero => trivial
  | succ allowed ih =>
    refine ⟨hread _ _, fun batch => ?_⟩
    dsimp only
    split
    · trivial
    · split
      · trivial
      · refine Flow.every_bind (resolve_every now retention hlook hpromote _ _ _) fun resolved => ?_
        split
        · trivial
        · refine ⟨hdelete _, fun deleted => ?_⟩
          dsimp only
          split
          · trivial
          · exact ih _ _

end Acts

theorem run_keyed {s : Store} (h : Keyed s) (now retention size : UInt64) (cancelled : Bool) :
    Keyed (run now retention size cancelled s).2 := by
  have hevery (allowed : Nat) : (batches now retention size allowed 0 {}).Every
      (fun _ step => ∀ s, Keyed s → Keyed (step s).2) fun _ _ => True :=
    batches_every now retention (fun _ _ _ h => h) (fun _ _ h => h)
      (fun r leaf _ h => h.promote r leaf) (fun ids _ h => h.deleteUnconfirmedBatch ids) size
      allowed 0 {}
  exact Flow.run_invariant Ledger.Client.offline Keyed (hevery _) h ()

variable {now retention : UInt64}

theorem promoted_iff {s s' : Store} (h : Keyed s) {size : UInt64} {report : SweepReport}
    (hrun : run now retention size false s = (.ok report, s')) {row : PendingRow}
    (hrow : row ∈ s.pending) {t : TxnRow} (ht : t ∈ s.txns) (hc : t.commitment = row.commitment) :
    ((∃ n ∈ s'.notes, n.commitment = row.commitment) ↔
        (∃ n ∈ s.notes, n.commitment = row.commitment) ∨ ∀ n ∈ s.notes, n.leaf ≠ t.leaf) ∧
      ∀ p ∈ s'.pending, p.id ≠ row.id := by
  obtain ⟨-, hpass⟩ := onePass_of_ok h.toOrdered hrun
  have hs : (s.pending.foldl (visit now retention) ({}, s)).2 = s' := congrArg Prod.snd hpass
  have hfind : s.txns.find? (·.commitment = row.commitment) = some t := by
    refine Store.find?_of_unique ht (decide_eq_true hc) fun u hu hsame => ?_
    exact h.txn_eq_of_commitment hu ht ((of_decide_eq_true hsame).trans hc.symm)
  have hbrought : ∀ n ∈ s'.notes, n ∈ s.notes ∨ Brought s n := by
    rw [← hs]
    exact visits_brought now retention (List.Subset.refl _) rfl (List.Subset.refl _)
      fun n hn => .inl hn
  refine ⟨⟨?_, ?_⟩, ?_⟩
  · rintro ⟨n, hn, hcn⟩
    rcases hbrought n hn with hold | ⟨other, -, u, hu, hcu, rfl, hfree⟩
    · exact .inl ⟨n, hold, hcn⟩
    · rw [h.txn_eq_of_commitment hu ht (hcu.trans (hcn.trans hc.symm))] at hfree
      exact .inr hfree
  · rintro (⟨n, hn, hcn⟩ | hfree)
    · refine ⟨n, ?_, hcn⟩
      rw [← hs]
      exact (visits_notes now retention s.pending ({}, s)).subset hn
    · obtain ⟨n, hn, hleaf⟩ := visits_take now retention (x := ({}, s)) hrow hfind
      rw [hs] at hn
      rcases hbrought n hn with hold | ⟨other, -, u, hu, hcu, rfl, -⟩
      · exact absurd hleaf (hfree n hold)
      · rw [h.txn_eq_of_leaf hu ht hleaf] at hcu
        exact ⟨_, hn, hcu.symm.trans hc⟩
  · have hdue : ¬ Waits now retention s.txns row := fun hwaits => by
      rw [hwaits.1] at hfind
      cases hfind
    rw [← hs]
    exact visits_remove (x := ({}, s)) hrow hdue

end Sweep

namespace Store

inductive Reachable (vault : Vault.PublicKey) : Store → Prop
  | fresh : Reachable vault { vault }
  | register {s : Store} (n : Note) (now : UInt64) (source : Random.Source) :
      Reachable vault s → Reachable vault (s.registerUnconfirmed n now source).2.1
  | save {s : Store} (n : Note) (source : Random.Source) :
      Reachable vault s → Reachable vault (s.saveNote n source).2.1
  | record {s : Store} (t : TxnRecord) : Reachable vault s → Reachable vault (s.recordTxn t).2
  | setRoot {s : Store} (root : Word) (leafCount : UInt64) :
      Reachable vault s → Reachable vault (s.setRoot root leafCount)
  | delete {s : Store} (id : Int) : Reachable vault s → Reachable vault (s.deleteUnconfirmed id)
  | sweep {s : Store} (now retention size : UInt64) (cancelled : Bool) :
      Reachable vault s → Reachable vault (Sweep.run now retention size cancelled s).2

theorem Keyed.register {s : Store} (h : Keyed s) (n : Note) (now : UInt64)
    (source : Random.Source) : Keyed (s.registerUnconfirmed n now source).2.1 := by
  rcases registerUnconfirmed_cases n now s source with
    ⟨e, source', hr⟩ | ⟨row, source', hregisters, hid, hr⟩
  · rw [hr]
    exact h
  · have hlast : s.lastId < row.id := by
      rw [hid]
      exact lastId_lt_nextId s
    rw [hr]
    exact h.enrol hregisters.fresh hlast

theorem Keyed.save {s : Store} (h : Keyed s) (n : Note) (source : Random.Source) :
    Keyed (s.saveNote n source).2.1 := by
  rcases saveNote_cases n s source with ⟨e, source', hr⟩ | ⟨row, source', hsaves, hr⟩
  · rw [hr]
    exact h
  · rw [hr]
    exact h.record hsaves.free

theorem Keyed.recordTxn {s : Store} (h : Keyed s) (t : TxnRecord) : Keyed (s.recordTxn t).2 := by
  rcases recordTxn_cases t s with ⟨e, hr⟩ | ⟨hposts, hr⟩
  · rw [hr]
    exact h
  · rw [hr]
    exact h.post hposts

theorem Reachable.keyed {vault : Vault.PublicKey} {s : Store} (h : Reachable vault s) :
    Keyed s := by
  induction h with
  | fresh => exact keyed_fresh vault
  | register n now source _ ih => exact ih.register n now source
  | save n source _ ih => exact ih.save n source
  | record t _ ih => exact ih.recordTxn t
  | setRoot root leafCount _ ih => exact { ih with }
  | delete id _ ih => exact ih.filter _
  | sweep now retention size cancelled _ ih => exact Sweep.run_keyed ih now retention size cancelled

theorem recorded_kept_iff {vault : Vault.PublicKey} {s s' : Store} (h : Reachable vault s)
    {now retention size : UInt64} {report : SweepReport}
    (hrun : Sweep.run now retention size false s = (.ok report, s')) {row : PendingRow}
    (hrow : row ∈ s.pending) {t : TxnRow} (ht : t ∈ s.txns) (hc : t.commitment = row.commitment) :
    ((∃ n ∈ s'.notes, n.commitment = row.commitment) ↔
        (∃ n ∈ s.notes, n.commitment = row.commitment) ∨ ∀ n ∈ s.notes, n.leaf ≠ t.leaf) ∧
      ∀ p ∈ s'.pending, p.id ≠ row.id :=
  Sweep.promoted_iff h.keyed hrun hrow ht hc

namespace TakenLeaf

def vault : Vault.PublicKey := ⟨Block.zero 32⟩

def source : Random.Source :=
  { stream := fun _ => 0, fails := fun _ => false, position := 0, draws := 0 }

def lost : Note := { amount := 1, k := Block.zero 31, r := Block.zero 31, txnId := some "L" }

def other : Note :=
  { amount := 2, k := Block.zero 31, r := Block.zero 31, leafIndex := 0, txnId := some "O" }

def posted : TxnRecord := ⟨0, lost.commitment, "L", .deposit, 1, 0, none⟩

theorem other_ne_lost : other.commitment.bytes ≠ lost.commitment.bytes := by
  have hne : other.commitment ≠ lost.commitment := Note.commitment_ne (by decide +kernel)
  exact fun h => hne (Block.eq_of_bytes_eq h)

theorem exists_state :
    ∃ s row saved, Reachable vault s ∧ s.pending = [row] ∧ s.notes = [saved] ∧
      s.txns = [rowOf posted] ∧ row.commitment = lost.commitment.bytes ∧ saved.leaf = 0 ∧
      saved.commitment = other.commitment.bytes := by
  have hsource : ∀ i, source.fails i = false := fun _ => rfl
  have hposition : other.position = some 0 := rfl
  obtain ⟨s₁, source₁, hregister⟩ := registerUnconfirmed_of (s := { vault }) (n := lost) 0 rfl
    (by decide) hsource
  obtain ⟨row, -, hregisters, hs₁⟩ := registerUnconfirmed_ok hregister
  have hnotes : s₁.notes = [] := by rw [hs₁]; rfl
  obtain ⟨s₂, source₂, hsave⟩ := saveNote_of (s := s₁) hposition rfl
    (by rw [hnotes]; intro n hn; cases hn) hsource
  obtain ⟨saved, hsaves, hs₂⟩ := saveNote_ok hsave
  have htxns : s₂.txns = [] := by rw [hs₂, hs₁]; rfl
  have hposts : Posts s₂ posted := by
    refine ⟨by decide, by decide, ?_, ?_⟩
    · rw [htxns]
      intro t ht
      cases ht
    · rw [htxns]
      intro t ht
      cases ht
  have hreach₁ : Reachable vault s₁ := by
    have hfresh : Reachable vault { vault } := .fresh
    have h := Reachable.register lost 0 source hfresh
    rwa [hregister] at h
  have hreach₂ : Reachable vault s₂ := by
    have h := Reachable.save other source hreach₁
    rwa [hsave] at h
  have hreach₃ : Reachable vault (s₂.post posted) := by
    have h := Reachable.record posted hreach₂
    rwa [recordTxn_of hposts] at h
  refine ⟨s₂.post posted, row, saved, hreach₃, ?_, ?_, ?_, hregisters.commitment, hsaves.leaf,
    hsaves.commitment⟩
  · rw [post, hs₂, hs₁]
    rfl
  · rw [post, hs₂]
    simp only [Store.record, hnotes]
    rfl
  · rw [post, htxns]
    rfl

theorem exists_sweep :
    ∃ s s' report row t, Reachable vault s ∧ Sweep.run 0 3600 8 false s = (.ok report, s') ∧
      row ∈ s.pending ∧ t ∈ s.txns ∧ t.commitment = row.commitment ∧
      (∀ n ∈ s.notes, n.commitment ≠ row.commitment) ∧ ∃ n ∈ s.notes, n.leaf = t.leaf := by
  obtain ⟨s, row, saved, hreach, hpending, hnotes, htxns, hrow, hleaf, hsaved⟩ := exists_state
  have hread : ∀ p ∈ s.pending, p.Readable := by
    rw [hpending]
    intro p hp
    rw [List.mem_singleton.mp hp, PendingRow.Readable, hrow]
    exact lost.commitment.length_eq
  have hsize : (8 : UInt64).toNat ≤ maxVariables := by decide
  have hrun := Sweep.run_ok 0 3600 hreach.keyed.toOrdered hread hsize
  refine ⟨s, _, _, row, rowOf posted, hreach, hrun, ?_, ?_, hrow.symm, ?_, saved, ?_, hleaf⟩
  · rw [hpending]
    exact List.mem_singleton.mpr rfl
  · rw [htxns]
    exact List.mem_singleton.mpr rfl
  · rw [hnotes]
    intro n hn
    rw [List.mem_singleton.mp hn, hsaved, hrow]
    exact other_ne_lost
  · rw [hnotes]
    exact List.mem_singleton.mpr rfl

theorem recorded_kept_iff_other :
    ∃ s s' report row t, Reachable vault s ∧ Sweep.run 0 3600 8 false s = (.ok report, s') ∧
      row ∈ s.pending ∧ t ∈ s.txns ∧ t.commitment = row.commitment ∧
      ((∃ n ∈ s'.notes, n.commitment = row.commitment) ↔
        (∃ n ∈ s.notes, n.commitment = row.commitment) ∨ ∀ n ∈ s.notes, n.leaf ≠ t.leaf) ∧
      ∀ p ∈ s'.pending, p.id ≠ row.id := by
  obtain ⟨s, s', report, row, t, hreach, hrun, hrow, ht, hc, -⟩ := exists_sweep
  exact ⟨s, s', report, row, t, hreach, hrun, hrow, ht, hc,
    recorded_kept_iff hreach hrun hrow ht hc⟩

theorem recorded_note_lost :
    ∃ s s' report row, Reachable vault s ∧ Sweep.run 0 3600 8 false s = (.ok report, s') ∧
      row ∈ s.pending ∧ (∃ t ∈ s.txns, t.commitment = row.commitment) ∧
      (∀ n ∈ s'.notes, n.commitment ≠ row.commitment) ∧ ∀ p ∈ s'.pending, p.id ≠ row.id := by
  obtain ⟨s, s', report, row, t, hreach, hrun, hrow, ht, hc, hunsaved, held, hheld, hleaf⟩ :=
    exists_sweep
  obtain ⟨hiff, hgone⟩ := Sweep.promoted_iff hreach.keyed hrun hrow ht hc
  refine ⟨s, s', report, row, hreach, hrun, hrow, ⟨t, ht, hc⟩, fun n hn hcn => ?_, hgone⟩
  rcases hiff.mp ⟨n, hn, hcn⟩ with ⟨n', hn', hcn'⟩ | hfree
  · exact hunsaved n' hn' hcn'
  · exact hfree held hheld hleaf

end TakenLeaf

end Store

end ShieldedPool
