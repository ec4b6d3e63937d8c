import ShieldedPool.Proofs.Funds.Ends
import ShieldedPool.Proofs.Vault.Opening

namespace ShieldedPool.Funds

namespace Writing

def source : Random.Source :=
  { stream := fun _ => 0, fails := fun _ => false, position := 0, draws := 0 }

def secret : Vault.Secret := ⟨source.read 32⟩

def nonce : Block 24 := (source.draw 32).2.read 24

def rowOf (n : Note) (txnId : String) : Store.NoteRow :=
  ⟨Store.signed n.leafIndex, n.commitment.bytes, txnId,
    Vault.sealWith secret.publicKey secret.key nonce n.nullifier.bytes⟩

theorem decrypt_rowOf (n : Note) (txnId : String) :
    Vault.decrypt secret (rowOf n txnId).nullifier = .ok n.nullifier.bytes := by
  have hagree : Vault.Agree secret secret.publicKey secret.key := rfl
  exact Vault.decrypt_sealWith hagree nonce n.nullifier.bytes

theorem saveNote_eq {s : Store} {n : Note} {txnId : String} (hvault : s.vault = secret.publicKey)
    (hleaf : n.leafIndex ≠ Protocol.emptyLeafIndex) (ht : n.txnId = some txnId)
    (hfree : ∀ other ∈ s.notes, other.leaf ≠ Store.signed n.leafIndex) :
    ∃ source', s.saveNote n source = (.ok (), s.record (rowOf n txnId), source') := by
  have hseal : ∃ source', s.sealNullifier n source =
      (.ok (rowOf n txnId).nullifier, source') := by
    unfold Store.sealNullifier
    rw [hvault]
    exact ⟨_, rfl⟩
  obtain ⟨source', hseal⟩ := hseal
  have hposition : n.position = some n.leafIndex := if_neg hleaf
  refine ⟨source', ?_⟩
  unfold Store.saveNote
  rw [hposition, ht]
  dsimp only
  rw [hseal]
  dsimp only
  rw [Store.addNote_of hfree]
  rfl

end Writing

structure Writable (h : List Step) : Prop where
  amount : ∀ e ∈ h, e.record.amount.toNat < Store.signedLimit
  fee : ∀ e ∈ h, e.record.fee.toNat < Store.signedLimit
  commitments : (h.map (·.record.commitment)).Nodup
  txns : ∀ e ∈ h, ∃ txnId, e.note.txnId = some txnId

theorem Writable.of_append {h : List Step} {e : Step} (hw : Writable (h ++ [e])) : Writable h where
  amount e he := hw.amount e (List.mem_append_left _ he)
  fee e he := hw.fee e (List.mem_append_left _ he)
  commitments := by
    have hnodup := hw.commitments
    rw [List.map_append] at hnodup
    exact hnodup.of_append_left
  txns e he := hw.txns e (List.mem_append_left _ he)

theorem History.signed_ne {h : List Step} {w e : Step} (hh : History h) (hw : w ∈ h)
    (hleaf : e.record.leafIndex.toNat = h.length) :
    Store.signed w.record.leafIndex ≠ Store.signed e.record.leafIndex := by
  refine Store.signed_ne fun heq => ?_
  have hlt := hh.leaf_lt hw
  rw [heq, hleaf] at hlt
  exact Nat.lt_irrefl _ hlt

namespace Records

variable {h : List Step} {s : Store}

theorem txn_of_mem (hs : Records h s) {row : Store.TxnRow} (hrow : row ∈ s.txns) :
    ∃ e ∈ h, row = Store.rowOf e.record := by
  obtain ⟨ts, ns, hwritten, hts, -⟩ := hs
  have hmem := (hwritten.txns.2.trans (hts.map Store.rowOf)).mem_iff.mp hrow
  rw [List.map_map] at hmem
  obtain ⟨e, he, heq⟩ := List.mem_map.mp hmem
  exact ⟨e, he, heq.symm⟩

theorem note_of_mem (hs : Records h s) {row : Store.NoteRow} (hrow : row ∈ s.notes) :
    ∃ e ∈ h, row.leaf = Store.signed e.record.leafIndex := by
  obtain ⟨ts, ns, hwritten, -, hns⟩ := hs
  have hmem := (hwritten.notes.2.trans (hns.map _)).mem_iff.mp (List.mem_map_of_mem hrow)
  rw [List.map_map] at hmem
  obtain ⟨e, he, heq⟩ := List.mem_map.mp hmem
  rw [Function.comp, e.leaf] at heq
  exact ⟨e, he, heq.symm⟩

variable {e : Step}

theorem leaf_ne (hs : Records h s) (hh : History h)
    (hleaf : e.record.leafIndex.toNat = h.length) :
    (∀ other ∈ s.txns, other.leaf ≠ Store.signed e.record.leafIndex) ∧
      ∀ other ∈ s.notes, other.leaf ≠ Store.signed e.record.leafIndex := by
  constructor
  · intro other ho
    obtain ⟨w, hw, rfl⟩ := hs.txn_of_mem ho
    exact hh.signed_ne hw hleaf
  · intro other ho
    obtain ⟨w, hw, hsame⟩ := hs.note_of_mem ho
    rw [hsame]
    exact hh.signed_ne hw hleaf

theorem posts (hs : Records h s) (hh : History h) (hleaf : e.record.leafIndex.toNat = h.length)
    (hw : Writable (h ++ [e])) : Store.Posts s e.record where
  amount := hw.amount e List.mem_concat_self
  fee := hw.fee e List.mem_concat_self
  leaf := (hs.leaf_ne hh hleaf).1
  commitment := by
    intro other ho heq
    obtain ⟨w, hmem, rfl⟩ := hs.txn_of_mem ho
    have hnodup := hw.commitments
    rw [List.map_append] at hnodup
    exact List.disjoint_of_nodup_append hnodup (List.mem_map_of_mem hmem)
      (List.mem_singleton.mpr (Block.eq_of_bytes_eq heq))

theorem record_save {s₁ s₂ : Store} {source source' : Random.Source} (hs : Records h s)
    (hrecord : s.recordTxn e.record = (.ok (), s₁))
    (hsave : s₁.saveNote e.note source = (.ok (), s₂, source')) : Records (h ++ [e]) s₂ := by
  obtain ⟨ts, ns, hwritten, hts, hns⟩ := hs
  refine ⟨_, _, (hwritten.record hrecord).save hsave, ?_, ?_⟩
  · rw [List.map_append]
    exact (hts.cons e.record).trans (List.perm_append_singleton _ _).symm
  · rw [List.map_append]
    exact (hns.cons e.note).trans (List.perm_append_singleton _ _).symm

end Records

namespace Writing

structure Holds (h : List Step) (s : Store) : Prop where
  records : Records h s
  vault : s.vault = secret.publicKey
  opens : ∀ e ∈ h, ∀ row ∈ s.notes, row.leaf = Store.signed e.record.leafIndex →
    Vault.decrypt secret row.nullifier = .ok e.note.nullifier.bytes

theorem Holds.step {h : List Step} {e : Step} {s : Store} (hs : Holds h s) (hh : History h)
    (hleaf : e.record.leafIndex.toNat = h.length) (hroom : h.length < Store.signedLimit)
    (hw : Writable (h ++ [e])) : ∃ s', Holds (h ++ [e]) s' := by
  have hfree := (hs.records.leaf_ne hh hleaf).2
  have hposition : e.note.leafIndex ≠ Protocol.emptyLeafIndex := by
    intro heq
    rw [← hleaf, ← e.leaf, heq] at hroom
    exact absurd hroom (by decide)
  have hrecord := Store.recordTxn_of (hs.records.posts hh hleaf hw)
  obtain ⟨txnId, ht⟩ := hw.txns e List.mem_concat_self
  obtain ⟨source', hsave⟩ := saveNote_eq (s := s.post e.record) hs.vault hposition ht (by
    rw [e.leaf]
    exact hfree)
  refine ⟨_, hs.records.record_save hrecord hsave, hs.vault, ?_⟩
  intro w hmem row hrow heq
  have hrow : row = rowOf e.note txnId ∨ row ∈ s.notes := by
    rw [Store.record] at hrow
    exact (List.mem_orderedInsert _).mp hrow
  rcases List.mem_append.mp hmem with hmem | hmem
  · rcases hrow with rfl | hrow
    · refine absurd heq.symm ?_
      rw [rowOf, e.leaf]
      exact hh.signed_ne hmem hleaf
    · exact hs.opens w hmem row hrow heq
  · cases List.mem_singleton.mp hmem
    rcases hrow with rfl | hrow
    · exact decrypt_rowOf e.note txnId
    · exact absurd heq (hfree row hrow)

theorem exists_holds {h : List Step} (hh : History h) (hroom : h.length < Store.signedLimit)
    (hw : Writable h) : ∃ s, Holds h s := by
  induction hh with
  | start =>
    refine ⟨{ vault := secret.publicKey }, ⟨[], [], .fresh _, .nil, .nil⟩, rfl, ?_⟩
    intro e he
    cases he
  | step hh hleaf _ ih =>
    rw [List.length_append, List.length_singleton] at hroom
    obtain ⟨s, hs⟩ := ih (by omega) hw.of_append
    exact hs.step hh hleaf (by omega) hw

end Writing

end ShieldedPool.Funds
