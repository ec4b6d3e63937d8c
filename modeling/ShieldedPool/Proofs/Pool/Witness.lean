import ShieldedPool.Pool.State
import ShieldedPool.Proofs.Store.Promotion
import ShieldedPool.Proofs.Tree

namespace ShieldedPool.Pool

open Store (TxnRow Reachable rowOf signed)

namespace Witness

def Proves (w : Witness) (commitment : Word) : Prop :=
  Tree.verify (Field.ofWord commitment) ⟨w.siblings.map Field.ofWord, w.rights⟩
    (Field.ofWord w.root) = true

def Shows (w : Witness) (row : TxnRow) : Prop :=
  ∃ commitment : Word, row.commitment = commitment.bytes ∧ w.Proves commitment

def Confuses (w : Witness) (row other : TxnRow) : Prop :=
  ∃ a b : Word, row.commitment = a.bytes ∧ other.commitment = b.bytes ∧ a ≠ b ∧
    (Field.ofWord a = Field.ofWord b ∨
      Tree.Joins (Field.ofWord a) (Field.ofWord b) (w.siblings.map Field.ofWord) w.rights)

theorem proves_iff {w : Witness} {commitment : Word} :
    w.Proves commitment ↔
      Tree.climb (Field.ofWord commitment) (w.siblings.map Field.ofWord) w.rights =
        Field.ofWord w.root := by
  simp [Proves, Tree.verify]

end Witness

section Paths

variable {vault : Vault.PublicKey} {s : Store} {i : UInt64} {w : Witness}

theorem witness_eq_ok (h : witness i s = .ok w) :
    ∃ ws p, s.commitments = .ok ws ∧ (Tree.ofCommitments ws).path? i.toNat = some p ∧
      w = ⟨i, (Tree.ofCommitments ws).rootWord, p.siblings.map Field.toWord, p.rights⟩ := by
  unfold witness at h
  cases hws : s.commitments with
  | error e => simp [hws] at h
  | ok ws =>
    rw [hws] at h
    dsimp only at h
    split at h
    · cases h
    case h_2 p hp =>
      cases h
      exact ⟨ws, p, rfl, hp, rfl⟩

theorem witness_of {ws : List Word} (hws : s.commitments = .ok ws) (hi : i.toNat < ws.length) :
    ∃ w, witness i s = .ok w ∧ w.leafIndex = i := by
  obtain ⟨p, hp⟩ : ∃ p, (Tree.ofCommitments ws).path? i.toNat = some p := by
    simp [Tree.path?, Tree.ofCommitments, Tree.size, hi]
  refine ⟨⟨i, (Tree.ofCommitments ws).rootWord, p.siblings.map Field.toWord, p.rights⟩, ?_, rfl⟩
  simp only [witness, hws, hp]

theorem witness_shows (hi : i.toNat < 2 ^ Protocol.treeLevels) (h : witness i s = .ok w) :
    ∃ row, s.txns[i.toNat]? = some row ∧ w.Shows row := by
  obtain ⟨ws, p, hws, hp, rfl⟩ := witness_eq_ok h
  have hrows := Store.commitments_eq_ok.mp hws
  have hlt : i.toNat < ws.length := by
    by_contra hge
    simp [Tree.path?, Tree.ofCommitments, Tree.size, hge] at hp
  have hrow : i.toNat < s.txns.length := hrows.length_eq ▸ hlt
  refine ⟨s.txns[i.toNat], List.getElem?_eq_getElem hrow, ws[i.toNat], hrows.get hrow hlt, ?_⟩
  have hleaf : (Tree.ofCommitments ws).leaves[i.toNat]? = some (Field.ofWord ws[i.toNat]) := by
    simp [Tree.ofCommitments, hlt]
  have hroot := Tree.climb_path hi hleaf hp
  have hsiblings : (p.siblings.map Field.toWord).map Field.ofWord = p.siblings := by
    simp [Function.comp_def, Field.ofWord_toWord]
  rw [Witness.proves_iff, hsiblings, Tree.rootWord, Field.ofWord_toWord, hroot]

theorem Witness.Shows.iff {row other : TxnRow} (h : w.Shows row)
    (hne : other.commitment ≠ row.commitment) (hother : ∃ c : Word, other.commitment = c.bytes) :
    w.Shows other ↔ w.Confuses row other := by
  obtain ⟨a, ha, hproves⟩ := h
  obtain ⟨b, hb⟩ := hother
  have hab : a ≠ b := by
    rintro rfl
    exact hne (hb.trans ha.symm)
  have hiff : w.Proves b ↔ Field.ofWord a = Field.ofWord b ∨
      Tree.Joins (Field.ofWord a) (Field.ofWord b) (w.siblings.map Field.ofWord) w.rights := by
    rw [← Tree.climb_eq_iff, Witness.proves_iff.mp hproves, Witness.proves_iff, eq_comm]
  constructor
  · rintro ⟨c, hc, hshown⟩
    obtain rfl : b = c := Block.eq_of_bytes_eq (hb.symm.trans hc)
    exact ⟨a, b, ha, hb, hab, hiff.mp hshown⟩
  · rintro ⟨a', b', ha', hb', -, hconfused⟩
    obtain rfl : a = a' := Block.eq_of_bytes_eq (ha.symm.trans ha')
    obtain rfl : b = b' := Block.eq_of_bytes_eq (hb.symm.trans hb')
    exact ⟨b, hb, hiff.mpr hconfused⟩

theorem witness_proves_iff (hreachable : Reachable vault s)
    (hi : i.toNat < 2 ^ Protocol.treeLevels) (h : witness i s = .ok w) :
    w.leafIndex = i ∧
      ∃ row, s.txns[i.toNat]? = some row ∧ w.Shows row ∧
        ((∃ t ∈ s.txns, t.leaf = signed i ∧ w.Shows t) ↔
          row.leaf = signed i ∨ ∃ t ∈ s.txns, t.leaf = signed i ∧ w.Confuses row t) := by
  obtain ⟨row, hrow, hshows⟩ := witness_shows hi h
  obtain ⟨ws, p, hws, -, rfl⟩ := witness_eq_ok h
  refine ⟨rfl, row, hrow, hshows, ?_⟩
  have hmem : row ∈ s.txns := List.mem_of_getElem? hrow
  have hwords : ∀ t ∈ s.txns, ∃ c : Word, t.commitment = c.bytes := by
    intro t ht
    obtain ⟨k, hk, rfl⟩ := List.mem_iff_getElem.mp ht
    have hrows := Store.commitments_eq_ok.mp hws
    exact ⟨_, hrows.get hk (hrows.length_eq ▸ hk)⟩
  constructor
  · rintro ⟨t, ht, hleaf, hshown⟩
    by_cases heq : t = row
    · exact .inl (heq ▸ hleaf)
    · -- Another row has another commitment, and still reaches the root by this path.
      have hne : t.commitment ≠ row.commitment := fun hc =>
        heq (hreachable.keyed.txn_eq_of_commitment ht hmem hc)
      exact .inr ⟨t, ht, hleaf, (hshows.iff hne (hwords t ht)).mp hshown⟩
  · rintro (hleaf | ⟨t, ht, hleaf, hconfused⟩)
    · exact ⟨row, hmem, hleaf, hshows⟩
    · have hne : t.commitment ≠ row.commitment := by
        obtain ⟨a, b, ha, hb, hab, -⟩ := hconfused
        intro hc
        exact hab (Block.eq_of_bytes_eq (ha.symm.trans (hc.symm.trans hb)))
      exact ⟨t, ht, hleaf, (hshows.iff hne (hwords t ht)).mpr hconfused⟩

end Paths

namespace LoneLeaf

def vault : Vault.PublicKey := ⟨Block.zero 32⟩

def commitment : Word := Block.fill 32 1

def posted (leaf : UInt64) : TxnRecord := ⟨leaf, commitment, "T", .deposit, 5, 0, none⟩

def recorded (leaf : UInt64) : Store := (Store.recordTxn (posted leaf) { vault }).2

theorem recorded_reachable (leaf : UInt64) : Reachable vault (recorded leaf) :=
  .record (posted leaf) .fresh

theorem txns_recorded (leaf : UInt64) : (recorded leaf).txns = [rowOf (posted leaf)] := rfl

theorem exists_witness (leaf : UInt64) :
    ∃ w, witness 0 (recorded leaf) = .ok w ∧ w.leafIndex = 0 := by
  have hws : (recorded leaf).commitments = .ok [commitment] := by
    rw [Store.commitments_eq_ok, txns_recorded]
    exact .cons rfl .nil
  exact witness_of hws Nat.one_pos

theorem first_leaf_proved :
    ∃ w, witness 0 (recorded 0) = .ok w ∧
      ∃ t ∈ (recorded 0).txns, t.leaf = signed 0 ∧ w.Shows t := by
  obtain ⟨w, hw, -⟩ := exists_witness 0
  obtain ⟨-, row, hrow, -, hiff⟩ := witness_proves_iff (recorded_reachable 0) (by decide) hw
  refine ⟨w, hw, hiff.mpr (.inl ?_)⟩
  rw [txns_recorded] at hrow
  cases hrow
  rfl

theorem unrecorded_leaf_witnessed :
    Reachable vault (recorded 1) ∧ ∃ w, witness 0 (recorded 1) = .ok w ∧ w.leafIndex = 0 ∧
      ¬ ∃ t ∈ (recorded 1).txns, t.leaf = signed 0 ∧ w.Shows t := by
  obtain ⟨w, hw, hleaf⟩ := exists_witness 1
  refine ⟨recorded_reachable 1, w, hw, hleaf, ?_⟩
  rintro ⟨t, ht, hzero, -⟩
  rw [txns_recorded, List.mem_singleton] at ht
  rw [ht] at hzero
  cases hzero

end LoneLeaf

end ShieldedPool.Pool
