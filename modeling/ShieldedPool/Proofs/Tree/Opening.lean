import ShieldedPool.Proofs.Tree.Complete

namespace ShieldedPool.Tree

def beside (j : Nat) : Nat := if j % 2 == 1 then j - 1 else j + 1

theorem map_testBit_range (n i : Nat) :
    (List.range (n + 1)).map i.testBit = (i % 2 == 1) :: (List.range n).map (i / 2).testBit := by
  have hlowest : i.testBit 0 = (i % 2 == 1) := Nat.testBit_zero i
  simp [List.range_succ_eq_map, Function.comp_def, Nat.testBit_succ, hlowest]

theorem rights_pathFrom (zeros layer : List Scalar) (i : Nat) :
    (pathFrom zeros layer i).rights = (List.range zeros.length).map i.testBit := by
  induction zeros generalizing layer i with
  | nil => rfl
  | cons zero zeros ih =>
    rw [List.length_cons, map_testBit_range, ← ih (nextLayer zero layer)]
    rfl

theorem Represents.siblings {leaves layer : List Scalar} {d : Nat} (n i : Nat)
    (h : Represents leaves d layer) :
    (pathFrom ((List.range' d n).map emptyNode) layer i).siblings =
      (List.range n).map fun k => node leaves (d + k) (beside (i / 2 ^ k)) := by
  -- One height up, the way goes on at half the index.
  induction n generalizing d layer i with
  | zero => rfl
  | succ n ih =>
    have hsibling : layer[beside i]?.getD (emptyNode d) = node leaves d (beside i) := h (beside i)
    have hstep (k : Nat) : node leaves (d + 1 + k) (beside (i / 2 / 2 ^ k)) =
        node leaves (d + (k + 1)) (beside (i / 2 ^ (k + 1))) := by
      rw [Nat.div_div_eq_div_mul, ← Nat.pow_succ', Nat.add_assoc, Nat.add_comm 1 k]
    rw [List.range'_succ, List.map_cons, pathFrom, List.range_succ_eq_map, List.map_cons,
      List.map_map]
    refine congrArg₂ List.cons ?_ ?_
    · rw [Nat.pow_zero, Nat.div_one]
      exact hsibling
    · rw [ih (i / 2) h.next]
      refine List.map_congr_left fun k _ => ?_
      rw [hstep k, Function.comp_apply]

theorem path?_isSome_iff {t : Tree} {i : Nat} : (t.path? i).isSome = true ↔ i < t.size := by
  simp [path?]

theorem path?_eq_some {t : Tree} {i : Nat} {p : TreePath} (h : t.path? i = some p) :
    i < t.size ∧ p = pathFrom levelRoots t.leaves i := by
  unfold path? at h
  split at h
  case isTrue hi => cases h; exact ⟨hi, rfl⟩
  case isFalse => cases h

theorem siblings_path {t : Tree} {i : Nat} {p : TreePath} (h : t.path? i = some p) :
    p.siblings = (List.range 32).map fun d => node t.leaves d (beside (i / 2 ^ d)) := by
  obtain ⟨-, rfl⟩ := path?_eq_some h
  have hsiblings := (represents_leaves t.leaves).siblings 32 i
  simp only [Nat.zero_add] at hsiblings
  exact levelRoots_eq ▸ hsiblings

theorem rights_path {t : Tree} {i : Nat} {p : TreePath} (h : t.path? i = some p) :
    p.rights = (List.range 32).map i.testBit := by
  obtain ⟨-, rfl⟩ := path?_eq_some h
  rw [rights_pathFrom, length_levelRoots, Protocol.treeLevels]

theorem path_opens_leaf (t : Tree) (i : Nat) (hsize : t.size ≤ 2 ^ 32) :
    ((t.path? i).isSome = true ↔ i < t.size) ∧
      ∀ p, t.path? i = some p →
        p.siblings = (List.range 32).map (fun d => node t.leaves d (beside (i / 2 ^ d))) ∧
          p.rights = (List.range 32).map i.testBit ∧
          ∃ leaf, t.leaves[i]? = some leaf ∧ verify leaf p t.root = true := by
  refine ⟨path?_isSome_iff, fun p hp => ?_⟩
  have hi : i < t.size := (path?_eq_some hp).1
  have hleaf : t.leaves[i]? = some t.leaves[i] := List.getElem?_eq_getElem hi
  have hroot := climb_path (Nat.lt_of_lt_of_le hi hsize) hleaf hp
  exact ⟨siblings_path hp, rights_path hp, t.leaves[i], hleaf, beq_iff_eq.mpr hroot⟩

namespace ThreeLeaves

def tree : Tree := ⟨[Field.ofNat 5, Field.zero, Field.ofNat 7]⟩

theorem third_leaf_opens : tree.size ≤ 2 ^ 32 ∧ (tree.path? 3).isSome = false ∧
    ∃ p, tree.path? 2 = some p ∧ p.rights = false :: true :: List.replicate 30 false ∧
      p.siblings.length = 32 ∧ verify (Field.ofNat 7) p tree.root = true := by
  have hsize : tree.size ≤ 2 ^ 32 := by decide
  have hpast := (path_opens_leaf tree 3 hsize).1
  obtain ⟨hsome, hpath⟩ := path_opens_leaf tree 2 hsize
  obtain ⟨p, hp⟩ := Option.isSome_iff_exists.mp (hsome.mpr (by decide))
  obtain ⟨hsiblings, hrights, leaf, hleaf, hverify⟩ := hpath p hp
  have hseven : Field.ofNat 7 = leaf := Option.some.inj hleaf
  have hturns :
      (List.range 32).map (2 : Nat).testBit = false :: true :: List.replicate 30 false := by
    decide
  refine ⟨hsize, ?_, p, hp, hrights.trans hturns, ?_, hseven ▸ hverify⟩
  · exact Bool.eq_false_iff.mpr fun h => absurd (hpast.mp h) (by decide)
  · rw [hsiblings, List.length_map, List.length_range]

end ThreeLeaves

end ShieldedPool.Tree
