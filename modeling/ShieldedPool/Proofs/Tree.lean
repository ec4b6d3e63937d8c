import Mathlib.Algebra.Group.Nat.Defs
import ShieldedPool.Tree

namespace ShieldedPool.Tree

open Hash (Mimc.hash2)

def parent (sibling : Scalar) (right : Bool) (node : Scalar) : Scalar :=
  if right then Mimc.hash2 sibling node else Mimc.hash2 node sibling

def Joins (a b : Scalar) : List Scalar → List Bool → Prop
  | s :: ss, r :: rs =>
    a ≠ b ∧ parent s r a = parent s r b ∨ Joins (parent s r a) (parent s r b) ss rs
  | _, _ => False

section Layers

variable {leaf : Scalar} {layer : List Scalar} {i : Nat}

theorem getElem?_nextLayer (zero : Scalar) (layer : List Scalar) (i : Nat) :
    (nextLayer zero layer)[i]? =
      layer[2 * i]?.map fun node => Mimc.hash2 node (layer[2 * i + 1]?.getD zero) := by
  induction layer using nextLayer.induct generalizing i with
  | case1 => simp [nextLayer]
  | case2 a => cases i <;> simp [nextLayer]
  | case3 a b rest ih =>
    cases i with
    | zero => simp [nextLayer]
    | succ i => simpa [nextLayer, Nat.mul_succ] using ih i

theorem nextLayer_parent (zero : Scalar) (h : layer[i]? = some leaf) :
    (nextLayer zero layer)[i / 2]? =
      some (parent ((layer[if i % 2 == 1 then i - 1 else i + 1]?).getD zero) (i % 2 == 1)
        leaf) := by
  rw [getElem?_nextLayer]
  rcases Nat.mod_two_eq_zero_or_one i with heven | hodd
  · have hi : 2 * (i / 2) = i := by omega
    simp [parent, heven, hi, h]
  · have hi : 2 * (i / 2) = i - 1 := by omega
    have hnext : i - 1 + 1 = i := by omega
    obtain ⟨sibling, hsibling⟩ : ∃ sibling, layer[i - 1]? = some sibling := by
      have hlt := (List.getElem?_eq_some_iff.mp h).1
      exact ⟨layer[i - 1], List.getElem?_eq_getElem (by omega)⟩
    simp [parent, hodd, hi, hnext, hsibling, h]

theorem climb_pathFrom (zeros : List Scalar) (h : layer[i]? = some leaf) :
    (foldLayers zeros layer)[i / 2 ^ zeros.length]? =
      some (climb leaf (pathFrom zeros layer i).siblings (pathFrom zeros layer i).rights) := by
  -- On the layers that are left: the leaf's parent stands at half its index, one layer up.
  induction zeros generalizing layer leaf i with
  | nil => simpa [foldLayers, climb, pathFrom] using h
  | cons zero zeros ih =>
    have htop := ih (nextLayer_parent zero h)
    rwa [Nat.div_div_eq_div_mul, ← Nat.pow_succ'] at htop

end Layers

theorem length_emptyRootsFrom (z : Scalar) (n : Nat) : (emptyRootsFrom z n).length = n + 1 := by
  induction n generalizing z with
  | zero => rfl
  | succ n ih => simp [emptyRootsFrom, ih]

theorem length_levelRoots : levelRoots.length = Protocol.treeLevels := by
  simp [levelRoots, emptyRoots, length_emptyRootsFrom]

theorem climb_path {t : Tree} {i : Nat} {leaf : Scalar} {p : TreePath}
    (hi : i < 2 ^ Protocol.treeLevels) (hleaf : t.leaves[i]? = some leaf)
    (hp : t.path? i = some p) : climb leaf p.siblings p.rights = t.root := by
  unfold path? at hp
  split at hp
  case isFalse => cases hp
  case isTrue =>
    cases hp
    have htop := climb_pathFrom levelRoots hleaf
    rw [length_levelRoots, Nat.div_eq_of_lt hi] at htop
    unfold root
    cases hfold : foldLayers levelRoots t.leaves with
    | nil => simp [hfold] at htop
    | cons r rest => simpa [hfold] using htop.symm

theorem climb_eq_iff {a b : Scalar} {ss : List Scalar} {rs : List Bool} :
    climb a ss rs = climb b ss rs ↔ a = b ∨ Joins a b ss rs := by
  induction ss generalizing a b rs with
  | nil => simp [climb, Joins]
  | cons s ss ih =>
    cases rs with
    | nil => simp [climb, Joins]
    | cons r rs =>
      have hstep : climb (parent s r a) ss rs = climb (parent s r b) ss rs ↔
          parent s r a = parent s r b ∨ Joins (parent s r a) (parent s r b) ss rs := ih
      constructor
      · intro h
        rcases hstep.mp h with hparent | hjoins
        · by_cases hab : a = b
          · exact .inl hab
          · exact .inr (.inl ⟨hab, hparent⟩)
        · exact .inr (.inr hjoins)
      · rintro (rfl | ⟨-, hparent⟩ | hjoins)
        · rfl
        · exact hstep.mpr (.inl hparent)
        · exact hstep.mpr (.inr hjoins)

end ShieldedPool.Tree
