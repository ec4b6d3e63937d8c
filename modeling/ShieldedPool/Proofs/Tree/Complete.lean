import ShieldedPool.Proofs.Tree

namespace ShieldedPool.Tree

open Hash (Mimc.hash2)

/-- Node `j` at a height of the complete tree whose leaves are those of a list and then zeros. -/
def node (leaves : List Scalar) : Nat → Nat → Scalar
  | 0, j => leaves[j]?.getD Field.zero
  | d + 1, j => Mimc.hash2 (node leaves d (2 * j)) (node leaves d (2 * j + 1))

def emptyNode : Nat → Scalar
  | 0 => Field.zero
  | d + 1 => Mimc.hash2 (emptyNode d) (emptyNode d)

section Empty

variable (d n : Nat)

theorem emptyRootsFrom_emptyNode :
    emptyRootsFrom (emptyNode d) n = (List.range' d (n + 1)).map emptyNode := by
  induction n generalizing d with
  | zero => rfl
  | succ n ih => rw [emptyRootsFrom, ← emptyNode, ih,
    List.range'_succ (s := d) (n := n + 1), List.map_cons]

theorem take_emptyRootsFrom :
    (emptyRootsFrom (emptyNode d) n).take n = (List.range' d n).map emptyNode := by
  rw [emptyRootsFrom_emptyNode, List.range'_concat, List.map_append, List.take_left' (by simp)]

theorem getLastD_emptyRootsFrom (z : Scalar) :
    (emptyRootsFrom (emptyNode d) n).getLastD z = emptyNode (d + n) := by
  rw [emptyRootsFrom_emptyNode, List.range'_concat, List.map_append, List.map_singleton,
    List.getLastD_concat, Nat.one_mul]

theorem levelRoots_eq : levelRoots = (List.range' 0 Protocol.treeLevels).map emptyNode := by
  rw [← take_emptyRootsFrom, emptyNode, levelRoots, emptyRoots]

theorem emptyRoot_eq : emptyRoot = emptyNode Protocol.treeLevels := by
  rw [← Nat.zero_add Protocol.treeLevels, ← getLastD_emptyRootsFrom 0 _ Field.zero, emptyNode,
    emptyRoot, emptyRoots]

end Empty

def Represents (leaves : List Scalar) (d : Nat) (layer : List Scalar) : Prop :=
  ∀ j, layer[j]?.getD (emptyNode d) = node leaves d j

section Layers

variable {leaves layer : List Scalar} {d : Nat}

theorem represents_leaves (leaves : List Scalar) : Represents leaves 0 leaves := by
  intro j
  rw [emptyNode, node]

theorem Represents.next (h : Represents leaves d layer) :
    Represents leaves (d + 1) (nextLayer (emptyNode d) layer) := by
  intro j
  have hleft := h (2 * j)
  have hright := h (2 * j + 1)
  rw [getElem?_nextLayer, node, ← hleft, ← hright]
  cases hnode : layer[2 * j]? with
  | some a => simp only [Option.map_some, Option.getD_some]
  | none =>
    have hpast : layer[2 * j + 1]? = none :=
      List.getElem?_eq_none (Nat.le_succ_of_le (List.getElem?_eq_none_iff.mp hnode))
    simp only [hpast, Option.map_none, Option.getD_none, emptyNode]

theorem Represents.fold (n : Nat) (h : Represents leaves d layer) :
    Represents leaves (d + n) (foldLayers ((List.range' d n).map emptyNode) layer) := by
  -- One height up, one empty root fewer.
  induction n generalizing d layer with
  | zero => exact h
  | succ n ih =>
    rw [List.range'_succ, List.map_cons, foldLayers, ← Nat.add_assoc, Nat.add_right_comm]
    exact ih h.next

end Layers

theorem root_eq_node (t : Tree) : t.root = node t.leaves Protocol.treeLevels 0 := by
  have htop := (represents_leaves t.leaves).fold Protocol.treeLevels 0
  rw [Nat.zero_add, ← levelRoots_eq] at htop
  rw [← htop, root, emptyRoot_eq]
  cases foldLayers levelRoots t.leaves with
  | nil => exact Option.getD_none.symm
  | cons r rest => exact Option.getD_some.symm

theorem leaves_foldl_insert (leaves : List Scalar) (t : Tree) :
    (leaves.foldl insert t).leaves = t.leaves ++ leaves := by
  induction leaves generalizing t with
  | nil => exact (List.append_nil _).symm
  | cons leaf leaves ih =>
    rw [List.foldl_cons, ih, insert, List.append_assoc, List.singleton_append]

theorem root_of_complete_tree (leaves : List Scalar) (commitments : List Word) :
    (leaves.foldl insert {}).root = node leaves 32 0 ∧
      (ofCommitments commitments).root = node (commitments.map Field.ofWord) 32 0 := by
  have hinserted := root_eq_node (leaves.foldl insert {})
  rw [leaves_foldl_insert, List.nil_append] at hinserted
  exact ⟨hinserted, root_eq_node (ofCommitments commitments)⟩

end ShieldedPool.Tree
