import ShieldedPool.Hash.Mimc
import ShieldedPool.Protocol

namespace ShieldedPool

structure Tree where
  leaves : List Scalar := []
  deriving DecidableEq

structure TreePath where
  siblings : List Scalar
  rights : List Bool
  deriving DecidableEq

namespace Tree

open Hash (Mimc.hash2)

def emptyRootsFrom (z : Scalar) : Nat → List Scalar
  | 0 => [z]
  | n + 1 => z :: emptyRootsFrom (Mimc.hash2 z z) n

def emptyRoots : List Scalar := emptyRootsFrom Field.zero Protocol.treeLevels

def levelRoots : List Scalar := emptyRoots.take Protocol.treeLevels

def emptyRoot : Scalar := emptyRoots.getLastD Field.zero

def nextLayer (zero : Scalar) : List Scalar → List Scalar
  | [] => []
  | [a] => [Mimc.hash2 a zero]
  | a :: b :: rest => Mimc.hash2 a b :: nextLayer zero rest

def foldLayers : List Scalar → List Scalar → List Scalar
  | [], layer => layer
  | zero :: zeros, layer => foldLayers zeros (nextLayer zero layer)

def ofCommitments (ws : List Word) : Tree := ⟨ws.map Field.ofWord⟩

def insert (t : Tree) (leaf : Scalar) : Tree := ⟨t.leaves ++ [leaf]⟩

def size (t : Tree) : Nat := t.leaves.length

def root (t : Tree) : Scalar :=
  match foldLayers levelRoots t.leaves with
  | [] => emptyRoot
  | r :: _ => r

def rootWord (t : Tree) : Word := Field.toWord t.root

def pathFrom : List Scalar → List Scalar → Nat → TreePath
  | [], _, _ => ⟨[], []⟩
  | zero :: zeros, layer, i =>
    let right := i % 2 == 1
    let sibling := (layer[if right then i - 1 else i + 1]?).getD zero
    let above := pathFrom zeros (nextLayer zero layer) (i / 2)
    ⟨sibling :: above.siblings, right :: above.rights⟩

def path? (t : Tree) (i : Nat) : Option TreePath :=
  if i < t.size then some (pathFrom levelRoots t.leaves i) else none

def climb (leaf : Scalar) : List Scalar → List Bool → Scalar
  | s :: ss, b :: bs => climb (if b then Mimc.hash2 s leaf else Mimc.hash2 leaf s) ss bs
  | _, _ => leaf

def verify (leaf : Scalar) (p : TreePath) (root : Scalar) : Bool :=
  climb leaf p.siblings p.rights == root

end Tree

end ShieldedPool
