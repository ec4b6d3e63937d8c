import ShieldedPool.Proofs.Tree.Opening

namespace ShieldedPool.Tree

open Hash (Mimc.hash2)

def Collide (p q : Scalar × Scalar) : Prop := p ≠ q ∧ Mimc.hash2 p.1 p.2 = Mimc.hash2 q.1 q.2

def children (leaves : List Scalar) (d j : Nat) : Scalar × Scalar :=
  (node leaves d (2 * j), node leaves d (2 * j + 1))

def pairOf (sibling : Scalar) (right : Bool) (x : Scalar) : Scalar × Scalar :=
  if right then (sibling, x) else (x, sibling)

def hashedPairs (x : Scalar) : List Scalar → List Bool → List (Scalar × Scalar)
  | s :: ss, r :: rs => pairOf s r x :: hashedPairs (parent s r x) ss rs
  | _, _ => []

def EqUpToZeros (a b : List Scalar) : Prop :=
  ∃ m n, a ++ List.replicate m Field.zero = b ++ List.replicate n Field.zero

theorem eq_or_collide {p q : Scalar × Scalar} (h : Mimc.hash2 p.1 p.2 = Mimc.hash2 q.1 q.2) :
    p = q ∨ Collide p q := by
  by_cases hpq : p = q
  · exact .inl hpq
  · exact .inr ⟨hpq, h⟩

theorem node_succ (leaves : List Scalar) (d j : Nat) : node leaves (d + 1) j =
    Mimc.hash2 (children leaves d j).1 (children leaves d j).2 := rfl

section Paths

variable {leaves : List Scalar} {x : Scalar} {d i : Nat}

theorem parent_eq (s : Scalar) (r : Bool) (x : Scalar) :
    parent s r x = Mimc.hash2 (pairOf s r x).1 (pairOf s r x).2 := by
  cases r <;> rfl

theorem eq_node_of_pairOf {s : Scalar}
    (h : pairOf s (i % 2 == 1) x = children leaves d (i / 2)) : x = node leaves d i := by
  rcases Nat.mod_two_eq_zero_or_one i with heven | hodd
  · have hi : 2 * (i / 2) = i := by omega
    simp only [pairOf, heven, children, hi] at h
    exact (Prod.mk.inj h).1
  · have hi : 2 * (i / 2) + 1 = i := by omega
    simp only [pairOf, hodd, children, hi] at h
    exact (Prod.mk.inj h).2

theorem eq_node_of_climb {ss : List Scalar}
    (h : climb x ss ((List.range ss.length).map i.testBit) =
      node leaves (d + ss.length) (i / 2 ^ ss.length)) :
    x = node leaves d i ∨ ∃ k < ss.length, ∃ q,
      (hashedPairs x ss ((List.range ss.length).map i.testBit))[k]? = some q ∧
        Collide q (children leaves (d + k) (i / 2 ^ (k + 1))) := by
  induction ss generalizing x d i with
  | nil => left; simpa [climb] using h
  | cons s ss ih =>
    have hhalf (k : Nat) : i / 2 / 2 ^ k = i / 2 ^ (k + 1) := by
      rw [Nat.div_div_eq_div_mul, ← Nat.pow_succ']
    rw [List.length_cons, map_testBit_range] at h ⊢
    rw [← hhalf, Nat.add_comm ss.length, ← Nat.add_assoc] at h
    rcases ih (x := parent s (i % 2 == 1) x) h with hparent | ⟨k, hk, q, hq, hcollide⟩
    · rw [parent_eq, node_succ] at hparent
      rcases eq_or_collide hparent with hpair | hcollide
      · exact .inl (eq_node_of_pairOf hpair)
      · refine .inr ⟨0, Nat.succ_pos _, pairOf s (i % 2 == 1) x, rfl, ?_⟩
        simpa using hcollide
    · refine .inr ⟨k + 1, Nat.succ_lt_succ hk, q, hq, ?_⟩
      rwa [hhalf, Nat.add_assoc, Nat.add_comm 1 k] at hcollide

end Paths

section Roots

variable {a b : List Scalar}

theorem leaves_of_node {n j : Nat} (h : node a n j = node b n j) :
    (∀ i, i / 2 ^ n = j → node a 0 i = node b 0 i) ∨
      ∃ d < n, ∃ k, k / 2 ^ (n - (d + 1)) = j ∧ Collide (children a d k) (children b d k) := by
  induction n generalizing j with
  | zero =>
    left
    rintro i rfl
    simpa using h
  | succ n ih =>
    rw [node_succ, node_succ] at h
    rcases eq_or_collide h with hpair | hcollide
    · obtain ⟨hleft, hright⟩ := Prod.mk.inj hpair
      -- A collision under a child is one under its parent.
      have below {c : Nat} (hc : c / 2 = j) : (∃ d < n, ∃ k, k / 2 ^ (n - (d + 1)) = c ∧
          Collide (children a d k) (children b d k)) →
            ∃ d < n + 1, ∃ k, k / 2 ^ (n + 1 - (d + 1)) = j ∧
              Collide (children a d k) (children b d k) := by
        rintro ⟨d, hd, k, hk, hcollide⟩
        have hheight : n + 1 - (d + 1) = n - (d + 1) + 1 := by omega
        refine ⟨d, Nat.lt_succ_of_lt hd, k, ?_, hcollide⟩
        rw [hheight, Nat.pow_succ, ← Nat.div_div_eq_div_mul, hk, hc]
      rcases ih hleft with hleaves | hbelow
      · rcases ih hright with hleaves' | hbelow
        · left
          intro i hi
          rw [Nat.pow_succ, ← Nat.div_div_eq_div_mul] at hi
          rcases Nat.mod_two_eq_zero_or_one (i / 2 ^ n) with heven | hodd
          · exact hleaves i (by omega)
          · exact hleaves' i (by omega)
        · exact .inr (below (by omega) hbelow)
      · exact .inr (below (by omega) hbelow)
    · exact .inr ⟨n, Nat.lt_succ_self n, j, by simp, hcollide⟩

theorem getElem?_padded {N : Nat} (h : a.length ≤ N) (i : Nat) :
    (a ++ List.replicate (N - a.length) Field.zero)[i]? =
      if i < N then some (a[i]?.getD Field.zero) else none := by
  rw [List.getElem?_append]
  split
  case isTrue hi =>
    rw [if_pos (Nat.lt_of_lt_of_le hi h), List.getElem?_eq_getElem hi, Option.getD_some]
  case isFalse hi =>
    have hpast : a[i]? = none := List.getElem?_eq_none (Nat.le_of_not_lt hi)
    rw [List.getElem?_replicate, hpast, Option.getD_none]
    congr 1
    exact propext (by omega)

theorem eqUpToZeros_of_leaves {N : Nat} (ha : a.length ≤ N) (hb : b.length ≤ N)
    (h : ∀ i < N, node a 0 i = node b 0 i) : EqUpToZeros a b := by
  refine ⟨N - a.length, N - b.length, List.ext_getElem? fun i => ?_⟩
  rw [getElem?_padded ha, getElem?_padded hb]
  split
  case isTrue hi => exact congrArg some (h i hi)
  case isFalse => rfl

theorem node_zeros (a : List Scalar) (m d j : Nat) :
    node (a ++ List.replicate m Field.zero) d j = node a d j := by
  induction d generalizing j with
  | zero =>
    rw [node, node, List.getElem?_append]
    split
    case isTrue => rfl
    case isFalse hj =>
      rw [List.getElem?_eq_none (Nat.le_of_not_lt hj), List.getElem?_replicate]
      split <;> rfl
  | succ d ih => rw [node, node, ih, ih]

theorem EqUpToZeros.node_eq (h : EqUpToZeros a b) (d j : Nat) : node a d j = node b d j := by
  obtain ⟨m, n, h⟩ := h
  rw [← node_zeros a m, h, node_zeros]

end Roots

theorem root_binds_leaves (t u : Tree) (ht : t.size ≤ 2 ^ 32) (hu : u.size ≤ 2 ^ 32) :
    (∀ i x p, i < 2 ^ 32 → p.siblings.length = 32 → p.rights = (List.range 32).map i.testBit →
        verify x p t.root = true →
        x = t.leaves[i]?.getD Field.zero ∨ ∃ d < 32, ∃ q,
          (hashedPairs x p.siblings p.rights)[d]? = some q ∧
            Collide q (children t.leaves d (i / 2 ^ (d + 1)))) ∧
      (t.root = u.root → EqUpToZeros t.leaves u.leaves ∨
        ∃ d < 32, ∃ k < 2 ^ (31 - d), Collide (children t.leaves d k) (children u.leaves d k)) ∧
      (EqUpToZeros t.leaves u.leaves → t.root = u.root) := by
  refine ⟨fun i x p hi hlength hrights hverify => ?_, fun hroot => ?_, fun hsame => ?_⟩
  · have hclimb : climb x p.siblings p.rights = node t.leaves 32 0 :=
      (beq_iff_eq.mp hverify).trans (root_eq_node t)
    have htop : climb x p.siblings ((List.range p.siblings.length).map i.testBit) =
        node t.leaves (0 + p.siblings.length) (i / 2 ^ p.siblings.length) := by
      rw [hlength, ← hrights, hclimb, Nat.div_eq_of_lt hi]
    have hleaf := eq_node_of_climb htop
    simp only [hlength, ← hrights, Nat.zero_add] at hleaf
    exact hleaf
  · rw [root_eq_node, root_eq_node] at hroot
    rcases leaves_of_node hroot with hleaves | ⟨d, hd, k, hk, hcollide⟩
    · left
      exact eqUpToZeros_of_leaves ht hu fun i hi => hleaves i (Nat.div_eq_of_lt hi)
    · have hwithin : k < 2 ^ (32 - (d + 1)) :=
        (Nat.div_eq_zero_iff.mp hk).resolve_left (Nat.pos_iff_ne_zero.mp (Nat.two_pow_pos _))
      have hheight : 32 - (d + 1) = 31 - d := by omega
      exact .inr ⟨d, hd, k, hheight ▸ hwithin, hcollide⟩
  · rw [root_eq_node, root_eq_node, hsame.node_eq]

namespace SevenAndZero

def seven : Tree := ⟨[Field.ofNat 7]⟩

def sevenAndZero : Tree := ⟨[Field.ofNat 7, Field.zero]⟩

theorem seven_and_zero_bind : seven.size ≤ 2 ^ 32 ∧ sevenAndZero.size ≤ 2 ^ 32 ∧
    seven.root = sevenAndZero.root ∧ EqUpToZeros seven.leaves sevenAndZero.leaves ∧
    ∃ p, p.siblings.length = 32 ∧ p.rights = (List.range 32).map (0 : Nat).testBit ∧
      verify (Field.ofNat 7) p seven.root = true ∧
      (verify (Field.ofNat 8) p seven.root = true → ∃ d < 32, ∃ q,
        (hashedPairs (Field.ofNat 8) p.siblings p.rights)[d]? = some q ∧
          Collide q (children seven.leaves d (0 / 2 ^ (d + 1)))) := by
  have hsize : seven.size ≤ 2 ^ 32 := by decide
  have hsize' : sevenAndZero.size ≤ 2 ^ 32 := by decide
  have hzeros : EqUpToZeros seven.leaves sevenAndZero.leaves := ⟨1, 0, rfl⟩
  obtain ⟨hpath, -, hroots⟩ := root_binds_leaves seven sevenAndZero hsize hsize'
  obtain ⟨p, hp⟩ := Option.isSome_iff_exists.mp
    (path?_isSome_iff.mpr (by decide : 0 < seven.size))
  have hlength : p.siblings.length = 32 := by
    rw [siblings_path hp, List.length_map, List.length_range]
  have hrights := rights_path hp
  have hclimb := climb_path (by decide) (rfl : seven.leaves[0]? = some (Field.ofNat 7)) hp
  refine ⟨hsize, hsize', hroots hzeros, hzeros, p, hlength, hrights, beq_iff_eq.mpr hclimb,
    fun hverify => ?_⟩
  rcases hpath 0 (Field.ofNat 8) p (by decide) hlength hrights hverify with heq | hcollide
  · exact absurd heq (by decide)
  · exact hcollide

end SevenAndZero

end ShieldedPool.Tree
