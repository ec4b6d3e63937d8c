import ShieldedPool.Note

namespace ShieldedPool

namespace Hash.Mimc

structure Collide (xs ys : List Scalar) : Prop where
  length_eq : xs.length = ys.length
  ne : xs ≠ ys
  hash_eq : hash xs = hash ys

theorem hash_eq_iff {xs ys : List Scalar} (h : xs.length = ys.length) :
    hash xs = hash ys ↔ xs = ys ∨ Collide xs ys := by
  constructor
  · intro hhash
    by_cases hsame : xs = ys
    · exact .inl hsame
    · exact .inr ⟨h, hsame, hhash⟩
  · rintro (rfl | hcollide)
    · rfl
    · exact hcollide.hash_eq

end Hash.Mimc

namespace Note

open Hash (Mimc.hash Mimc.Collide Mimc.hash_eq_iff)

theorem value_amountWord (amount : UInt64) : (amountWord amount).value = amount.toNat := by
  have hlt : amount.toNat < Bytes.capacity 32 := Nat.lt_trans amount.toNat_lt (by decide)
  rw [amountWord, Block.value, Block.natBE, Bytes.valueBE_natBE, Nat.mod_eq_of_lt hlt]

theorem amountWord_injective {a b : UInt64} (h : amountWord a = amountWord b) : a = b := by
  apply UInt64.toNat_inj.mp
  rw [← value_amountWord a, h, value_amountWord]

theorem value_nonceWord (nonce : Nonce) : (nonceWord nonce).value = nonce.value :=
  Bytes.valueBE_zero_cons nonce.bytes

theorem nonceWord_injective {a b : Nonce} (h : nonceWord a = nonceWord b) : a = b := by
  apply Block.eq_of_value_eq
  rw [← value_nonceWord a, h, value_nonceWord]

theorem ofWord_amountWord_inj {a b : UInt64} :
    Field.ofWord (amountWord a) = Field.ofWord (amountWord b) ↔ a = b := by
  have hbelow (x : UInt64) : (amountWord x).value < Field.modulus := by
    rw [value_amountWord]
    exact Nat.lt_trans x.toNat_lt (by decide)
  rw [Field.ofWord_inj (hbelow a) (hbelow b)]
  exact ⟨amountWord_injective, congrArg amountWord⟩

theorem ofWord_nonceWord_inj {a b : Nonce} :
    Field.ofWord (nonceWord a) = Field.ofWord (nonceWord b) ↔ a = b := by
  -- One byte less than a word keeps a nonce below the modulus.
  have hbelow (x : Nonce) : (nonceWord x).value < Field.modulus := by
    have hlt := Bytes.valueBE_lt x.bytes
    rw [x.length_eq] at hlt
    rw [value_nonceWord]
    exact Nat.lt_trans hlt (by decide)
  rw [Field.ofWord_inj (hbelow a) (hbelow b)]
  exact ⟨nonceWord_injective, congrArg nonceWord⟩

def spendInputs (n : Note) : List Scalar :=
  [amountWord n.amount, nonceWord n.k].map Field.ofWord

def leafInputs (n : Note) : List Scalar :=
  [amountWord n.amount, nonceWord n.k, nonceWord n.r].map Field.ofWord

@[simp] theorem length_spendInputs (n : Note) : n.spendInputs.length = 2 := rfl

@[simp] theorem length_leafInputs (n : Note) : n.leafInputs.length = 3 := rfl

variable {m n : Note}

theorem spendInputs_inj : m.spendInputs = n.spendInputs ↔ m.amount = n.amount ∧ m.k = n.k := by
  simp [spendInputs, ofWord_amountWord_inj, ofWord_nonceWord_inj]

theorem leafInputs_inj :
    m.leafInputs = n.leafInputs ↔ m.amount = n.amount ∧ m.k = n.k ∧ m.r = n.r := by
  simp [leafInputs, ofWord_amountWord_inj, ofWord_nonceWord_inj]

theorem nullifier_eq_iff : m.nullifier = n.nullifier ↔
    (m.amount = n.amount ∧ m.k = n.k) ∨ Mimc.Collide m.spendInputs n.spendInputs := by
  have hhash : m.nullifier = n.nullifier ↔ Mimc.hash m.spendInputs = Mimc.hash n.spendInputs :=
    Field.toWord_inj
  rw [hhash, Mimc.hash_eq_iff (by simp), spendInputs_inj]

theorem leafValue_eq_iff : m.leafValue = n.leafValue ↔
    (m.amount = n.amount ∧ m.k = n.k ∧ m.r = n.r) ∨ Mimc.Collide m.leafInputs n.leafInputs := by
  have hhash : m.leafValue = n.leafValue ↔ Mimc.hash m.leafInputs = Mimc.hash n.leafInputs :=
    Field.toWord_inj
  rw [hhash, Mimc.hash_eq_iff (by simp), leafInputs_inj]

-- A leaf value is the word of a field element, so the second hash reduces nothing.
theorem ofWord_leafValue_inj :
    Field.ofWord m.leafValue = Field.ofWord n.leafValue ↔ m.leafValue = n.leafValue := by
  have hword (n : Note) : Field.toWord (Field.ofWord n.leafValue) = n.leafValue := by
    rw [leafValue, Hash.Mimc.hashWords, Field.ofWord_toWord]
  rw [← Field.toWord_inj, hword, hword]

theorem commitment_eq_iff : m.commitment = n.commitment ↔
    (m.amount = n.amount ∧ m.k = n.k ∧ m.r = n.r) ∨ Mimc.Collide m.leafInputs n.leafInputs ∨
      Mimc.Collide [Field.ofWord m.leafValue] [Field.ofWord n.leafValue] := by
  have hhash : m.commitment = n.commitment ↔
      Mimc.hash [Field.ofWord m.leafValue] = Mimc.hash [Field.ofWord n.leafValue] :=
    Field.toWord_inj
  rw [hhash, Mimc.hash_eq_iff (by simp), List.singleton_inj, ofWord_leafValue_inj,
    leafValue_eq_iff, or_assoc]

theorem derivations_bind (m n : Note) :
    (m.nullifier = n.nullifier ↔
      (m.amount = n.amount ∧ m.k = n.k) ∨ Mimc.Collide m.spendInputs n.spendInputs) ∧
    (m.commitment = n.commitment ↔
      (m.amount = n.amount ∧ m.k = n.k ∧ m.r = n.r) ∨ Mimc.Collide m.leafInputs n.leafInputs ∨
        Mimc.Collide [Field.ofWord m.leafValue] [Field.ofWord n.leafValue]) ∧
    (∀ r leafIndex txnId, { n with r, leafIndex, txnId }.nullifier = n.nullifier) ∧
    ∀ leafIndex txnId, { n with leafIndex, txnId }.commitment = n.commitment :=
  ⟨nullifier_eq_iff, commitment_eq_iff, fun _ _ _ => rfl, fun _ _ => rfl⟩

end Note

end ShieldedPool
