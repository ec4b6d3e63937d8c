import ShieldedPool.Bytes

namespace ShieldedPool

namespace Field

def modulus : Nat := 0x30644e72e131a029b85045b68181585d2833e84879b9709143e1f593f0000001

theorem modulus_pos : 0 < modulus := by decide

end Field

abbrev Scalar := Fin Field.modulus

namespace Field

def ofNat (n : Nat) : Scalar := ⟨n % modulus, Nat.mod_lt n modulus_pos⟩

def zero : Scalar := ofNat 0

def ofWord (w : Word) : Scalar := ofNat w.value

def toWord (x : Scalar) : Word := Block.natBE 32 x.val

theorem ofWord_toWord (x : Scalar) : ofWord (toWord x) = x := by
  have h : x.val < Bytes.capacity 32 := Nat.lt_trans x.isLt (by decide)
  apply Fin.ext
  change Bytes.valueBE (Bytes.natBE 32 x.val) % modulus = x.val
  rw [Bytes.valueBE_natBE, Nat.mod_eq_of_lt h, Nat.mod_eq_of_lt x.isLt]

theorem toWord_inj {x y : Scalar} : toWord x = toWord y ↔ x = y := by
  refine ⟨fun h => ?_, congrArg toWord⟩
  rw [← ofWord_toWord x, h, ofWord_toWord]

theorem ofWord_inj {v w : Word} (hv : v.value < modulus) (hw : w.value < modulus) :
    ofWord v = ofWord w ↔ v = w := by
  refine ⟨fun h => ?_, congrArg ofWord⟩
  have hvalue : v.value % modulus = w.value % modulus := congrArg Fin.val h
  rw [Nat.mod_eq_of_lt hv, Nat.mod_eq_of_lt hw] at hvalue
  exact Block.eq_of_value_eq hvalue

end Field

end ShieldedPool
