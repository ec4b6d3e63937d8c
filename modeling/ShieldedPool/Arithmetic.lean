namespace ShieldedPool

def checkedMul (a b : UInt64) : Option UInt64 :=
  if a.toNat * b.toNat < UInt64.size then some (a * b) else none

def checkedAdd (a b : UInt64) : Option UInt64 :=
  if a.toNat + b.toNat < UInt64.size then some (a + b) else none

def saturatingMul (a b : UInt64) : UInt64 :=
  (checkedMul a b).getD (UInt64.ofNat (UInt64.size - 1))

/-- Square and multiply over the lowest `bits` bits of the exponent. -/
def powMod (p base : Nat) : Nat → Nat → Nat
  | 0, _ => 1
  | bits + 1, e =>
    let half := powMod p base bits (e / 2)
    let square := half * half % p
    if e % 2 = 1 then square * base % p else square

end ShieldedPool
