namespace ShieldedPool

namespace Protocol

def treeLevels : Nat := 32

def emptyLeafIndex : UInt64 := 18446744073709551615

def depositMinimum : UInt64 := 1000000

def unitsPerCoin : Nat := 1000000

def unitDecimals : Nat := 6

def paymentIndex : Nat := 1

def groupSize : Nat := 8

def depositFeeMultiplier : UInt64 := 56

def withdrawalFeeMultiplier : UInt64 := 60

/-- What the pool program withholds to store a nullifier. -/
def nullifierDeposit : UInt64 := 15300

def withdrawalMinimumFee : UInt64 := 75300

def waitRounds : UInt64 := 30

def depositSignature : String := "deposit(byte[32][],byte[32][],address)(uint64,byte[32])"

def withdrawalSignature : String :=
  "withdraw(byte[32][],byte[32][],account,account,bool)(uint64,byte[32])"

def noopSignature : String := "noop()void"

end Protocol

/-- A share of the amount, one part in `divisor`, with a floor; divisor zero leaves the floor. -/
structure FeePolicy where
  divisor : UInt64
  minimum : UInt64
  deriving DecidableEq, Repr

namespace FeePolicy

def standard : FeePolicy := ⟨0, Protocol.withdrawalMinimumFee⟩

def fee (p : FeePolicy) (amount : UInt64) : UInt64 :=
  if p.divisor = 0 then p.minimum else max (amount / p.divisor) p.minimum

end FeePolicy

end ShieldedPool
