import ShieldedPool.Address
import ShieldedPool.Note

namespace ShieldedPool

structure Withdrawal where
  amount : Amount
  fee : Amount
  address : Address
  fromNote : Note
  changeNote : Note
  deriving DecidableEq

namespace Withdrawal

def deduction (p : FeePolicy) (amount : UInt64) : Nat := amount.toNat + (p.fee amount).toNat

def change (amount : UInt64) (fromNote : Note) (p : FeePolicy) : Except NoteError UInt64 :=
  let taken := deduction p amount
  if UInt64.size ≤ taken then .error .overflow
  else if fromNote.amount.toNat < taken then
    .error (.insufficient (UInt64.ofNat taken) fromNote.amount)
  else .ok (fromNote.amount - UInt64.ofNat taken)

def generateChange (amount : UInt64) (fromNote : Note) (p : FeePolicy) (source : Random.Source) :
    Except NoteError Note × Random.Source :=
  match change amount fromNote p with
  | .error e => (.error e, source)
  | .ok rest => Note.generate rest source

def assemble (amount : UInt64) (address : Address) (fromNote changeNote : Note) (p : FeePolicy) :
    Withdrawal :=
  ⟨Amount.ofUnits amount, Amount.ofUnits (p.fee amount), address, fromNote, changeNote⟩

def prepare (amount : UInt64) (address : Address) (fromNote : Note) (p : FeePolicy)
    (source : Random.Source) : Except NoteError Withdrawal × Random.Source :=
  match generateChange amount fromNote p source with
  | (.error e, source) => (.error e, source)
  | (.ok note, source) => (.ok (assemble amount address fromNote note p), source)

def withChange (amount : UInt64) (address : Address) (fromNote changeNote : Note)
    (p : FeePolicy) : Except NoteError Withdrawal :=
  let spent := deduction p amount + changeNote.amount.toNat
  if UInt64.size ≤ spent then .error .overflow
  else if spent ≠ fromNote.amount.toNat then
    .error (.malformed (.unbalanced (UInt64.ofNat spent) fromNote.amount))
  else .ok (assemble amount address fromNote changeNote p)

structure Preview where
  fee : UInt64
  change : Option UInt64
  maxWithdrawal : UInt64
  deriving DecidableEq, Repr

def subtract? (a b : UInt64) : Option UInt64 := if b ≤ a then some (a - b) else none

def preview (p : FeePolicy) (noteAmount amount : UInt64) : Preview where
  fee := p.fee amount
  change := (subtract? noteAmount amount).bind fun rest => subtract? rest (p.fee amount)
  maxWithdrawal := if p.fee noteAmount ≤ noteAmount then noteAmount - p.fee noteAmount else 0

end Withdrawal

end ShieldedPool
