import ShieldedPool.Amount
import ShieldedPool.Hash.Mimc
import ShieldedPool.Protocol
import ShieldedPool.Random
import ShieldedPool.Text.Hex
import ShieldedPool.Text.Utf8

namespace ShieldedPool

structure Note where
  amount : UInt64
  k : Nonce
  r : Nonce
  leafIndex : UInt64 := Protocol.emptyLeafIndex
  txnId : Option String := none
  deriving DecidableEq

inductive NoteFault where
  | badLength (bytes : Nat)
  | badHex (fault : Text.Hex.HexError)
  | unbalanced (spent available : UInt64)
  deriving DecidableEq, Repr

def NoteFault.message : NoteFault → String
  | .badLength n => "expected 140 hex chars, got " ++ Text.Decimal.text n
  | .badHex fault => fault.message
  | .unbalanced spent available =>
    "change note does not balance: " ++ Text.Decimal.text spent.toNat ++ " != " ++
      Text.Decimal.text available.toNat

inductive NoteError where
  | randomness
  | overflow
  | insufficient (required available : UInt64)
  | malformed (fault : NoteFault)
  deriving DecidableEq, Repr

def NoteError.message : NoteError → String
  | .randomness => "randomness source failed: " ++ Random.failureMessage
  | .overflow => "overflow in deduction"
  | .insufficient required available =>
    "note amount too small: need " ++ Text.Decimal.text required.toNat ++ ", have " ++
      Text.Decimal.text available.toNat
  | .malformed fault => "malformed note: " ++ fault.message

namespace Note

def position (n : Note) : Option UInt64 :=
  if n.leafIndex = Protocol.emptyLeafIndex then none else some n.leafIndex

def isConfirmed (n : Note) : Bool := n.position.isSome && n.txnId.isSome

def maxWithdrawal (n : Note) (p : FeePolicy) : Amount :=
  let fee := p.fee n.amount
  Amount.ofUnits (if fee ≤ n.amount then n.amount - fee else 0)

def textSize : Nat := 140

def bytes (n : Note) : Bytes := Bytes.ofUInt64 n.amount ++ n.k.bytes ++ n.r.bytes

def text (n : Note) : String := Text.Hex.encode n.bytes

def ofBytes? (bs : Bytes) : Option Note :=
  match Block.ofBytes? 31 ((bs.drop 8).take 31), Block.ofBytes? 31 (bs.drop 39) with
  | some k, some r => some { amount := Bytes.toUInt64 (bs.take 8), k, r }
  | _, _ => none

def parse (input : String) : Except NoteError Note :=
  let s := Text.trim input
  let size := s.utf8ByteSize
  if size ≠ textSize then .error (.malformed (.badLength size))
  else
    match Text.Hex.decode (Text.utf8 s) with
    | .error fault => .error (.malformed (.badHex fault))
    | .ok bs =>
      match ofBytes? bs with
      | none => .error (.malformed (.badLength size))
      | some n => .ok n

def redacted (n : Note) : String :=
  let leaf := match n.position with
    | none => "None"
    | some i => "Some(" ++ Text.Decimal.text i.toNat ++ ")"
  let txn := match n.txnId with
    | none => "None"
    | some t => "Some(" ++ Text.Quoted.text t ++ ")"
  "Note \x7b amount: " ++ Text.Decimal.text n.amount.toNat ++ ", leaf_index: " ++ leaf ++
    ", txn_id: " ++ txn ++ ", .. \x7d"

def generate (amount : UInt64) (source : Random.Source) : Except NoteError Note × Random.Source :=
  match source.draw 31 with
  | (none, source) => (.error .randomness, source)
  | (some k, source) =>
    match source.draw 31 with
    | (none, source) => (.error .randomness, source)
    | (some r, source) => (.ok { amount, k, r }, source)

def amountWord (amount : UInt64) : Word := Block.natBE 32 amount.toNat

def nonceWord (nonce : Nonce) : Word := (Block.zero 1).append nonce

def nullifier (n : Note) : Word := Hash.Mimc.hashWords [amountWord n.amount, nonceWord n.k]

def leafValue (n : Note) : Word :=
  Hash.Mimc.hashWords [amountWord n.amount, nonceWord n.k, nonceWord n.r]

def commitment (n : Note) : Word := Hash.Mimc.hashWords [n.leafValue]

end Note

end ShieldedPool
