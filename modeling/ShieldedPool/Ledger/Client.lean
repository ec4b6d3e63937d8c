import ShieldedPool.Ledger.Transaction

namespace ShieldedPool.Ledger

structure ChainParams where
  fee : UInt64
  minFee : UInt64
  firstValid : UInt64
  lastValid : UInt64
  genesisId : String
  genesisHash : Word
  deriving DecidableEq

def ChainParams.baseFee (p : ChainParams) : UInt64 := max p.fee p.minFee

structure PendingTransaction where
  confirmedRound : Option UInt64 := none
  poolError : String := ""
  logs : List Bytes := []
  deriving DecidableEq

structure AccountInfo where
  amount : UInt64
  minBalance : UInt64
  deriving DecidableEq

def AccountInfo.spendable (a : AccountInfo) : UInt64 :=
  if a.minBalance ≤ a.amount then a.amount - a.minBalance else 0

abbrev Reply (α : Type) := Except LedgerError α

inductive Query : Type → Type where
  | params : Query (Reply ChainParams)
  | submit (group : Bytes) : Query (Reply String)
  | pending (txid : String) : Query (Reply PendingTransaction)
  | status : Query (Reply UInt64)
  | statusAfter (round : UInt64) : Query (Reply UInt64)
  | account (address : Address) : Query (Reply AccountInfo)

structure Client (σ : Type) where
  answer : {α : Type} → Query α → σ → α × σ

def Query.failure (e : LedgerError) : {α : Type} → Query α → α
  | _, .params => .error e
  | _, .submit _ => .error e
  | _, .pending _ => .error e
  | _, .status => .error e
  | _, .statusAfter _ => .error e
  | _, .account _ => .error e

def Client.offline : Client Unit where
  answer q s := (q.failure (.transport none), s)

end ShieldedPool.Ledger
