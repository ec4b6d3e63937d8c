import ShieldedPool.Json.Value
import ShieldedPool.Ledger.Confirmation
import ShieldedPool.Sessions
import ShieldedPool.Store.Error
import ShieldedPool.Withdrawal

namespace ShieldedPool.Pool

inductive InputFault where
  | zeroWithdrawal
  | invalidNote
  | invalidChangeNote
  | depositMismatch
  | unbalanced (spent available : UInt64)
  | amountOverflow
  | leafOutOfRange (leafIndex : UInt64)
  | amount (e : AmountError)
  | address (e : AddressError)
  | reported (text : String)
  deriving DecidableEq, Repr

def InputFault.message : InputFault → String
  | .zeroWithdrawal => "withdrawal amount must be positive"
  | .invalidNote => "invalid note"
  | .invalidChangeNote => "invalid change note"
  | .depositMismatch => "deposit data does not match the prepared deposit"
  | .unbalanced spent available => (NoteFault.unbalanced spent available).message
  | .amountOverflow => "amount overflows"
  | .leafOutOfRange i => "leaf index " ++ Text.Decimal.text i.toNat ++ " out of range"
  | .amount e => e.message
  | .address e => e.message
  | .reported text => text

inductive RequestFault where
  | noGroup
  | malformedSigned
  | proofNotHex
  | reported (text : String)
  deriving DecidableEq, Repr

def RequestFault.message : RequestFault → String
  | .noGroup => "signed transaction has no group"
  | .malformedSigned => "the signed transaction is malformed"
  | .proofNotHex => "proof is not valid hex"
  | .reported text => text

inductive InternalFault where
  | note (e : NoteError)
  | rootMissing
  | rootMismatch (stored : Word) (leafCount : UInt64) (computed : Word) (leaves : Nat)
  | reported (text : String)
  deriving DecidableEq

def InternalFault.message : InternalFault → String
  | .note e => e.message
  | .rootMissing => "pool root not available yet"
  | .rootMismatch stored leafCount computed leaves =>
    "root mismatch: stored " ++ Text.Hex.encode stored.bytes ++ " over " ++
      Text.Decimal.text leafCount.toNat ++ " leaves, computed " ++
      Text.Hex.encode computed.bytes ++ " over " ++ Text.Decimal.text leaves
  | .reported text => text

end Pool

inductive PoolError where
  | validation (fault : Pool.InputFault)
  | badRequest (fault : Pool.RequestFault)
  | invalidNote
  | noteTooSmall (max : Amount)
  | session (e : SessionError)
  | build (e : Ledger.BuildError)
  | confirmation (o : Ledger.Outcome) (max : Option Amount)
  | ledger (e : Ledger.LedgerError)
  | store (e : StoreError)
  | internal (fault : Pool.InternalFault)
  deriving DecidableEq

namespace PoolError

def message : PoolError → String
  | .validation fault => "invalid input: " ++ fault.message
  | .badRequest fault => "bad request: " ++ fault.message
  | .invalidNote => "the note you provided is not valid"
  | .noteTooSmall max => "note amount too small, the maximum you can withdraw is " ++ max.display
  | .session e => e.message
  | .build e => e.message
  | .confirmation o _ => o.message
  | .ledger e => "ledger: " ++ e.message
  | .store e => "database: " ++ e.message
  | .internal fault => "internal: " ++ fault.message

def buildStatus : Ledger.BuildError → Nat
  | .belowMinimumDeposit _ _ | .zeroAmount | .feeBelowBudget _ _ | .missingLeafIndex => 422
  | .signedTxnMismatch | .malformedProof _ => 400
  | _ => 500

def outcomeStatus : Ledger.Outcome → Nat
  | .rejected _ | .overSpend _ | .minBalance _ => 422
  | .expired _ | .waitTimeout _ => 408
  | .internal _ => 500

def status : PoolError → Nat
  | .validation _ | .invalidNote | .noteTooSmall _ => 422
  | .badRequest _ => 400
  | .session _ => 404
  | .build e => buildStatus e
  | .confirmation o _ => outcomeStatus o
  | .ledger _ => 502
  | .store _ | .internal _ => 500

def isServerFault (e : PoolError) : Bool := 500 ≤ e.status

def outcomeRemedy (o : Ledger.Outcome) (max : Option Amount) : String :=
  match o with
  | .rejected _ => "the network rejected the transaction, please try again"
  | .overSpend _ | .minBalance _ =>
    match max with
    | some a => "the maximum amount you can deposit is " ++ a.display
    | none => "you do not have enough funds to cover this transaction"
  | .expired _ => "the transaction expired before it was sent, please try again"
  | .waitTimeout _ => "not confirmed yet; it may still confirm, check again in a few minutes"
  | .internal _ => "something went wrong and nothing was processed, please try again"

def remedy : PoolError → String
  | .validation _ | .badRequest _ => "correct the request and resubmit"
  | .invalidNote => "check the note text; it must belong to a confirmed deposit"
  | .noteTooSmall max => "withdraw at most " ++ max.display
  | .session _ => "prepare the deposit again"
  | .confirmation o max => outcomeRemedy o max
  | .build _ | .ledger _ | .store _ | .internal _ =>
    "something went wrong, please try again later"

def maxAmount : PoolError → Option Amount
  | .confirmation _ max => max
  | .noteTooSmall max => some max
  | _ => none

def body (e : PoolError) : Json.Value :=
  .object
    [("error", .text (if e.isServerFault then "internal error" else e.message)),
      ("max_amount", match e.maxAmount with
        | none => .null
        | some a => .number a.units.toNat),
      ("remedy", .text e.remedy)]

end PoolError

end ShieldedPool
