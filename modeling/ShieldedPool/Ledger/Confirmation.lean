import ShieldedPool.Flow
import ShieldedPool.Ledger.Abi
import ShieldedPool.Ledger.Signed
import ShieldedPool.Text.Chars

namespace ShieldedPool.Ledger

inductive Outcome where
  | rejected (cause : String)
  | overSpend (cause : String)
  | minBalance (cause : String)
  | expired (cause : String)
  | waitTimeout (cause : String)
  | internal (cause : String)
  deriving DecidableEq, Repr

namespace Outcome

def isWaitTimeout : Outcome → Bool
  | .waitTimeout _ => true
  | _ => false

def cause : Outcome → String
  | .rejected c | .overSpend c | .minBalance c | .expired c | .waitTimeout c | .internal c => c

def message : Outcome → String
  | .rejected c => "transaction rejected: " ++ c
  | .overSpend c => "overspend: " ++ c
  | .minBalance c => "balance below minimum: " ++ c
  | .expired c => "transaction expired: " ++ c
  | .waitTimeout c => "not confirmed in time: " ++ c
  | .internal c => "internal error: " ++ c

def ofMessage (m : String) : Option Outcome :=
  if Text.mentions m "overspend" then some (.overSpend m)
  else if Text.mentions m "balance" &&
      (Text.mentions m "below min" || Text.mentions m "min balance") then some (.minBalance m)
  else if Text.mentions m "txn dead" || Text.mentions m "round outside" then some (.expired m)
  else none

def ofError : LedgerError → Outcome
  | .api status m =>
    match ofMessage m with
    | some o => o
    | none =>
      if status = 400 then .rejected m else .internal (LedgerError.api status m).message
  | e => .internal e.message

end Outcome

structure Confirmation where
  txnId : String
  confirmedRound : UInt64
  leafIndex : UInt64
  deriving DecidableEq

namespace Confirmation

variable {S : Type}

def verdict : Option PendingTransaction →
    Option (Except Outcome (UInt64 × PendingTransaction))
  | none => none
  | some p =>
    match p.confirmedRound with
    | some round => some (.ok (round, p))
    | none =>
      if p.poolError = "" then none
      else some (.error ((Outcome.ofMessage p.poolError).getD (.rejected p.poolError)))

def sighting : Reply PendingTransaction → Except LedgerError (Option PendingTransaction)
  | .ok p => .ok (some p)
  | .error (.api 404 _) => .ok none
  | .error e => .error e

def timeout (txid : String) (maxRounds : UInt64) : Outcome :=
  .waitTimeout
    (txid ++ " not confirmed after " ++ Text.Decimal.text maxRounds.toNat ++ " rounds")

def poll (txid : String) (maxRounds : UInt64) (deadline current : Nat) :
    Flow S (Except Outcome (UInt64 × PendingTransaction)) :=
  if _h : current < deadline then
    .ask (.pending txid) fun reply =>
      match sighting reply with
      | .error e => .done (.error (Outcome.ofError e))
      | .ok seen =>
        match verdict seen with
        | some v => .done v
        | none =>
          .ask (.statusAfter (UInt64.ofNat current)) fun reply =>
            match reply with
            | .error e => .done (.error (Outcome.ofError e))
            | .ok round => poll txid maxRounds deadline (max round.toNat (current + 1))
  else .done (.error (timeout txid maxRounds))
termination_by deadline - current
decreasing_by omega

def deadline (start maxRounds : UInt64) : Nat :=
  min (start.toNat + maxRounds.toNat) (UInt64.size - 1)

def wait (txid : String) (maxRounds : UInt64) :
    Flow S (Except Outcome (UInt64 × PendingTransaction)) :=
  .ask .status fun reply =>
    match reply with
    | .error e => .done (.error (Outcome.ofError e))
    | .ok start => poll txid maxRounds (deadline start maxRounds) start.toNat

def ofPending (watch : String) (round : UInt64) (p : PendingTransaction) :
    Except Outcome Confirmation :=
  match Abi.leafIndexOfLogs p.logs with
  | some leaf => .ok ⟨watch, round, leaf⟩
  | none => .error (.internal (watch ++ ": no leaf index in return log"))

def send (group : List SignedTransaction) (watch : String) (waitRounds : UInt64) :
    Flow S (Except Outcome Confirmation) :=
  .ask (.submit (encodeGroup group)) fun reply =>
    match reply with
    | .error e => .done (.error (Outcome.ofError e))
    | .ok _ =>
      (wait watch waitRounds).bind fun
        | .error o => .done (.error o)
        | .ok (round, p) => .done (ofPending watch round p)

end Confirmation

end ShieldedPool.Ledger
