import ShieldedPool.Text.Decimal
import ShieldedPool.Text.Printable

namespace ShieldedPool.Ledger

inductive DecodeFault where
  | syntaxError
  | notCanonical
  | fieldLength (field : String) (length : Nat)
  | unsupportedType (name : String)
  | authorization
  | memberCount (n : Nat)
  | emptyGroup
  | reported (text : String)
  deriving DecidableEq, Repr

def DecodeFault.text : DecodeFault → String
  | .syntaxError => "malformed input"
  | .notCanonical => "non-canonical transaction encoding"
  | .fieldLength field n => field ++ ": " ++ Text.Decimal.text n ++ " bytes"
  | .unsupportedType name => "unsupported transaction type " ++ Text.Quoted.text name
  | .authorization => "expected exactly one of sig and lsig"
  | .memberCount n => "expected one signed transaction, got " ++ Text.Decimal.text n
  | .emptyGroup => "empty group"
  | .reported text => text

inductive LedgerError where
  | api (status : Nat) (message : String)
  | transport (reason : Option String)
  | encode (reason : String)
  | decode (fault : DecodeFault)
  | config (reason : String)
  deriving DecidableEq, Repr

def LedgerError.message : LedgerError → String
  | .api status message => "node returned " ++ Text.Decimal.text status ++ ": " ++ message
  | .transport reason => "transport: " ++ reason.getD "connection failed"
  | .encode reason => "encode: " ++ reason
  | .decode fault => "decode: " ++ fault.text
  | .config reason => "config: " ++ reason

inductive BuildError where
  | belowMinimumDeposit (amount minimum : UInt64)
  | zeroAmount
  | feeOverflow
  | feeBelowBudget (fee required : UInt64)
  | missingLeafIndex
  | groupSize (n : Nat)
  | signedTxnMismatch
  | malformedProof (length : Nat)
  | noteMismatch (noteAmount amount : UInt64)
  | tooManyWords (n : Nat)
  | encoding (reason : String)
  deriving DecidableEq, Repr

def BuildError.message : BuildError → String
  | .belowMinimumDeposit amount minimum =>
    "amount " ++ Text.Decimal.text amount.toNat ++ " is below the minimum deposit of " ++
      Text.Decimal.text minimum.toNat
  | .zeroAmount => "amount must be positive"
  | .feeOverflow => "fee computation overflows"
  | .feeBelowBudget fee required =>
    "fee " ++ Text.Decimal.text fee.toNat ++ " does not cover the withdrawal budget of " ++
      Text.Decimal.text required.toNat
  | .missingLeafIndex => "note has no leaf index; it is not confirmed on-chain"
  | .groupSize n => "group size " ++ Text.Decimal.text n ++ " is too small"
  | .signedTxnMismatch => "signed transaction does not match the prepared group"
  | .malformedProof n =>
    "proof is " ++ Text.Decimal.text n ++ " bytes, not a whole number of 32-byte words"
  | .noteMismatch noteAmount amount =>
    "encoding: note amount " ++ Text.Decimal.text noteAmount.toNat ++
      " does not match deposit amount " ++ Text.Decimal.text amount.toNat
  | .tooManyWords n => "encoding: " ++ Text.Decimal.text n ++ " words overflow byte[32][]"
  | .encoding reason => "encoding: " ++ reason

end ShieldedPool.Ledger
