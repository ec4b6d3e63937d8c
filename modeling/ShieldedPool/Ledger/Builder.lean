import ShieldedPool.Arithmetic
import ShieldedPool.Ledger.Abi
import ShieldedPool.Ledger.Client
import ShieldedPool.Ledger.Signed
import ShieldedPool.Withdrawal

namespace ShieldedPool.Ledger

structure PoolContract where
  appId : UInt64
  appAddress : Address
  verifierAddress : Address
  verifierProgram : Bytes
  deriving DecidableEq

structure BuilderConfig where
  depositMinimum : UInt64 := Protocol.depositMinimum
  depositFeeMultiplier : UInt64 := Protocol.depositFeeMultiplier
  withdrawalFeeMultiplier : UInt64 := Protocol.withdrawalFeeMultiplier
  nullifierDeposit : UInt64 := Protocol.nullifierDeposit
  groupSize : Nat := Protocol.groupSize
  deriving DecidableEq

structure DepositGroup where
  txns : List Transaction
  groupId : GroupId
  watch : String
  indexToSign : Nat
  deriving DecidableEq

structure WithdrawalGroup where
  txns : List Transaction
  groupId : GroupId
  watch : String
  deriving DecidableEq

structure Builder where
  pool : PoolContract
  config : BuilderConfig := {}

namespace Builder

def call (b : Builder) (params : ChainParams) (fee : UInt64) (args : List Bytes)
    (accounts : List Address) (note : Bytes) : Transaction :=
  { sender := b.pool.verifierAddress, fee, firstValid := params.firstValid,
    lastValid := params.lastValid, genesisId := params.genesisId,
    genesisHash := params.genesisHash, group := none, note,
    kind := .appCall b.pool.appId args accounts }

def payment (b : Builder) (params : ChainParams) (depositor : Address) (fee amount : UInt64) :
    Transaction :=
  { sender := depositor, fee, firstValid := params.firstValid, lastValid := params.lastValid,
    genesisId := params.genesisId, genesisHash := params.genesisHash, group := none, note := [],
    kind := .payment b.pool.appAddress amount }

def noops (b : Builder) (params : ChainParams) (first : Nat) : List Transaction :=
  (List.range' first (b.config.groupSize - first)).map fun i =>
    b.call params 0 [Abi.selector Protocol.noopSignature] [] (Bytes.natBE 8 i)

def checkGroupSize (b : Builder) : Except BuildError Unit :=
  if b.config.groupSize ≤ Protocol.paymentIndex then .error (.groupSize b.config.groupSize)
  else .ok ()

def watchOf (txns : List Transaction) : String :=
  match txns with
  | [] => ""
  | t :: _ => t.id

def depositArgs (amount : UInt64) (depositor : Address) (note : Note) :
    Except BuildError (List Bytes) := do
  let proof ← Abi.wordArray []
  let inputs ← Abi.wordArray [Note.amountWord amount, note.commitment]
  return [Abi.selector Protocol.depositSignature, proof, inputs, Abi.address depositor]

def depositTxns (b : Builder) (params : ChainParams) (depositor : Address) (fee amount : UInt64)
    (args : List Bytes) : List Transaction :=
  b.call params 0 args [] [] :: b.payment params depositor fee amount :: b.noops params 2

def checkDeposit (b : Builder) (amount : UInt64) (note : Note) : Except BuildError Unit :=
  if amount = 0 then .error .zeroAmount
  else if amount < b.config.depositMinimum then
    .error (.belowMinimumDeposit amount b.config.depositMinimum)
  else if note.amount ≠ amount then .error (.noteMismatch note.amount amount)
  else b.checkGroupSize

def deposit (b : Builder) (amount : UInt64) (depositor : Address) (note : Note)
    (params : ChainParams) : Except BuildError DepositGroup := do
  b.checkDeposit amount note
  match checkedMul b.config.depositFeeMultiplier params.minFee with
  | none => throw .feeOverflow
  | some fee =>
    let args ← depositArgs amount depositor note
    let (groupId, txns) := assignGroup (b.depositTxns params depositor fee amount args)
    return ⟨txns, groupId, watchOf txns, Protocol.paymentIndex⟩

def recipientWord (a : Address) : Word := Field.toWord (Field.ofWord a.key)

def publicInputs (w : Withdrawal) (root : Word) : List Word :=
  [recipientWord w.address, Note.amountWord w.amount.units, Note.amountWord w.fee.units,
    w.changeNote.commitment, w.fromNote.nullifier, root]

def withdrawalArgs (w : Withdrawal) (root : Word) (proof : Bytes) :
    Except BuildError (List Bytes) := do
  let words ← Abi.proofWords proof
  let proof ← Abi.wordArray words
  let inputs ← Abi.wordArray (publicInputs w root)
  return [Abi.selector Protocol.withdrawalSignature, proof, inputs, Abi.account 0, Abi.account 1,
    Abi.boolean (w.changeNote.amount == 0)]

def withdrawalBudget (b : Builder) (params : ChainParams) : Option (UInt64 × UInt64) := do
  let callFee ← checkedMul b.config.withdrawalFeeMultiplier params.minFee
  let required ← checkedAdd callFee b.config.nullifierDeposit
  return (callFee, required)

def checkWithdrawal (b : Builder) (w : Withdrawal) : Except BuildError Unit :=
  if w.fromNote.position = none then .error .missingLeafIndex
  else if w.amount.units = 0 then .error .zeroAmount
  else b.checkGroupSize

def withdrawal (b : Builder) (w : Withdrawal) (root : Word) (proof : Bytes)
    (params : ChainParams) : Except BuildError WithdrawalGroup := do
  b.checkWithdrawal w
  match b.withdrawalBudget params with
  | none => throw .feeOverflow
  | some (callFee, required) =>
    if w.fee.units < required then throw (.feeBelowBudget w.fee.units required)
    let args ← withdrawalArgs w root proof
    let (groupId, txns) :=
      assignGroup (b.call params callFee args [w.address] [] :: b.noops params 1)
    return ⟨txns, groupId, watchOf txns⟩

def authorizeProgram (b : Builder) (txns : List Transaction) : List SignedTransaction :=
  txns.map fun txn => ⟨txn, .program b.pool.verifierProgram⟩

def isSigned (s : SignedTransaction) : Bool :=
  match s.auth with
  | .signature sig => !sig.isEmpty
  | .program _ => false

def authorizeDeposit (b : Builder) (txns : List Transaction) (signed : SignedTransaction) :
    Except BuildError (List SignedTransaction) :=
  match txns[Protocol.paymentIndex]? with
  | none => .error (.groupSize txns.length)
  | some expected =>
    if signed.txn = expected ∧ isSigned signed then
      .ok ((b.authorizeProgram txns).set Protocol.paymentIndex signed)
    else .error .signedTxnMismatch

def maxDeposit (b : Builder) (account : AccountInfo) (params : ChainParams) : UInt64 :=
  let fees := saturatingMul b.config.depositFeeMultiplier params.minFee
  if fees ≤ account.spendable then account.spendable - fees else 0

end Builder

end ShieldedPool.Ledger
