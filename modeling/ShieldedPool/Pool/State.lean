import ShieldedPool.Ledger.Builder
import ShieldedPool.Pool.Error
import ShieldedPool.Store.Basic
import ShieldedPool.Tree

namespace ShieldedPool.Pool

structure PreparedDeposit where
  amount : Amount
  address : Address
  note : Note
  txns : List Ledger.Transaction
  groupId : Ledger.GroupId
  watch : String
  indexToSign : Nat
  deriving DecidableEq

structure State where
  store : Store
  sessions : Sessions PreparedDeposit
  source : Random.Source
  now : Nat

structure Settings where
  builder : Ledger.Builder
  feePolicy : FeePolicy := FeePolicy.standard
  waitRounds : UInt64 := Protocol.waitRounds

abbrev Action (α : Type) := Flow State (Except PoolError α)

namespace State

def clock (s : State) : UInt64 := UInt64.ofNat s.now

def storeSession (d : PreparedDeposit) (s : State) :
    Except SessionError Ledger.GroupId × State :=
  let (r, sessions) := s.sessions.store s.now d.groupId d
  (r, { s with sessions })

def takeSession (key : Ledger.GroupId) (s : State) :
    Except SessionError PreparedDeposit × State :=
  let (r, sessions) := s.sessions.take s.now key
  (r, { s with sessions })

def generateNote (amount : UInt64) (s : State) : Except NoteError Note × State :=
  let (r, source) := Note.generate amount s.source
  (r, { s with source })

def register (n : Note) (s : State) : Except StoreError Int × State :=
  let (r, store, source) := s.store.registerUnconfirmed n s.clock s.source
  (r, { s with store, source })

def saveNote (n : Note) (s : State) : Except StoreError Unit × State :=
  let (r, store, source) := s.store.saveNote n s.source
  (r, { s with store, source })

def deleteUnconfirmed (id : Int) (s : State) : Unit × State :=
  ((), { s with store := s.store.deleteUnconfirmed id })

end State

def shouldDelete : Except Ledger.Outcome Bool → Bool
  | .ok saved => saved
  | .error o => !o.isWaitTimeout

def release (id : Int) (outcome : Except Ledger.Outcome Bool) : Flow State Unit :=
  if shouldDelete outcome then .act (State.deleteUnconfirmed id) .done else .done ()

def decodeSigned (text : String) : Except PoolError Ledger.SignedTransaction :=
  match Text.Base64.decode? (Text.trimList text.toList) with
  | none => .error (.badRequest .malformedSigned)
  | some bs =>
    match Ledger.SignedTransaction.decode bs with
    | .error _ => .error (.badRequest .malformedSigned)
    | .ok s => .ok s

def encodeTxn (t : Ledger.Transaction) : String := Text.Base64.encode t.encode

def encodeSigned (s : Ledger.SignedTransaction) : String := Text.Base64.encode s.encode

def maxDeposit (c : Settings) (address : Address) : Action Amount :=
  .ask (.account address) fun reply =>
    match reply with
    | .error e => .done (.error (.ledger e))
    | .ok account =>
      .ask .params fun reply =>
        match reply with
        | .error e => .done (.error (.ledger e))
        | .ok params => .done (.ok (Amount.ofUnits (c.builder.maxDeposit account params)))

structure Witness where
  leafIndex : UInt64
  root : Word
  siblings : List Word
  rights : List Bool

def witness (leafIndex : UInt64) (s : Store) : Except PoolError Witness :=
  match s.commitments with
  | .error e => .error (.store e)
  | .ok ws =>
    let tree := Tree.ofCommitments ws
    match tree.path? leafIndex.toNat with
    | none => .error (.validation (.leafOutOfRange leafIndex))
    | some p => .ok ⟨leafIndex, tree.rootWord, p.siblings.map Field.toWord, p.rights⟩

def confirmedNote (text : String) (s : Store) : Except PoolError Note :=
  match Note.parse text with
  | .error _ => .error .invalidNote
  | .ok n =>
    match s.txnOf n.commitment with
    | .ok (leaf, txnId) => .ok { n with leafIndex := leaf, txnId := some txnId }
    | .error .notFound => .error .invalidNote
    | .error e => .error (.store e)

def verifiedRoot (s : Store) : Except PoolError Word :=
  match s.commitments with
  | .error e => .error (.store e)
  | .ok ws =>
    let computed := (Tree.ofCommitments ws).rootWord
    match s.currentRoot with
    | .error .notFound => .error (.internal .rootMissing)
    | .error e => .error (.store e)
    | .ok (stored, leafCount) =>
      if stored = computed ∧ leafCount = UInt64.ofNat ws.length then .ok computed
      else .error (.internal (.rootMismatch stored leafCount computed ws.length))

end ShieldedPool.Pool
