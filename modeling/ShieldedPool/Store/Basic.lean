import ShieldedPool.Note
import ShieldedPool.Store.Error

/-!
The pool's database: confirmed notes, notes whose group was submitted but whose fate is open,
the pool's transactions, the tree's root and running totals. Integers are signed with 64 bits,
so leaf indices and times are stored as the signed numbers with the same bits and ordered as
such. Rows are kept in the order of their keys.
-/

namespace ShieldedPool

inductive TxnType where
  | deposit
  | withdrawal
  deriving DecidableEq, Repr

def TxnType.code : TxnType → Int
  | .deposit => 0
  | .withdrawal => 1

structure TxnRecord where
  leafIndex : UInt64
  commitment : Word
  txnId : String
  txnType : TxnType
  amount : UInt64
  fee : UInt64
  fromNullifier : Option Bytes
  deriving DecidableEq

structure UnconfirmedRecord where
  id : Int
  commitment : Word
  nullifier : Bytes
  txnId : String
  createdAt : UInt64
  deriving DecidableEq

structure ConfirmedRecord where
  leafIndex : UInt64
  commitment : Word
  txnId : String
  nullifier : Bytes
  deriving DecidableEq

structure Stats where
  depositTotal : Amount
  withdrawalTotal : Amount
  feeTotal : Amount
  depositCount : UInt64
  noteCount : UInt64
  deriving DecidableEq

namespace Stats

def minus (a b : UInt64) : UInt64 := if b ≤ a then a - b else 0

def spentNoteCount (s : Stats) : UInt64 := minus s.noteCount s.depositCount

def tvl (s : Stats) : Amount :=
  Amount.ofUnits (minus (minus s.depositTotal.units s.withdrawalTotal.units) s.feeTotal.units)

end Stats

namespace Store

structure NoteRow where
  leaf : Int
  commitment : Bytes
  txnId : String
  nullifier : Bytes
  deriving DecidableEq

structure PendingRow where
  id : Int
  commitment : Bytes
  nullifier : Bytes
  txnId : String
  createdAt : Int
  deriving DecidableEq

structure TxnRow where
  leaf : Int
  commitment : Bytes
  txnId : String
  txnType : Int
  amount : Int
  fee : Int
  fromNullifier : Option Bytes
  deriving DecidableEq

structure RootRow where
  value : Bytes
  leafCount : Int
  deriving DecidableEq

/-- A running total; one that left the signed range cannot be read back. -/
inductive Total where
  | exact (n : Int)
  | overflowed
  deriving DecidableEq

end Store

structure Store where
  vault : Vault.PublicKey
  notes : List Store.NoteRow := []
  pending : List Store.PendingRow := []
  lastId : Int := 0
  txns : List Store.TxnRow := []
  root : Option Store.RootRow := none
  totals : List (String × Store.Total) := []
  deriving DecidableEq

namespace Store

def signedLimit : Nat := 0x8000000000000000

def signed (n : UInt64) : Int :=
  if n.toNat < signedLimit then n.toNat else (n.toNat : Int) - UInt64.size

def unsigned (n : Int) : UInt64 := UInt64.ofNat (n % UInt64.size).toNat

theorem unsigned_signed (n : UInt64) : unsigned (signed n) = n := by
  have h := n.toNat_lt
  have size_eq : UInt64.size = 18446744073709551616 := rfl
  unfold unsigned signed
  rw [size_eq]
  split
  · rw [Int.emod_eq_of_lt (by omega) (by omega)]; simp
  · have h2 : ((n.toNat : Int) - (18446744073709551616 : Nat)) % (18446744073709551616 : Nat) =
        n.toNat := by omega
    rw [h2]; simp

def insertBy {α : Type} (key : α → Int) (row : α) (rows : List α) : List α :=
  rows.takeWhile (key · < key row) ++ row :: rows.dropWhile (key · < key row)

def toWord (bs : Bytes) : Except StoreError Word :=
  match Block.ofBytes? 32 bs with
  | none => .error (.malformed (.wordLength bs.length))
  | some w => .ok w

def toInteger (field : String) (n : UInt64) : Except StoreError Int :=
  if n.toNat < signedLimit then .ok n.toNat else .error (.malformed (.outOfRange field n))

def addNote (row : NoteRow) (s : Store) : Except StoreError Unit × Store :=
  if s.notes.any (·.leaf = row.leaf) then (.error (.duplicate "notes" "leaf_index"), s)
  else (.ok (), { s with notes := insertBy NoteRow.leaf row s.notes })

def nextId (s : Store) : Int := s.pending.foldl (fun id row => max id row.id) s.lastId + 1

def addPending (commitment nullifier : Bytes) (txnId : String) (createdAt : Int) (s : Store) :
    Except StoreError Int × Store :=
  let id := s.nextId
  if signedLimit ≤ id then (.error (.engine .full), s)
  else
    (.ok id, { s with
      pending := s.pending ++ [⟨id, commitment, nullifier, txnId, createdAt⟩]
      lastId := id })

def addTxn (row : TxnRow) (s : Store) : Except StoreError Unit × Store :=
  if s.txns.any (·.leaf = row.leaf) then (.error (.duplicate "txns" "leaf_index"), s)
  else if s.txns.any (·.commitment = row.commitment) then
    (.error (.duplicate "txns" "commitment"), s)
  else (.ok (), { s with txns := insertBy TxnRow.leaf row s.txns })

def setTotal (key : String) (t : Total) : List (String × Total) → List (String × Total)
  | [] => [(key, t)]
  | (k, u) :: rest => if k = key then (k, t) :: rest else (k, u) :: setTotal key t rest

def Total.add (delta : Int) : Total → Total
  | .exact n => if n + delta < signedLimit then .exact (n + delta) else .overflowed
  | .overflowed => .overflowed

def bump (totals : List (String × Total)) (b : String × Int) : List (String × Total) :=
  match totals.lookup b.1 with
  | none => setTotal b.1 (.exact b.2) totals
  | some t => setTotal b.1 (t.add b.2) totals

def sealNullifier (s : Store) (n : Note) (source : Random.Source) :
    Except StoreError Bytes × Random.Source :=
  match Vault.encrypt s.vault n.nullifier.bytes source with
  | (.error e, source) => (.error (.vault e), source)
  | (.ok blob, source) => (.ok blob, source)

def registerUnconfirmed (n : Note) (now : UInt64) (s : Store) (source : Random.Source) :
    Except StoreError Int × Store × Random.Source :=
  match n.txnId with
  | none => (.error (.malformed .missingTxnId), s, source)
  | some txnId =>
    match s.sealNullifier n source with
    | (.error e, source) => (.error e, s, source)
    | (.ok blob, source) =>
      let (r, s) := s.addPending n.commitment.bytes blob txnId (signed now)
      (r, s, source)

def saveNote (n : Note) (s : Store) (source : Random.Source) :
    Except StoreError Unit × Store × Random.Source :=
  match n.position, n.txnId with
  | some leaf, some txnId =>
    match s.sealNullifier n source with
    | (.error e, source) => (.error e, s, source)
    | (.ok blob, source) =>
      let (r, s) := s.addNote ⟨signed leaf, n.commitment.bytes, txnId, blob⟩
      (r, s, source)
  | _, _ => (.error (.malformed (.unconfirmed n.redacted)), s, source)

def deleteUnconfirmed (id : Int) (s : Store) : Store :=
  { s with pending := s.pending.filter (·.id ≠ id) }

def confirmedNote (leafIndex : UInt64) (s : Store) : Except StoreError ConfirmedRecord :=
  match s.notes.find? (·.leaf = signed leafIndex) with
  | none => .error .notFound
  | some row => do
    let commitment ← toWord row.commitment
    return ⟨unsigned row.leaf, commitment, row.txnId, row.nullifier⟩

def sealedNullifiers (s : Store) : List (UInt64 × Bytes) :=
  s.notes.map fun row => (unsigned row.leaf, row.nullifier)

def txnOf (commitment : Word) (s : Store) : Except StoreError (UInt64 × String) :=
  match s.txns.find? (·.commitment = commitment.bytes) with
  | none => .error .notFound
  | some row => .ok (unsigned row.leaf, row.txnId)

def leafOf (commitment : Word) (s : Store) : Except StoreError UInt64 :=
  (s.txnOf commitment).map Prod.fst

def commitments (s : Store) : Except StoreError (List Word) :=
  s.txns.mapM fun row => toWord row.commitment

def currentRoot (s : Store) : Except StoreError (Word × UInt64) :=
  match s.root with
  | none => .error .notFound
  | some row => do
    let w ← toWord row.value
    return (w, unsigned row.leafCount)

def total (key : String) (s : Store) : Except StoreError UInt64 :=
  match s.totals.lookup key with
  | none => .ok 0
  | some (.exact n) => .ok (unsigned n)
  | some .overflowed => .error (.engine (.wrongType "Real" 0 "value"))

def stats (s : Store) : Except StoreError Stats := do
  let deposits ← s.total "total_deposits"
  let withdrawals ← s.total "total_withdrawals"
  let fees ← s.total "total_fees"
  let count ← s.total "count_deposits"
  return ⟨Amount.ofUnits deposits, Amount.ofUnits withdrawals, Amount.ofUnits fees, count,
    UInt64.ofNat s.txns.length⟩

def bumps (t : TxnType) (amount fee : Int) : List (String × Int) :=
  match t with
  | .deposit => [("total_deposits", amount), ("count_deposits", 1)]
  | .withdrawal => [("total_withdrawals", amount), ("total_fees", fee)]

def recordTxn (t : TxnRecord) (s : Store) : Except StoreError Unit × Store :=
  match toInteger "amount" t.amount with
  | .error e => (.error e, s)
  | .ok amount =>
    match toInteger "fee" t.fee with
    | .error e => (.error e, s)
    | .ok fee =>
      match s.addTxn ⟨signed t.leafIndex, t.commitment.bytes, t.txnId, t.txnType.code, amount, fee,
          t.fromNullifier⟩ with
      | (.error e, _) => (.error e, s)
      | (.ok (), s) =>
        (.ok (), { s with totals := (bumps t.txnType amount fee).foldl bump s.totals })

def toUnsigned (field : String) (n : Int) : Except StoreError UInt64 :=
  if n < 0 then .error (.malformed (.negative field n)) else .ok (UInt64.ofNat n.toNat)

def toTxnType (n : Int) : Except StoreError TxnType :=
  if n = 0 then .ok .deposit
  else if n = 1 then .ok .withdrawal
  else .error (.malformed (.txnType n))

def TxnRow.toRecord (row : TxnRow) : Except StoreError TxnRecord := do
  let txnType ← toTxnType row.txnType
  let leafIndex ← toUnsigned "leaf_index" row.leaf
  let commitment ← toWord row.commitment
  let amount ← toUnsigned "amount" row.amount
  let fee ← toUnsigned "fee" row.fee
  return { leafIndex, commitment, txnId := row.txnId, txnType, amount, fee,
           fromNullifier := row.fromNullifier }

def spentBy (nullifier : Bytes) (s : Store) : Except StoreError (Option TxnRecord) :=
  match s.txns.find? fun row => row.txnType = 1 ∧ row.fromNullifier = some nullifier with
  | none => .ok none
  | some row => row.toRecord.map some

def deposits (s : Store) : Except StoreError (List TxnRecord) :=
  (s.txns.filter (·.txnType = 0)).mapM TxnRow.toRecord

def setRoot (root : Word) (leafCount : UInt64) (s : Store) : Store :=
  { s with root := some ⟨root.bytes, signed leafCount⟩ }

def PendingRow.toRecord (row : PendingRow) : Except StoreError UnconfirmedRecord := do
  let commitment ← toWord row.commitment
  return ⟨row.id, commitment, row.nullifier, row.txnId, unsigned row.createdAt⟩

def unconfirmedBatch (afterId : Int) (limit : UInt64) (s : Store) :
    Except StoreError (List UnconfirmedRecord) :=
  let rows := s.pending.filter (afterId < ·.id)
  let rows := if signed limit < 0 then rows else rows.take limit.toNat
  rows.mapM PendingRow.toRecord

def promote (r : UnconfirmedRecord) (leafIndex : UInt64) (s : Store) : Store :=
  let (_, s) := s.addNote ⟨signed leafIndex, r.commitment.bytes, r.txnId, r.nullifier⟩
  s.deleteUnconfirmed r.id

def maxVariables : Nat := 32766

def deleteUnconfirmedBatch (ids : List Int) (s : Store) : Except StoreError Nat × Store :=
  if maxVariables < ids.length then (.error (.engine (.general "too many SQL variables")), s)
  else
    let kept := s.pending.filter fun row => !ids.contains row.id
    (.ok (s.pending.length - kept.length), { s with pending := kept })

def unconfirmedCount (s : Store) : Nat := s.pending.length

structure Snapshot where
  sealedNullifiers : Except StoreError (List (UInt64 × Bytes))
  deposits : Except StoreError (List TxnRecord)
  spentBy : Bytes → Except StoreError (Option TxnRecord)

def snapshot (s : Store) : Snapshot :=
  { sealedNullifiers := .ok s.sealedNullifiers
    deposits := s.deposits
    spentBy := fun nullifier => s.spentBy nullifier }

end Store

end ShieldedPool
