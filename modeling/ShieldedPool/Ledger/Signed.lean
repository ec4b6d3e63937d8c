import ShieldedPool.Ledger.Transaction

namespace ShieldedPool.Ledger

inductive Authorization where
  | signature (bytes : Bytes)
  | program (bytes : Bytes)
  deriving DecidableEq

structure SignedTransaction where
  txn : Transaction
  auth : Authorization
  deriving DecidableEq

namespace SignedTransaction

def signatureSize : Nat := 64

def encode (s : SignedTransaction) : Bytes :=
  match s.auth with
  | .signature sig =>
    MessagePack.record [("sig", MessagePack.blob sig), ("txn", s.txn.encode)]
  | .program program =>
    MessagePack.record
      [("lsig", MessagePack.record [("l", MessagePack.blob program)]), ("txn", s.txn.encode)]

inductive Part where
  | program (bytes : Option Bytes)
  | signature (bytes : Option Bytes)
  | txn (fields : Transaction.FieldList)

def readProgram : MessagePack.Reader Bytes := fun bs =>
  match MessagePack.readRecord [("l", MessagePack.readBlob)] bs with
  | some ([(_, program)], rest) => some (program, rest)
  | _ => none

def partReaders : MessagePack.Fields Part :=
  [("lsig", fun bs => (MessagePack.readOptional readProgram bs).map
      fun (p, rest) => (.program p, rest)),
    ("sig", fun bs => (MessagePack.readOptional MessagePack.readBlob bs).map
      fun (s, rest) => (.signature s, rest)),
    ("txn", fun bs => (Transaction.readFields bs).map fun (fs, rest) => (.txn fs, rest))]

def authorization : Option Bytes → Option Bytes → Except LedgerError Authorization
  | some sig, none =>
    if sig.length = signatureSize then .ok (.signature sig)
    else .error (.decode (.fieldLength "signature" sig.length))
  | none, some program => .ok (.program program)
  | _, _ => .error (.decode .authorization)

def ofParts (parts : List (String × Part)) (fs : Transaction.FieldList) :
    Except LedgerError SignedTransaction := do
  let sig := match parts.lookup "sig" with
    | some (.signature s) => s
    | _ => none
  let program := match parts.lookup "lsig" with
    | some (.program p) => p
    | _ => none
  let auth ← authorization sig program
  let txn ← Transaction.ofFields fs
  return { txn, auth }

def decodeFront (bs : Bytes) : Except LedgerError (SignedTransaction × Bytes) :=
  match MessagePack.readRecord partReaders bs with
  | none => .error (.decode .syntaxError)
  | some (parts, rest) =>
    match parts.lookup "txn" with
    | some (.txn fs) => do
      let s ← ofParts parts fs
      if s.encode ++ rest = bs then return (s, rest) else .error (.decode .notCanonical)
    | _ => .error (.decode .syntaxError)

end SignedTransaction

def encodeGroup (group : List SignedTransaction) : Bytes := group.flatMap SignedTransaction.encode

def decodeMembers : Nat → Bytes → Except LedgerError (List SignedTransaction)
  | _, [] => .ok []
  | 0, _ :: _ => .error (.decode .syntaxError)
  | fuel + 1, b :: bs => do
    let (s, rest) ← SignedTransaction.decodeFront (b :: bs)
    let others ← decodeMembers fuel rest
    return s :: others

def decodeGroup (bs : Bytes) : Except LedgerError (List SignedTransaction) :=
  decodeMembers bs.length bs

def SignedTransaction.decode (bs : Bytes) : Except LedgerError SignedTransaction :=
  match decodeGroup bs with
  | .error e => .error e
  | .ok [s] => .ok s
  | .ok group => .error (.decode (.memberCount group.length))

end ShieldedPool.Ledger
