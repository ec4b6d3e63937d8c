import ShieldedPool.Address
import ShieldedPool.Ledger.Error
import ShieldedPool.Ledger.MessagePack
import ShieldedPool.Text.Radix

namespace ShieldedPool.Ledger

structure GroupId where
  id : Word
  deriving DecidableEq

inductive TxnKind where
  | payment (receiver : Address) (amount : UInt64)
  | appCall (appId : UInt64) (args : List Bytes) (accounts : List Address)
  deriving DecidableEq

structure Transaction where
  sender : Address
  fee : UInt64
  firstValid : UInt64
  lastValid : UInt64
  genesisId : String
  genesisHash : Word
  group : Option GroupId
  note : Bytes
  kind : TxnKind
  deriving DecidableEq

namespace GroupId

def toBase64 (g : GroupId) : String := Text.Base64.encode g.id.bytes

def ofBase64 (text : String) : Except LedgerError GroupId :=
  match Text.Base64.decode? (Text.trimList text.toList) with
  | none => .error (.decode .syntaxError)
  | some bs =>
    match Block.ofBytes? 32 bs with
    | none => .error (.decode (.fieldLength "group id" bs.length))
    | some id => .ok ⟨id⟩

end GroupId

inductive FieldValue where
  | number (n : UInt64)
  | text (s : String)
  | blob (bs : Bytes)
  | blobs (items : List Bytes)
  deriving DecidableEq

namespace FieldValue

def write : FieldValue → Bytes
  | .number n => MessagePack.uint n
  | .text s => MessagePack.text s
  | .blob bs => MessagePack.blob bs
  | .blobs items => MessagePack.blobs items

def isEmpty : FieldValue → Bool
  | .number n => n == 0
  | .text s => s.isEmpty
  | .blob bs => bs.isEmpty
  | .blobs items => items.isEmpty

end FieldValue

namespace Transaction

def keyField (w : Word) : FieldValue := .blob (if w.isZero then [] else w.bytes)

def groupField : Option GroupId → FieldValue
  | none => .blob []
  | some g => keyField g.id

def allFields (t : Transaction) : List (String × FieldValue) :=
  let (amt, apaa, apat, apid, rcv, type) : UInt64 × List Bytes × List Bytes × UInt64 ×
      FieldValue × String :=
    match t.kind with
    | .payment receiver amount => (amount, [], [], 0, keyField receiver.key, "pay")
    | .appCall appId args accounts =>
      (0, args, accounts.map (·.key.bytes), appId, .blob [], "appl")
  [("amt", .number amt), ("apaa", .blobs apaa), ("apat", .blobs apat), ("apid", .number apid),
    ("fee", .number t.fee), ("fv", .number t.firstValid), ("gen", .text t.genesisId),
    ("gh", keyField t.genesisHash), ("grp", groupField t.group), ("lv", .number t.lastValid),
    ("note", .blob t.note), ("rcv", rcv), ("snd", keyField t.sender.key), ("type", .text type)]

def fields (t : Transaction) : List (String × FieldValue) :=
  t.allFields.filter fun f => !f.2.isEmpty

def encode (t : Transaction) : Bytes :=
  MessagePack.record (t.fields.map fun f => (f.1, f.2.write))

def readNumber : MessagePack.Reader FieldValue := fun bs =>
  (MessagePack.readUInt bs).map fun (n, rest) => (.number n, rest)

def readTextField : MessagePack.Reader FieldValue := fun bs =>
  (MessagePack.readText bs).map fun (s, rest) => (.text s, rest)

def readBlobField : MessagePack.Reader FieldValue := fun bs =>
  (MessagePack.readBlob bs).map fun (b, rest) => (.blob b, rest)

def readBlobsField : MessagePack.Reader FieldValue := fun bs =>
  (MessagePack.readBlobs bs).map fun (b, rest) => (.blobs b, rest)

def fieldReaders : MessagePack.Fields FieldValue :=
  [("amt", readNumber), ("apaa", readBlobsField), ("apat", readBlobsField), ("apid", readNumber),
    ("fee", readNumber), ("fv", readNumber), ("gen", readTextField), ("gh", readBlobField),
    ("grp", readBlobField), ("lv", readNumber), ("note", readBlobField), ("rcv", readBlobField),
    ("snd", readBlobField), ("type", readTextField)]

abbrev FieldList := List (String × FieldValue)

def number (fs : FieldList) (name : String) : UInt64 :=
  match fs.lookup name with
  | some (.number n) => n
  | _ => 0

def blob (fs : FieldList) (name : String) : Bytes :=
  match fs.lookup name with
  | some (.blob bs) => bs
  | _ => []

def blobs (fs : FieldList) (name : String) : List Bytes :=
  match fs.lookup name with
  | some (.blobs items) => items
  | _ => []

def text (fs : FieldList) (name : String) : String :=
  match fs.lookup name with
  | some (.text s) => s
  | _ => ""

def toKey (field : String) (bs : Bytes) : Except LedgerError Word :=
  if bs.isEmpty then .ok (Block.zero 32)
  else
    match Block.ofBytes? 32 bs with
    | none => .error (.decode (.fieldLength field bs.length))
    | some w => .ok w

def toKeys (field : String) : List Bytes → Except LedgerError (List Word)
  | [] => .ok []
  | bs :: rest => do
    let w ← toKey field bs
    let ws ← toKeys field rest
    return w :: ws

def kindOfFields (fs : FieldList) : Except LedgerError TxnKind :=
  match text fs "type" with
  | "pay" => do
    let receiver ← toKey "rcv" (blob fs "rcv")
    return .payment ⟨receiver⟩ (number fs "amt")
  | "appl" => do
    let accounts ← toKeys "apat" (blobs fs "apat")
    return .appCall (number fs "apid") (blobs fs "apaa") (accounts.map Address.mk)
  | other => .error (.decode (.unsupportedType other))

def groupOfFields (fs : FieldList) : Except LedgerError (Option GroupId) :=
  let grp := blob fs "grp"
  if grp.all (· == 0) then .ok none
  else do
    let id ← toKey "grp" grp
    return some ⟨id⟩

def ofFields (fs : FieldList) : Except LedgerError Transaction := do
  let kind ← kindOfFields fs
  let group ← groupOfFields fs
  let sender ← toKey "snd" (blob fs "snd")
  let genesisHash ← toKey "gh" (blob fs "gh")
  return { sender := ⟨sender⟩, fee := number fs "fee", firstValid := number fs "fv",
           lastValid := number fs "lv", genesisId := text fs "gen", genesisHash, group,
           note := blob fs "note", kind }

def readFields : MessagePack.Reader FieldList := fun bs =>
  match MessagePack.readRecord fieldReaders bs with
  | some (fs, rest) => if (fs.lookup "type").isSome then some (fs, rest) else none
  | none => none

def decode (bs : Bytes) : Except LedgerError Transaction :=
  match readFields bs with
  | none => .error (.decode .syntaxError)
  | some (fs, _) => do
    let t ← ofFields fs
    if t.encode = bs then return t else .error (.decode .notCanonical)

def idBytes (t : Transaction) : Word := Hash.Sha512.hash256 (Text.utf8 "TX" ++ t.encode)

def id (t : Transaction) : String := Text.Base32.encode t.idBytes.bytes

end Transaction

def groupDigest (txns : List Transaction) : GroupId :=
  let members := txns.map fun t => { t with group := none }.idBytes.bytes
  ⟨Hash.Sha512.hash256
    (Text.utf8 "TG" ++ MessagePack.record [("txlist", MessagePack.blobs members)])⟩

def assignGroup (txns : List Transaction) : GroupId × List Transaction :=
  let g := groupDigest txns
  (g, txns.map fun t => { t with group := some g })

end ShieldedPool.Ledger
