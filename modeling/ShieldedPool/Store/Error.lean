import ShieldedPool.Vault

namespace ShieldedPool

inductive RecordFault where
  | missingTxnId
  | unconfirmed (note : String)
  | wordLength (n : Nat)
  | txnType (n : Int)
  | negative (field : String) (value : Int)
  | outOfRange (field : String) (value : UInt64)
  | reported (text : String)
  deriving DecidableEq, Repr

def RecordFault.message : RecordFault → String
  | .missingTxnId => "unconfirmed note without txn id"
  | .unconfirmed note => "unconfirmed note " ++ note
  | .wordLength n => "expected 32-byte value, got " ++ Text.Decimal.text n
  | .txnType n => "txn_type " ++ Text.Decimal.intText n
  | .negative field value => "negative " ++ field ++ " " ++ Text.Decimal.intText value
  | .outOfRange field value =>
    field ++ " " ++ Text.Decimal.text value.toNat ++ " exceeds the sqlite integer range"
  | .reported text => text

inductive EngineCode where
  | general
  | denied
  | readOnly
  | inputOutput
  | malformed
  | full
  | cannotOpen
  | notDatabase
  | unflushed
  deriving DecidableEq, Repr

def EngineCode.number : EngineCode → Nat
  | .general => 1
  | .denied => 3
  | .readOnly => 8
  | .inputOutput => 10
  | .malformed => 11
  | .full => 13
  | .cannotOpen => 14
  | .notDatabase => 26
  | .unflushed => 1034

def EngineCode.description : EngineCode → String
  | .general => "SQL logic error"
  | .denied => "Access permission denied"
  | .readOnly => "Attempt to write a readonly database"
  | .inputOutput => "Some kind of disk I/O error occurred"
  | .malformed => "The database disk image is malformed"
  | .full => "Insertion failed because database is full"
  | .cannotOpen => "Unable to open the database file"
  | .notDatabase => "File opened that is not a database file"
  | .unflushed => "Error flushing data to persistent storage (fsync)"

def EngineCode.text (code : EngineCode) : String :=
  "Error code " ++ Text.Decimal.text code.number ++ ": " ++ code.description

structure EngineFault where
  message : String
  cause : Option String := none
  deriving DecidableEq, Repr

namespace EngineFault

def coded (code : EngineCode) (message : String) : EngineFault := ⟨message, some code.text⟩

def causes (f : EngineFault) : List String := f.message :: f.cause.toList

def general (message : String) : EngineFault := coded .general message

def readOnly : EngineFault := coded .readOnly "attempt to write a readonly database"

def full : EngineFault := coded .full "database or disk is full"

def inputOutput : EngineFault := coded .inputOutput "disk I/O error"

def unflushed : EngineFault := coded .unflushed "disk I/O error"

def malformed : EngineFault := coded .malformed "database disk image is malformed"

def noJournal : EngineFault := coded .cannotOpen "unable to open database file"

def cannotOpen (name : String) : EngineFault :=
  coded .cannotOpen ("unable to open database file: " ++ name)

def notDatabase : EngineFault := coded .notDatabase "file is not a database"

def wrongType (type : String) (index : Nat) (column : String) : EngineFault :=
  ⟨"Invalid column type " ++ type ++ " at index: " ++ Text.Decimal.text index ++ ", name: " ++
    column, none⟩

def notText (index : Nat) (reason : String) : EngineFault :=
  ⟨"Conversion error from type Text at index: " ++ Text.Decimal.text index ++ ", " ++ reason,
    some reason⟩

end EngineFault

inductive StoreError where
  | duplicate (table column : String)
  | engine (fault : EngineFault)
  | poisoned
  | vault (e : VaultError)
  | malformed (fault : RecordFault)
  | notFound
  deriving DecidableEq, Repr

def StoreError.message : StoreError → String
  | .duplicate table column => "sqlite: UNIQUE constraint failed: " ++ table ++ "." ++ column
  | .engine fault => "sqlite: " ++ fault.message
  | .poisoned => "database lock poisoned"
  | .vault e => "nullifier encryption: " ++ e.message
  | .malformed fault => "malformed record: " ++ fault.message
  | .notFound => "not found"

def StoreError.causes : StoreError → List String
  | .engine fault => fault.causes
  | _ => []

end ShieldedPool
