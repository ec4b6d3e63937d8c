import ShieldedPool.Fault
import ShieldedPool.Ledger.Builder
import ShieldedPool.Server.Environment
import ShieldedPool.Text.Printable

namespace ShieldedPool.Server

inductive ConfigError where
  | missing (key : String)
  | invalid (key value reason : String)
  | unreadable (path : String) (fault : FileFault)
  deriving DecidableEq, Repr

def ConfigError.message : ConfigError → String
  | .missing key => key ++ " is required"
  | .invalid key value reason =>
    key ++ ": cannot parse " ++ Text.Quoted.text value ++ ": " ++ reason
  | .unreadable path fault => path ++ ": " ++ fault.message

def ConfigError.causes : ConfigError → List String
  | .unreadable _ fault => [fault.message]
  | _ => []

inductive NodeSource where
  | url (url token : String)
  | directory (path : String)
  deriving DecidableEq, Repr

structure Config where
  node : NodeSource
  databasePath : String
  listenAddress : String
  vaultKeyPath : String
  appId : UInt64
  appAddress : Address
  verifierAddress : Address
  verifierProgramPath : String
  feePolicy : FeePolicy
  waitRounds : UInt64
  cleanupInterval : UInt64
  sessionSweepInterval : UInt64
  unconfirmedRetention : UInt64
  sessionTtl : UInt64
  shutdownGrace : UInt64
  logLevel : String
  logJson : Bool
  deriving DecidableEq

namespace Config

def textOr (env : Environment) (key default : String) : String := (env.lookup key).getD default

def given? (env : Environment) (key : String) : Option String :=
  (env.lookup key).filter fun value => !(Text.trimList value.toList).isEmpty

def parseWith {α : Type} (read : String → Except String α) (key value : String) :
    Except ConfigError α :=
  match read (Text.trim value) with
  | .ok x => .ok x
  | .error reason => .error (.invalid key value reason)

def required {α : Type} (read : String → Except String α) (env : Environment) (key : String) :
    Except ConfigError α :=
  match given? env key with
  | none => .error (.missing key)
  | some value => parseWith read key value

def optional {α : Type} (read : String → Except String α) (env : Environment) (key : String)
    (default : α) : Except ConfigError α :=
  match given? env key with
  | none => .ok default
  | some value => parseWith read key value

def readNumber (s : String) : Except String UInt64 :=
  (Text.Decimal.readUInt64 s).mapError Text.Decimal.NumeralError.message

def readAddress (s : String) : Except String Address :=
  (Address.parse s).mapError AddressError.message

def readPath (s : String) : Except String String := .ok s

def readBool (s : String) : Except String Bool :=
  if s = "true" then .ok true
  else if s = "false" then .ok false
  else
    let mark := Char.ofNat 96
    .error (String.ofList ("provided string was not ".toList ++ mark :: "true".toList ++ mark ::
      " or ".toList ++ mark :: "false".toList ++ [mark]))

def nodeSource (env : Environment) : NodeSource :=
  match env.lookup "HV_NODE_DIR" with
  | some path =>
    if path = "" then
      .url (textOr env "HV_NODE_URL" "http://localhost:4001") (textOr env "HV_NODE_TOKEN" "")
    else .directory path
  | none => .url (textOr env "HV_NODE_URL" "http://localhost:4001") (textOr env "HV_NODE_TOKEN" "")

def ofEnvironment (env : Environment) : Except ConfigError Config := do
  let appId ← required readNumber env "HV_APP_ID"
  let appAddress ← required readAddress env "HV_APP_ADDRESS"
  let verifierAddress ← required readAddress env "HV_VERIFIER_ADDRESS"
  let databasePath ← optional readPath env "HV_DB_PATH" "hermesvault.db"
  let vaultKeyPath ← optional readPath env "HV_VAULT_PUBLIC_KEY_PATH" "public_key.bin"
  let divisor ← optional readNumber env "HV_FEE_DIVISOR" FeePolicy.standard.divisor
  let minimum ← optional readNumber env "HV_FEE_MINIMUM" FeePolicy.standard.minimum
  let waitRounds ← optional readNumber env "HV_WAIT_ROUNDS" Protocol.waitRounds
  let cleanupInterval ← optional readNumber env "HV_CLEANUP_INTERVAL_SECS" 600
  let sessionSweepInterval ← optional readNumber env "HV_SESSION_SWEEP_SECS" 60
  let unconfirmedRetention ← optional readNumber env "HV_UNCONFIRMED_RETENTION_SECS" 86400
  let sessionTtl ← optional readNumber env "HV_SESSION_TTL_SECS" 600
  let shutdownGrace ← optional readNumber env "HV_SHUTDOWN_GRACE_SECS" 60
  let logJson ← optional readBool env "HV_LOG_JSON" false
  return {
    node := nodeSource env
    databasePath
    listenAddress := textOr env "HV_LISTEN_ADDR" "0.0.0.0:5555"
    vaultKeyPath
    appId
    appAddress
    verifierAddress
    verifierProgramPath := textOr env "HV_VERIFIER_PROGRAM_PATH" "verifier.bin"
    feePolicy := ⟨divisor, minimum⟩
    waitRounds
    cleanupInterval
    sessionSweepInterval
    unconfirmedRetention
    sessionTtl
    shutdownGrace
    logLevel := textOr env "RUST_LOG" "info"
    logJson }

def contract (c : Config) (program : FileContent) : Except ConfigError Ledger.PoolContract :=
  match program with
  | .error fault => .error (.unreadable c.verifierProgramPath fault)
  | .ok verifierProgram => .ok ⟨c.appId, c.appAddress, c.verifierAddress, verifierProgram⟩

end Config

end ShieldedPool.Server
