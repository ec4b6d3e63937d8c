import ShieldedPool.Fault
import ShieldedPool.Ledger.Node
import ShieldedPool.Pool.Cleanup
import ShieldedPool.Server.Config
import ShieldedPool.Server.Log
import ShieldedPool.Store.Location
import ShieldedPool.Store.Query
import ShieldedPool.Vault

namespace ShieldedPool.Server

inductive ListenFault where
  | noPort
  | badPort
  deriving DecidableEq, Repr

def ListenFault.message : ListenFault → String
  | .noPort => "invalid socket address"
  | .badPort => "invalid port value"

def listenPort (address : String) : Except ListenFault Nat :=
  let cs := address.toList
  let port := (cs.reverse.takeWhile (· != ':')).reverse
  if port.length = cs.length then .error .noPort
  else
    match Text.Decimal.readBelow UInt16.size port with
    | .error _ => .error .badPort
    | .ok n => .ok n

inductive StartError where
  | config (e : ConfigError)
  | log (reason : String)
  | node (path : String) (e : Ledger.LedgerError)
  | vault (path : String) (e : VaultError)
  | database (fault : EngineFault)
  | contract (e : ConfigError)
  | listen (address : String) (fault : ListenFault)

def vaultCauses : VaultError → List String
  | .unreadable fault => [fault.message]
  | _ => []

def StartError.chain : StartError → List String
  | .config e => "invalid configuration" :: e.message :: e.causes
  | .log reason => [reason]
  | .node path e => ["reading node dir " ++ path, e.message]
  | .vault path e => ("loading vault public key " ++ path) :: e.message :: vaultCauses e
  | .database fault => "opening database" :: (StoreError.engine fault).message :: fault.causes
  | .contract e => e.message :: e.causes
  | .listen address fault => ["binding " ++ address, fault.message]

def openDatabase (files : Folder) (name : String) : Except EngineFault Unit × Folder :=
  match (Store.Location.parse .create name).bind fun location => location.locate name files with
  | .error fault => (.error fault, files)
  | .ok found =>
    let tables := (Store.Source.ofBytes (found.content.getD []).toByteArray).bind fun source =>
      source.addTables found.refusal
    (tables, found.folder)

structure Ready where
  node : Ledger.Node
  vault : Vault.PublicKey
  settings : Pool.Settings
  schedule : Pool.Schedule
  sessionTtl : Nat
  port : Nat

def inFolder (path name : String) : String :=
  if Folder.endsInSlash path then path ++ name else path ++ "/" ++ name

def connect (files : Folder) : NodeSource → Except StartError Ledger.Node
  | .url url token => .ok (Ledger.Node.ofUrl url token)
  | .directory path =>
    (Ledger.Node.ofFiles (files.read (inFolder path "algod.net"))
      (files.read (inFolder path "algod.token"))).mapError (.node path)

def settingsOf (c : Config) (pool : Ledger.PoolContract) : Pool.Settings :=
  { builder := ⟨pool, {}⟩, feePolicy := c.feePolicy, waitRounds := c.waitRounds }

def scheduleOf (c : Config) : Pool.Schedule :=
  ⟨c.cleanupInterval.toNat, c.sessionSweepInterval.toNat, c.unconfirmedRetention⟩

def prepare (env : Environment) (files : Folder) :
    Except StartError (Config × Ledger.Node × Vault.PublicKey) := do
  let config ← (Config.ofEnvironment env).mapError .config
  let _ ← (Logger.install none (env.lookup "RUST_LOG") config.logLevel config.logJson).mapError .log
  let node ← connect files config.node
  let vault ← (Vault.PublicKey.ofFile config.vaultKeyPath
    (files.read config.vaultKeyPath)).mapError (.vault config.vaultKeyPath)
  return (config, node, vault)

def finish (files : Folder) (config : Config) (node : Ledger.Node) (vault : Vault.PublicKey) :
    Except StartError Ready := do
  let pool ← (config.contract (files.read config.verifierProgramPath)).mapError .contract
  let port ← (listenPort config.listenAddress).mapError (.listen config.listenAddress)
  return ⟨node, vault, settingsOf config pool, scheduleOf config, config.sessionTtl.toNat, port⟩

def start (env : Environment) (files : Folder) : Except StartError Ready × Folder :=
  match prepare env files with
  | .error e => (.error e, files)
  | .ok (config, node, vault) =>
    match openDatabase files config.databasePath with
    | (.error fault, files) => (.error (.database fault), files)
    | (.ok (), files) => (finish files config node vault, files)

end ShieldedPool.Server
