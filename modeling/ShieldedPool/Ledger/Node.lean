import ShieldedPool.Fault
import ShieldedPool.Http.Url
import ShieldedPool.Json.Reader
import ShieldedPool.Ledger.Client
import ShieldedPool.Text.Chars

namespace ShieldedPool.Ledger

structure Node where
  baseUrl : String
  token : String
  deriving DecidableEq, Repr

structure NodeRequest where
  method : String
  url : String
  contentType : Option String := none
  body : Bytes := []
  deriving DecidableEq, Repr

structure NodeReply where
  status : Nat
  body : Bytes
  deriving DecidableEq, Repr

namespace Node

def trimSlashes (cs : List Char) : List Char := (cs.reverse.dropWhile (· == '/')).reverse

def ofUrl (url token : String) : Node := ⟨String.ofList (trimSlashes url.toList), token⟩

def afterColon (cs : List Char) : List Char := (cs.reverse.takeWhile (· != ':')).reverse

def hostOf (net : String) : List Char :=
  let cs := Text.trimList net.toList
  if "[::]".toList.isPrefixOf cs then "localhost:".toList ++ afterColon cs else cs

def readText (what : String) (file : FileContent) : Except LedgerError String :=
  match file.text with
  | .error fault => .error (.config ("failed to read node " ++ what ++ ": " ++ fault.message))
  | .ok s => .ok s

def ofFiles (net token : FileContent) : Except LedgerError Node := do
  let net ← readText "url" net
  let token ← readText "token" token
  return ofUrl (String.ofList ("http://".toList ++ hostOf net)) (Text.trim token)

def get (n : Node) (path : String) : NodeRequest := { method := "GET", url := n.baseUrl ++ path }

def request (n : Node) : {α : Type} → Query α → NodeRequest
  | _, .params => n.get "/v2/transactions/params"
  | _, .submit group =>
    { method := "POST", url := n.baseUrl ++ "/v2/transactions",
      contentType := some "application/x-binary", body := group }
  | _, .pending txid => n.get ("/v2/transactions/pending/" ++ txid)
  | _, .status => n.get "/v2/status"
  | _, .statusAfter round =>
    n.get ("/v2/status/wait-for-block-after/" ++ Text.Decimal.text round.toNat)
  | _, .account a => n.get ("/v2/accounts/" ++ a.encode)

def isSuccess (status : Nat) : Bool := 200 ≤ status && status < 300

def errorMessage (body : Bytes) : String :=
  match Json.parse (Json.readTexts ["message"]) body with
  | .ok fs => (fs.lookup "message").getD ""
  | .error _ => (Text.ofUtf8? body).getD ""

def readRecord (fields : List (Json.Field Json.Item)) (r : NodeReply) : Reply Json.Record :=
  if isSuccess r.status then
    match Json.parse (Json.readRecord fields) r.body with
    | .ok fs => .ok fs
    | .error _ => .error (.decode .syntaxError)
  else .error (.api r.status (errorMessage r.body))

def number (name : String) : Json.Field Json.Item := { name, read := Json.readNumber }

def string (name : String) : Json.Field Json.Item := { name, read := Json.readString }

def paramFields : List (Json.Field Json.Item) :=
  [number "fee", number "min-fee", number "last-round", string "genesis-id",
    string "genesis-hash"]

def pendingFields : List (Json.Field Json.Item) :=
  [{ name := "confirmed-round", read := Json.readNullable Json.readNumber,
      default := some .absent },
    { name := "pool-error", read := Json.readString, default := some (.text "") },
    { name := "logs", read := Json.readStrings, default := some (.texts []) }]

def accountFields : List (Json.Field Json.Item) :=
  [number "amount", { name := "min-balance", read := Json.readNumber, default := some (.number 0) }]

def decodeBase64 (text : String) : Reply Bytes :=
  match Text.Base64.decode? text.toList with
  | some bs => .ok bs
  | none => .error (.decode .syntaxError)

def validityWindow : UInt64 := 1000

def readParams (r : NodeReply) : Reply ChainParams := do
  let fs ← readRecord paramFields r
  let hash ← decodeBase64 (Json.Record.text fs "genesis-hash")
  match Block.ofBytes? 32 hash with
  | none => .error (.decode (.fieldLength "genesis-hash" hash.length))
  | some genesisHash =>
    let n (name : String) : UInt64 := (Json.Record.number fs name).getD 0
    .ok { fee := n "fee", minFee := n "min-fee", firstValid := n "last-round",
          lastValid := n "last-round" + validityWindow,
          genesisId := Json.Record.text fs "genesis-id", genesisHash }

def readPending (r : NodeReply) : Reply PendingTransaction := do
  let fs ← readRecord pendingFields r
  let logs ← (Json.Record.texts fs "logs").mapM decodeBase64
  return { confirmedRound := (Json.Record.number fs "confirmed-round").filter (0 < ·),
           poolError := Json.Record.text fs "pool-error", logs }

def readRound (r : NodeReply) : Reply UInt64 := do
  let fs ← readRecord [number "last-round"] r
  return (Json.Record.number fs "last-round").getD 0

def readTxId (r : NodeReply) : Reply String := do
  let fs ← readRecord [string "txId"] r
  return Json.Record.text fs "txId"

def readAccount (r : NodeReply) : Reply AccountInfo := do
  let fs ← readRecord accountFields r
  return ⟨(Json.Record.number fs "amount").getD 0, (Json.Record.number fs "min-balance").getD 0⟩

def read (r : NodeReply) : {α : Type} → Query α → α
  | _, .params => readParams r
  | _, .submit _ => readTxId r
  | _, .pending _ => readPending r
  | _, .status => readRound r
  | _, .statusAfter _ => readRound r
  | _, .account _ => readAccount r

def isHeaderText (s : String) : Bool :=
  s.toList.all fun c => c = '\t' || (0x20 ≤ c.toNat && c.toNat ≠ 0x7f)

def client {σ : Type} (n : Node) (send : NodeRequest → Http.Url → σ → Option NodeReply × σ) :
    Client σ where
  answer q s :=
    match Http.Url.parse? (n.request q).url with
    | none => (q.failure (.transport none), s)
    | some url =>
      if isHeaderText n.token then
        match send (n.request q) url s with
        | (none, s) => (q.failure (.transport none), s)
        | (some r, s) => (read r q, s)
      else (q.failure (.transport none), s)

end Node

end ShieldedPool.Ledger
