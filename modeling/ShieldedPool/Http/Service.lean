import ShieldedPool.Http.Body
import ShieldedPool.Http.MediaType
import ShieldedPool.Http.Message
import ShieldedPool.Json.Reader

namespace ShieldedPool.Http

open Pool (State Settings Action)

inductive Route where
  | health
  | stats
  | root
  | witness (leaf : List Char)
  | maxDeposit (address : List Char)
  | deposit
  | confirmDeposit
  | withdraw
  | confirmWithdraw

namespace Route

def ofName? : String → Option Route
  | "health" => some .health
  | "stats" => some .stats
  | "root" => some .root
  | "deposit" => some .deposit
  | "confirm-deposit" => some .confirmDeposit
  | "withdraw" => some .withdraw
  | "confirm-withdraw" => some .confirmWithdraw
  | _ => none

def ofSegments? : List (List Char) → Option Route
  | [version, name] => if version = ['v', '1'] then ofName? (String.ofList name) else none
  | [version, name, argument] =>
    if version ≠ ['v', '1'] ∨ argument = [] then none
    else if name = "witness".toList then some (.witness argument)
    else if name = "max-deposit".toList then some (.maxDeposit argument)
    else none
  | _ => none

def isQuery : Route → Bool
  | .health | .stats | .root | .witness _ | .maxDeposit _ => true
  | _ => false

def allows (route : Route) (method : String) : Bool :=
  if route.isQuery then method = "GET" || method = "HEAD" else method = "POST"

def headers : Route → List (String × String)
  | .stats => [("cache-control", "public, max-age=30")]
  | _ => []

end Route

def protectiveHeaders : List (String × String) :=
  [("x-content-type-options", "nosniff"), ("x-frame-options", "DENY"),
    ("referrer-policy", "no-referrer")]

inductive Refusal where
  | badRequest
  | notFound
  | methodNotAllowed
  | bodyTooLarge
  | unsupportedMediaType
  | unprocessable

def Refusal.status : Refusal → Nat
  | .badRequest => 400
  | .notFound => 404
  | .methodNotAllowed => 405
  | .bodyTooLarge => 413
  | .unsupportedMediaType => 415
  | .unprocessable => 422

def refuse (r : Refusal) : Response := { status := r.status }

def reply {α : Type} (body : α → Json.Value) : Except PoolError α → Response
  | .ok a => { status := 200, body := some (body a) }
  | .error e => { status := e.status, body := some e.body }

def maxBodySize : Nat := 2097152

def readForm (r : Request) (names : List String) : Except Refusal (List (String × String)) :=
  if !(r.contentType.bind MediaType.parse?).any MediaType.isJson then
    .error .unsupportedMediaType
  else if maxBodySize < r.body.length then .error .bodyTooLarge
  else
    match Json.parse (Json.readTexts names) r.body with
    | .ok form => .ok form
    | .error .malformed => .error .badRequest
    | .error .wrongShape => .error .unprocessable

abbrev Form := List (String × String)

def Form.text (form : Form) (name : String) : String := (form.lookup name).getD ""

def parseAmount (text : String) : Except PoolError UInt64 :=
  match Amount.parse text with
  | .ok a => .ok a.units
  | .error e => .error (.validation (.amount e))

def parseAddress (text : String) : Except PoolError Address :=
  match Address.parse text with
  | .ok a => .ok a
  | .error e => .error (.validation (.address e))

def stripMarks : List Char → List Char
  | '0' :: 'x' :: cs => stripMarks cs
  | cs => cs

def parseProof (text : String) : Except PoolError Bytes :=
  match Text.Hex.decode (Text.utf8 (String.ofList (stripMarks (Text.trimList text.toList)))) with
  | .ok proof => .ok proof
  | .error _ => .error (.badRequest .proofNotHex)

def payee (form : Form) : Except PoolError (UInt64 × Address) := do
  let amount ← parseAmount (form.text "amount")
  let address ← parseAddress (form.text "address")
  return (amount, address)

def depositForm (form : Form) : Except PoolError Pool.DepositForm := do
  let (amount, address) ← payee form
  return ⟨amount, address, form.text "note", form.text "signed_txn"⟩

def withdrawalForm (form : Form) : Except PoolError Pool.WithdrawalForm := do
  let proof ← parseProof (form.text "proof")
  let (amount, address) ← payee form
  return ⟨amount, address, form.text "note", form.text "change_note", proof⟩

def answerForm {α β : Type} (r : Request) (names : List String)
    (parse : Form → Except PoolError α) (act : α → Action β) (body : β → Json.Value) :
    Flow State Response :=
  match readForm r names with
  | .error refusal => .done (refuse refusal)
  | .ok form =>
    match parse form with
    | .error e => .done (reply body (.error e))
    | .ok a => (act a).bind fun result => .done (reply body result)

def readStore {α : Type} (f : Store → Except PoolError α) (body : α → Json.Value) :
    Flow State Response :=
  .act (fun s => (f s.store, s)) fun result => .done (reply body result)

def storeResult {α : Type} : Except StoreError α → Except PoolError α
  | .ok a => .ok a
  | .error e => .error (.store e)

def answerWitness (leaf : List Char) : Flow State Response :=
  match (segmentText? leaf).map Text.Decimal.readUInt64 with
  | some (.ok i) => readStore (Pool.witness i) Body.witness
  | _ => .done (refuse .badRequest)

def answerMaxDeposit (c : Settings) (address : List Char) : Flow State Response :=
  match segmentText? address with
  | none => .done (refuse .badRequest)
  | some text =>
    match parseAddress text with
    | .error e => .done (reply Body.maxDeposit (.error e))
    | .ok a => (Pool.maxDeposit c a).bind fun result => .done (reply Body.maxDeposit result)

def Route.answer (c : Settings) (r : Request) : Route → Flow State Response
  | .health => .done (reply id (.ok Body.health))
  | .stats => readStore (fun s => storeResult s.stats) Body.stats
  | .root => readStore (fun s => storeResult s.currentRoot) Body.root
  | .witness leaf => answerWitness leaf
  | .maxDeposit address => answerMaxDeposit c address
  | .deposit =>
    answerForm r ["amount", "address"] payee
      (fun p => Pool.prepareDeposit c p.1 p.2) Body.ticket
  | .confirmDeposit =>
    answerForm r ["amount", "address", "note", "signed_txn"] depositForm
      (Pool.confirmDeposit c) Body.depositReceipt
  | .withdraw =>
    answerForm r ["amount", "address", "note"]
      (fun form => (payee form).map fun p => (p, form.text "note"))
      (fun p => Pool.prepareWithdrawal c p.1.1 p.1.2 p.2) Body.withdrawal
  | .confirmWithdraw =>
    answerForm r ["amount", "address", "note", "change_note", "proof"] withdrawalForm
      (Pool.confirmWithdrawal c) Body.withdrawalReceipt

def Response.withHeaders (more : List (String × String)) (r : Response) : Response :=
  { r with headers := r.headers ++ more }

def Response.forMethod (method : String) (r : Response) : Response :=
  if method = "HEAD" then { r with body := none } else r

def serve (c : Settings) (r : Request) : Flow State Response :=
  match Route.ofSegments? r.segments with
  | none => .done ((refuse .notFound).withHeaders protectiveHeaders)
  | some route =>
    let headers := route.headers ++ protectiveHeaders
    if route.allows r.method then
      (route.answer c r).bind fun response =>
        .done ((response.forMethod r.method).withHeaders headers)
    else .done ((refuse .methodNotAllowed).withHeaders headers)

end ShieldedPool.Http
