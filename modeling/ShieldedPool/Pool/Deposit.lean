import ShieldedPool.Pool.State

namespace ShieldedPool.Pool

structure DepositTicket where
  groupId : Ledger.GroupId
  amount : Amount
  txns : List String
  indexToSign : Nat
  noteText : String

structure DepositForm where
  amount : UInt64
  address : Address
  noteText : String
  signedTxn : String

structure DepositReceipt where
  txnId : String
  leafIndex : UInt64
  amount : Amount

def noteError : NoteError → PoolError
  | .malformed _ => .invalidNote
  | e => .internal (.note e)

def prepared (amount : UInt64) (address : Address) (note : Note) (g : Ledger.DepositGroup) :
    PreparedDeposit :=
  ⟨Amount.ofUnits amount, address, { note with txnId := some g.watch }, g.txns, g.groupId,
    g.watch, g.indexToSign⟩

def ticket (d : PreparedDeposit) : DepositTicket :=
  ⟨d.groupId, d.amount, d.txns.map encodeTxn, d.indexToSign, d.note.text⟩

def prepareDeposit (c : Settings) (amount : UInt64) (address : Address) :
    Action DepositTicket :=
  let minimum := c.builder.config.depositMinimum
  if amount < minimum then .done (.error (.build (.belowMinimumDeposit amount minimum)))
  else
    .act (State.generateNote amount) fun note =>
      match note with
      | .error e => .done (.error (noteError e))
      | .ok note =>
        .ask .params fun reply =>
          match reply with
          | .error e => .done (.error (.ledger e))
          | .ok params =>
            match c.builder.deposit amount address note params with
            | .error e => .done (.error (.build e))
            | .ok group =>
              let d := prepared amount address note group
              .act (State.storeSession d) fun stored =>
                match stored with
                | .error e => .done (.error (.session e))
                | .ok _ => .done (.ok (ticket d))

def authorize (c : Settings) (form : DepositForm) (signed : Ledger.SignedTransaction)
    (d : PreparedDeposit) : Except PoolError (List Ledger.SignedTransaction) :=
  match Note.parse form.noteText with
  | .error _ => .error (.validation .invalidNote)
  | .ok n =>
    if form.amount ≠ d.amount.units ∨ form.address ≠ d.address ∨ n.text ≠ d.note.text then
      .error (.validation .depositMismatch)
    else
      match c.builder.authorizeDeposit d.txns signed with
      | .error e => .error (.build e)
      | .ok group => .ok group

def affordable (c : Settings) (address : Address) (o : Ledger.Outcome) :
    Flow State (Option Amount) :=
  match o with
  | .overSpend _ | .minBalance _ =>
    (maxDeposit c address).bind fun
      | .ok a => .done (some a)
      | .error _ => .done none
  | _ => .done none

def submitDeposit (c : Settings) (d : PreparedDeposit) (group : List Ledger.SignedTransaction)
    (id : Int) : Action DepositReceipt :=
  (Ledger.Confirmation.send group d.watch c.waitRounds).bind fun
    | .error o =>
      (affordable c d.address o).bind fun max =>
        (release id (.error o)).bind fun _ => .done (.error (.confirmation o max))
    | .ok confirmed =>
      .act (State.saveNote { d.note with leafIndex := confirmed.leafIndex }) fun saved =>
        (release id (.ok saved.isOk)).bind fun _ =>
          .done (.ok ⟨confirmed.txnId, confirmed.leafIndex, d.amount⟩)

def confirmDeposit (c : Settings) (form : DepositForm) : Action DepositReceipt :=
  match decodeSigned form.signedTxn with
  | .error e => .done (.error e)
  | .ok signed =>
    match signed.txn.group with
    | none => .done (.error (.badRequest .noGroup))
    | some key =>
      .act (State.takeSession key) fun taken =>
        match taken with
        | .error e => .done (.error (.session e))
        | .ok d =>
          match authorize c form signed d with
          | .error e => .done (.error e)
          | .ok group =>
            .act (State.register d.note) fun registered =>
              match registered with
              | .error e => .done (.error (.store e))
              | .ok id => submitDeposit c d group id

end ShieldedPool.Pool
