import ShieldedPool.Pool.State

namespace ShieldedPool.Pool

structure WithdrawalForm where
  amount : UInt64
  address : Address
  noteText : String
  changeNoteText : String
  proof : Bytes

structure WithdrawalReceipt where
  txnId : String
  amount : Amount
  fee : Amount
  changeAmount : Amount
  changeLeafIndex : UInt64

def withdrawalError (max : Amount) : NoteError → PoolError
  | .insufficient _ _ => .noteTooSmall max
  | .malformed (.unbalanced spent available) => .validation (.unbalanced spent available)
  | .malformed fault => .validation (.reported fault.message)
  | .overflow => .validation .amountOverflow
  | .randomness => .internal (.note .randomness)

def State.prepareWithdrawal (amount : UInt64) (address : Address) (note : Note) (p : FeePolicy)
    (s : State) : Except NoteError Withdrawal × State :=
  let (r, source) := Withdrawal.prepare amount address note p s.source
  (r, { s with source })

def prepareWithdrawal (c : Settings) (amount : UInt64) (address : Address) (noteText : String) :
    Action Withdrawal :=
  if amount = 0 then .done (.error (.validation .zeroWithdrawal))
  else
    .act (fun s => (confirmedNote noteText s.store, s)) fun found =>
      match found with
      | .error e => .done (.error e)
      | .ok note =>
        .act (State.prepareWithdrawal amount address note c.feePolicy) fun prepared =>
          match prepared with
          | .error e => .done (.error (withdrawalError (note.maxWithdrawal c.feePolicy) e))
          | .ok w => .done (.ok w)

def withdrawalOf (c : Settings) (form : WithdrawalForm) (fromNote : Note) :
    Except PoolError Withdrawal :=
  match Note.parse form.changeNoteText with
  | .error _ => .error (.validation .invalidChangeNote)
  | .ok change =>
    match Withdrawal.withChange form.amount form.address fromNote change c.feePolicy with
    | .error e => .error (withdrawalError (fromNote.maxWithdrawal c.feePolicy) e)
    | .ok w => .ok w

def submitWithdrawal (c : Settings) (w : Withdrawal) (g : Ledger.WithdrawalGroup)
    (change : Note) (id : Int) : Action WithdrawalReceipt :=
  (Ledger.Confirmation.send (c.builder.authorizeProgram g.txns) g.watch c.waitRounds).bind fun
    | .error o =>
      (release id (.error o)).bind fun _ => .done (.error (.confirmation o none))
    | .ok confirmed =>
      .act (State.saveNote { change with leafIndex := confirmed.leafIndex }) fun saved =>
        (release id (.ok saved.isOk)).bind fun _ =>
          .done (.ok ⟨confirmed.txnId, w.amount, w.fee, Amount.ofUnits change.amount,
            confirmed.leafIndex⟩)

def confirmWithdrawal (c : Settings) (form : WithdrawalForm) : Action WithdrawalReceipt :=
  if form.amount = 0 then .done (.error (.validation .zeroWithdrawal))
  else
    .act (fun s => (confirmedNote form.noteText s.store, s)) fun found =>
      match found with
      | .error e => .done (.error e)
      | .ok fromNote =>
        match withdrawalOf c form fromNote with
        | .error e => .done (.error e)
        | .ok w =>
          .act (fun s => (verifiedRoot s.store, s)) fun checked =>
            match checked with
            | .error e => .done (.error e)
            | .ok root =>
              .ask .params fun reply =>
                match reply with
                | .error e => .done (.error (.ledger e))
                | .ok params =>
                  match c.builder.withdrawal w root form.proof params with
                  | .error e => .done (.error (.build e))
                  | .ok g =>
                    let change := { w.changeNote with txnId := some g.watch }
                    .act (State.register change) fun registered =>
                      match registered with
                      | .error e => .done (.error (.store e))
                      | .ok id => submitWithdrawal c w g change id

end ShieldedPool.Pool
