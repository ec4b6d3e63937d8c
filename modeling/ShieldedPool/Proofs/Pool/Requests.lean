import ShieldedPool.Proofs.Ledger.Signed
import ShieldedPool.Proofs.Pool.Settlement
import ShieldedPool.Proofs.Text.Radix

namespace ShieldedPool.Pool

open Ledger (Confirmation SignedTransaction)
open Store (PendingRow Registers)

variable {α β σ : Type} {client : Ledger.Client σ} {s s' : State} {l l' : σ}

section Steps

theorem Refuses.done {e : PoolError} (he : ∀ o max, e ≠ .confirmation o max) :
    Refuses client (.done (.error e) : Action α) s l :=
  ⟨⟨e, rfl, he⟩, by simp [Flow.asked], rfl⟩

theorem Refuses.act {step : State → β × State} {next : β → Action α}
    (hs : (step s).2.store = s.store) (h : Refuses client (next (step s).1) (step s).2 l) :
    Refuses client (.act step next) s l :=
  ⟨h.result, h.asked, h.store.trans hs⟩

theorem Refuses.ask {q : Ledger.Query β} {next : β → Action α} (hq : Enquires β q)
    (h : Refuses client (next (client.answer q l).1) s (client.answer q l).2) :
    Refuses client (.ask q next) s l := by
  refine ⟨h.result, ?_, h.store⟩
  intro e he
  rcases List.mem_cons.mp he with rfl | he
  · exact hq
  · exact h.asked e he

variable {rounds : UInt64} {note : Note} {watch : String} {group : List SignedTransaction}
  {row : PendingRow}

theorem Submits.act {step : State → β × State} {next : β → Action α}
    (hs : (step s).2.store = s.store)
    (h : Submits client rounds (next (step s).1) (step s).2 l note watch group row s' l') :
    Submits client rounds (.act step next) s l note watch group row s' l' :=
  ⟨hs ▸ h.registers, hs ▸ h.store, h.asked, h.final, h.result⟩

theorem Submits.ask {q : Ledger.Query β} {next : β → Action α} (hq : Enquires β q)
    (h : Submits client rounds (next (client.answer q l).1) s (client.answer q l).2 note watch
      group row s' l') :
    Submits client rounds (.ask q next) s l note watch group row s' l' := by
  obtain ⟨before, rest, hasked, hall⟩ := h.asked
  refine ⟨h.registers, h.store, ⟨⟨q, (client.answer q l).1, s, l⟩ :: before, rest, ?_, ?_⟩,
    h.final, h.result⟩
  · rw [Flow.asked, hasked]
    rfl
  · intro e he
    rcases List.mem_cons.mp he with rfl | he
    · exact hq
    · exact hall e he

theorem register_ok {note : Note} {id : Int} (h : s.register note = (.ok id, s')) :
    ∃ row, row.id = id ∧ Registers s.store note row ∧ s'.store = s.store.enrol row ∧
      s'.sessions = s.sessions := by
  unfold State.register at h
  cases hr : s.store.registerUnconfirmed note s.clock s.source with
  | mk r rest =>
    rw [hr] at h
    cases h
    obtain ⟨row, hid, hreg, hstore⟩ := Store.registerUnconfirmed_ok hr
    exact ⟨row, hid, hreg, hstore, rfl⟩

theorem register_error {note : Note} {e : StoreError} (h : s.register note = (.error e, s')) :
    s'.store = s.store ∧ s'.sessions = s.sessions := by
  unfold State.register at h
  cases hr : s.store.registerUnconfirmed note s.clock s.source with
  | mk r rest =>
    rw [hr] at h
    cases h
    exact ⟨Store.registerUnconfirmed_error hr, rfl⟩

theorem Submits.of_register {next : Except StoreError Int → Action α}
    {enquire : Ledger.Outcome → Flow State (Option Amount)} {receipt : Confirmation → α}
    (hr : s.register note = (.ok row.id, s')) (hreg : Registers s.store note row)
    (hstore : s'.store = s.store.enrol row)
    (hnext : next (.ok row.id) = submission note watch group rounds row.id enquire receipt)
    (he : ∀ o, (enquire o).Every (fun _ _ => False) Enquires) :
    Submits client rounds (.act (State.register note) next) s l note watch group row s' l := by
  have hrun : (Flow.act (State.register note) next).run client s l =
      (next (s.register note).1).run client (s.register note).2 l := rfl
  have hasked : (Flow.act (State.register note) next).asked client s l =
      (next (s.register note).1).asked client (s.register note).2 l := rfl
  rw [hr] at hrun hasked
  dsimp only at hrun hasked
  rw [hnext] at hrun hasked
  obtain ⟨rest, hsend, hrest⟩ := submission_asked client note watch group rounds row.id receipt
    s' l he
  refine ⟨hreg, hstore, ⟨[], rest, hasked.trans hsend, hrest⟩, ?_, ?_⟩
  · rw [hrun]
    exact submission_run_state client note watch group rounds row.id receipt s' l he
  · rw [hrun]
    exact submission_result client note watch group rounds row.id receipt s' l

def Attempts (client : Ledger.Client σ) (rounds : UInt64) (p : Action α) (s : State) (l : σ)
    (fits : Note → String → List SignedTransaction → Prop) : Prop :=
  Refuses client p s l ∨
    ∃ note watch group row s' l', fits note watch group ∧
      Submits client rounds p s l note watch group row s' l'

variable {fits : Note → String → List SignedTransaction → Prop}

theorem Attempts.refuse {e : PoolError} (he : ∀ o max, e ≠ .confirmation o max) :
    Attempts client rounds (.done (.error e) : Action α) s l fits :=
  .inl (.done he)

theorem Attempts.act {step : State → β × State} {next : β → Action α}
    (hs : (step s).2.store = s.store)
    (h : Attempts client rounds (next (step s).1) (step s).2 l fits) :
    Attempts client rounds (.act step next) s l fits := by
  rcases h with h | ⟨note, watch, group, row, s', l', hfits, h⟩
  · exact .inl (h.act hs)
  · exact .inr ⟨note, watch, group, row, s', l', hfits, h.act hs⟩

theorem Attempts.ask {q : Ledger.Query β} {next : β → Action α} (hq : Enquires β q)
    (h : Attempts client rounds (next (client.answer q l).1) s (client.answer q l).2 fits) :
    Attempts client rounds (.ask q next) s l fits := by
  rcases h with h | ⟨note, watch, group, row, s', l', hfits, h⟩
  · exact .inl (h.ask hq)
  · exact .inr ⟨note, watch, group, row, s', l', hfits, h.ask hq⟩

theorem Attempts.register (note : Note) (watch : String) {next : Except StoreError Int → Action α}
    {enquire : Ledger.Outcome → Flow State (Option Amount)} {receipt : Confirmation → α}
    (hfits : fits note watch group)
    (herror : ∀ e, next (.error e) = .done (.error (.store e)))
    (hok : ∀ id, next (.ok id) = submission note watch group rounds id enquire receipt)
    (he : ∀ o, (enquire o).Every (fun _ _ => False) Enquires) :
    Attempts client rounds (.act (State.register note) next) s l fits := by
  cases hr : s.register note with
  | mk registered s' =>
    cases registered with
    | error e =>
      refine .act (by rw [hr]; exact (register_error hr).1) ?_
      rw [hr, herror]
      exact .refuse fun _ _ => by simp
    | ok id =>
      obtain ⟨row, rfl, hreg, hstore, -⟩ := register_ok hr
      exact .inr ⟨note, watch, group, row, s', l, hfits,
        .of_register hr hreg hstore (hok row.id) he⟩

end Steps

section Deposit

theorem decodeSigned_eq_ok_iff {text : String} {signed : SignedTransaction} :
    decodeSigned text = .ok signed ↔
      Text.trimList text.toList = Text.Base64.encodeList signed.encode ∧ signed.Readable := by
  constructor
  · intro h
    unfold decodeSigned at h
    split at h
    case h_1 => cases h
    case h_2 bs hbs =>
      split at h
      case h_1 => cases h
      case h_2 signed' hdecode =>
        cases h
        obtain ⟨rfl, hreadable⟩ := SignedTransaction.decode_eq_ok_iff.mp hdecode
        exact ⟨Text.Base64.decode?_eq_some_iff.mp hbs, hreadable⟩
  · rintro ⟨htext, hreadable⟩
    unfold decodeSigned
    rw [Text.Base64.decode?_eq_some_iff.mpr htext]
    dsimp only
    rw [SignedTransaction.decode_eq_ok_iff.mpr ⟨rfl, hreadable⟩]

theorem decodeSigned_encodeSigned {signed : SignedTransaction} (h : signed.Readable) :
    decodeSigned (encodeSigned signed) = .ok signed := by
  refine decodeSigned_eq_ok_iff.mpr ⟨?_, h⟩
  rw [encodeSigned, Text.Base64.toList_encode, Text.Base64.trimList_encodeList]

theorem decodeSigned_error {text : String} {e : PoolError} (h : decodeSigned text = .error e) :
    ∀ o max, e ≠ .confirmation o max := by
  unfold decodeSigned at h
  split at h
  · cases h; exact fun _ _ => by simp
  · split at h
    · cases h; exact fun _ _ => by simp
    · cases h

theorem authorize_error {c : Settings} {form : DepositForm} {signed : SignedTransaction}
    {d : PreparedDeposit} {e : PoolError} (h : authorize c form signed d = .error e) :
    ∀ o max, e ≠ .confirmation o max := by
  unfold authorize at h
  split at h
  · cases h; exact fun _ _ => by simp
  · split at h
    · cases h; exact fun _ _ => by simp
    · split at h
      · cases h; exact fun _ _ => by simp
      · cases h

structure Approves (c : Settings) (form : DepositForm) (s : State) (signed : SignedTransaction)
    (d : PreparedDeposit) (group : List SignedTransaction) : Prop where
  decoded : decodeSigned form.signedTxn = .ok signed
  taken : ∃ key, signed.txn.group = some key ∧ s.sessions.retrieve s.now key = .ok d
  authorized : authorize c form signed d = .ok group

theorem confirmDeposit_attempts (c : Settings) (form : DepositForm) :
    Attempts client c.waitRounds (confirmDeposit c form) s l fun note watch group =>
      ∃ signed d, Approves c form s signed d group ∧ note = d.note ∧ watch = d.watch := by
  unfold confirmDeposit
  cases hsigned : decodeSigned form.signedTxn with
  | error e => exact .refuse (decodeSigned_error hsigned)
  | ok signed =>
    dsimp only
    cases hkey : signed.txn.group with
    | none => exact .refuse fun _ _ => by simp
    | some key =>
      refine .act rfl ?_
      cases ht : (s.takeSession key).1 with
      | error e => exact .refuse fun _ _ => by simp
      | ok d =>
        dsimp only
        cases hauth : authorize c form signed d with
        | error e => exact .refuse (authorize_error hauth)
        | ok group =>
          exact .register d.note d.watch ⟨signed, d, ⟨hsigned, ⟨key, hkey, ht⟩, hauth⟩, rfl, rfl⟩
            (fun _ => rfl) (submitDeposit_eq c d group) (affordable_every c d.address)

theorem Approves.submits {c : Settings} {form : DepositForm} {signed : SignedTransaction}
    {d : PreparedDeposit} {group : List SignedTransaction} {id : Int}
    (h : Approves c form s signed d group) (key : Ledger.GroupId)
    (hkey : signed.txn.group = some key)
    (hr : (s.takeSession key).2.register d.note = (.ok id, s')) :
    ∃ row, row.id = id ∧
      Submits client c.waitRounds (confirmDeposit c form) s l d.note d.watch group row s' l := by
  obtain ⟨row, rfl, hreg, hstore, -⟩ := register_ok hr
  refine ⟨row, rfl, ?_⟩
  obtain ⟨key', hkey', htaken⟩ := h.taken
  rw [hkey] at hkey'
  cases hkey'
  have hfirst : (s.takeSession key).1 = .ok d := htaken
  unfold confirmDeposit
  rw [h.decoded]
  dsimp only
  rw [hkey]
  refine .act rfl ?_
  rw [hfirst]
  dsimp only
  rw [h.authorized]
  exact .of_register hr hreg hstore (submitDeposit_eq c d group row.id)
    (affordable_every c d.address)

end Deposit

section Withdrawal

theorem confirmedNote_error {text : String} {store : Store} {e : PoolError}
    (h : confirmedNote text store = .error e) : ∀ o max, e ≠ .confirmation o max := by
  unfold confirmedNote at h
  split at h
  · cases h; exact fun _ _ => by simp
  · split at h
    · cases h
    · cases h; exact fun _ _ => by simp
    · cases h; exact fun _ _ => by simp

theorem withdrawalError_ne_confirmation (available : Amount) (e : NoteError) :
    ∀ o max, withdrawalError available e ≠ .confirmation o max := by
  intro o max
  unfold withdrawalError
  split <;> simp

theorem withdrawalOf_error {c : Settings} {form : WithdrawalForm} {fromNote : Note}
    {e : PoolError} (h : withdrawalOf c form fromNote = .error e) :
    ∀ o max, e ≠ .confirmation o max := by
  unfold withdrawalOf at h
  split at h
  · cases h; exact fun _ _ => by simp
  · split at h
    · cases h; exact withdrawalError_ne_confirmation _ _
    · cases h

theorem verifiedRoot_error {store : Store} {e : PoolError} (h : verifiedRoot store = .error e) :
    (∃ cause, e = .store cause) ∨ ∃ fault, e = .internal fault := by
  unfold verifiedRoot at h
  split at h
  · cases h; exact .inl ⟨_, rfl⟩
  · dsimp only at h
    split at h
    · cases h; exact .inr ⟨_, rfl⟩
    · cases h; exact .inl ⟨_, rfl⟩
    · split at h
      · cases h
      · cases h; exact .inr ⟨_, rfl⟩

structure Spends (c : Settings) (form : WithdrawalForm) (s : State)
    (params : Ledger.ChainParams) (fromNote : Note) (w : Withdrawal) (root : Word)
    (g : Ledger.WithdrawalGroup) : Prop where
  positive : form.amount ≠ 0
  found : confirmedNote form.noteText s.store = .ok fromNote
  balanced : withdrawalOf c form fromNote = .ok w
  verified : verifiedRoot s.store = .ok root
  built : c.builder.withdrawal w root form.proof params = .ok g

def changeOf (w : Withdrawal) (g : Ledger.WithdrawalGroup) : Note :=
  { w.changeNote with txnId := some g.watch }

theorem confirmWithdrawal_attempts (c : Settings) (form : WithdrawalForm) :
    Attempts client c.waitRounds (confirmWithdrawal c form) s l fun note watch group =>
      ∃ params fromNote w root g, (client.answer .params l).1 = .ok params ∧
        Spends c form s params fromNote w root g ∧ note = changeOf w g ∧ watch = g.watch ∧
        group = c.builder.authorizeProgram g.txns := by
  unfold confirmWithdrawal
  split
  case isTrue hzero => exact .refuse fun _ _ => by simp
  case isFalse hpositive =>
    refine .act rfl ?_
    dsimp only
    cases hfound : confirmedNote form.noteText s.store with
    | error e => exact .refuse (confirmedNote_error hfound)
    | ok fromNote =>
      dsimp only
      cases hw : withdrawalOf c form fromNote with
      | error e => exact .refuse (withdrawalOf_error hw)
      | ok w =>
        refine .act rfl ?_
        dsimp only
        cases hroot : verifiedRoot s.store with
        | error e =>
          obtain ⟨cause, rfl⟩ | ⟨fault, rfl⟩ := verifiedRoot_error hroot
          · exact .refuse fun _ _ => by simp
          · exact .refuse fun _ _ => by simp
        | ok root =>
          refine .ask trivial ?_
          cases hparams : (client.answer .params l).1 with
          | error e => exact .refuse fun _ _ => by simp
          | ok params =>
            dsimp only
            cases hg : c.builder.withdrawal w root form.proof params with
            | error e => exact .refuse fun _ _ => by simp
            | ok g =>
              exact .register (changeOf w g) g.watch
                ⟨params, fromNote, w, root, g, rfl,
                  ⟨hpositive, hfound, hw, hroot, hg⟩, rfl, rfl, rfl⟩
                (fun _ => rfl) (submitWithdrawal_eq c w g (changeOf w g)) fun _ => trivial

theorem Spends.submits {c : Settings} {form : WithdrawalForm} {params : Ledger.ChainParams}
    {fromNote : Note} {w : Withdrawal} {root : Word} {g : Ledger.WithdrawalGroup} {id : Int}
    (h : Spends c form s params fromNote w root g)
    (hparams : (client.answer .params l).1 = .ok params)
    (hr : s.register (changeOf w g) = (.ok id, s')) :
    ∃ row, row.id = id ∧
      Submits client c.waitRounds (confirmWithdrawal c form) s l (changeOf w g) g.watch
        (c.builder.authorizeProgram g.txns) row s' (client.answer .params l).2 := by
  obtain ⟨row, rfl, hreg, hstore, -⟩ := register_ok hr
  refine ⟨row, rfl, ?_⟩
  unfold confirmWithdrawal
  rw [if_neg h.positive]
  refine .act rfl ?_
  dsimp only
  rw [h.found]
  dsimp only
  rw [h.balanced]
  refine .act rfl ?_
  dsimp only
  rw [h.verified]
  refine .ask trivial ?_
  rw [hparams]
  dsimp only
  rw [h.built]
  exact .of_register hr hreg hstore (submitWithdrawal_eq c w g (changeOf w g) row.id)
    fun _ => trivial

end Withdrawal

end ShieldedPool.Pool
