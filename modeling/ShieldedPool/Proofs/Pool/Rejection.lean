import ShieldedPool.Proofs.Pool.Backing
import ShieldedPool.Proofs.Pool.HonestDeposit

namespace ShieldedPool

def PoolError.isRejection : PoolError → Bool
  | .validation _ | .badRequest _ | .invalidNote | .noteTooSmall _ => true
  | .build (.belowMinimumDeposit _ _) | .build .signedTxnMismatch | .build (.malformedProof _) =>
    true
  | _ => false

theorem Sessions.find?_delete {δ : Type} (key : Ledger.GroupId) (t : Sessions δ) :
    (t.delete key).find? key = none := by
  refine List.lookup_eq_none_iff.mpr fun e he => ?_
  have hne := (List.mem_filter.mp he).2
  exact bne_iff_ne.mpr fun heq => by simp [heq] at hne

theorem Sessions.exists_find?_of_retrieve {δ : Type} {t : Sessions δ} {now : Nat}
    {key : Ledger.GroupId} {d : δ} (h : t.retrieve now key = .ok d) :
    ∃ session, t.find? key = some session := by
  unfold retrieve live? at h
  cases hfind : t.find? key with
  | none => rw [hfind] at h; cases h
  | some session => exact ⟨session, rfl⟩

namespace Pool

open Ledger (GroupId SignedTransaction Transaction)

section Flows

variable {α β σ : Type} {client : Ledger.Client σ} {s : State} {l : σ}

def Untouched (client : Ledger.Client σ) (p : Action α) (s : State) (l : σ) : Prop :=
  ∀ e, (p.run client s l).1 = .error e → e.isRejection = true →
    (p.run client s l).2.1.store = s.store ∧ (p.run client s l).2.1.sessions = s.sessions

theorem Untouched.done (r : Except PoolError α) : Untouched client (.done r) s l :=
  fun _ _ _ => ⟨rfl, rfl⟩

theorem Untouched.act {step : State → β × State} {next : β → Action α}
    (hstore : (step s).2.store = s.store) (hsessions : (step s).2.sessions = s.sessions)
    (h : Untouched client (next (step s).1) (step s).2 l) :
    Untouched client (.act step next) s l := by
  intro e he hrejected
  obtain ⟨hstore', hsessions'⟩ := h e he hrejected
  exact ⟨hstore'.trans hstore, hsessions'.trans hsessions⟩

theorem Untouched.ask {q : Ledger.Query β} {next : β → Action α}
    (h : Untouched client (next (client.answer q l).1) s (client.answer q l).2) :
    Untouched client (.ask q next) s l := h

def NeverRejects (client : Ledger.Client σ) (p : Action α) (s : State) (l : σ) : Prop :=
  ∀ e, (p.run client s l).1 = .error e → e.isRejection = false

theorem NeverRejects.untouched {p : Action α} (h : NeverRejects client p s l) :
    Untouched client p s l := by
  intro e he hrejected
  rw [h e he] at hrejected
  cases hrejected

theorem Tells.not_rejected {outcome : Except Ledger.Outcome Ledger.Confirmation}
    {r : Except PoolError α} (h : Tells outcome r) {e : PoolError} (he : r = .error e) :
    e.isRejection = false := by
  cases outcome with
  | error o =>
    obtain ⟨max, hr⟩ := h
    rw [hr] at he
    cases he
    rfl
  | ok confirmed =>
    obtain ⟨receipt, hr⟩ := h
    rw [hr] at he
    cases he

theorem storing_neverRejects (d : PreparedDeposit) : NeverRejects client (storing d) s l := by
  intro e he
  rw [storing, Flow.run_act] at he
  cases hstored : (s.storeSession d).1 with
  | error e' => rw [hstored] at he; cases he; rfl
  | ok key => rw [hstored] at he; cases he

theorem prepareDeposit_untouched (c : Settings) (amount : UInt64) (address : Address) :
    Untouched client (prepareDeposit c amount address) s l := by
  rcases prepareDeposit_shape c amount address with ⟨e, hend⟩ | hshape
  · rw [hend]
    exact .done _
  · rw [hshape]
    refine .act rfl rfl ?_
    cases (s.generateNote amount).1 with
    | error e => exact .done _
    | ok note =>
      refine .ask ?_
      cases (client.answer .params l).1 with
      | error e => exact .done _
      | ok params =>
        dsimp only
        cases c.builder.deposit amount address note params with
        | error e => exact .done _
        | ok group => exact (storing_neverRejects _).untouched

theorem prepareWithdrawal_untouched (c : Settings) (amount : UInt64) (address : Address)
    (noteText : String) : Untouched client (prepareWithdrawal c amount address noteText) s l := by
  unfold prepareWithdrawal
  split
  · exact .done _
  · refine .act rfl rfl ?_
    dsimp only
    cases confirmedNote noteText s.store with
    | error e => exact .done _
    | ok note =>
      refine .act rfl rfl ?_
      cases (State.prepareWithdrawal amount address note c.feePolicy s).1 <;> exact .done _

theorem confirmWithdrawal_untouched (c : Settings) (form : WithdrawalForm) :
    Untouched client (confirmWithdrawal c form) s l := by
  rcases confirmWithdrawal_attempts c form with h | ⟨_, _, _, _, _, _, -, h⟩
  · intro e _ _
    have hsessions := Flow.run_invariant client (fun t => t.sessions = s.sessions)
      (Flow.every_mono (confirmWithdrawal_every c form)
        (fun _ step hstep t ht => (hstep t).trans ht) fun _ _ h => h) rfl l
    exact ⟨h.store, hsessions⟩
  · exact NeverRejects.untouched fun e he => h.result.not_rejected he

theorem registering_neverRejects (c : Settings) (d : PreparedDeposit)
    (group : List SignedTransaction) : NeverRejects client (registering c d group) s l := by
  intro e he
  rw [registering, Flow.run_act] at he
  cases hregistered : (s.register d.note).1 with
  | error e' => rw [hregistered] at he; cases he; rfl
  | ok id =>
    rw [hregistered] at he
    dsimp only at he
    rw [submitDeposit_eq] at he
    exact Tells.not_rejected (submission_result ..) he

end Flows

section Confirming

variable {σ : Type} {client : Ledger.Client σ} {c : Settings} {form : DepositForm} {s : State}
  {l : σ} {signed : SignedTransaction} {key : GroupId} {d : PreparedDeposit} {e : PoolError}

structure SpendsSession (c : Settings) (form : DepositForm) (s : State)
    (signed : SignedTransaction) (key : GroupId) (d : PreparedDeposit) (e : PoolError) : Prop where
  decoded : decodeSigned form.signedTxn = .ok signed
  named : signed.txn.group = some key
  live : s.sessions.retrieve s.now key = .ok d
  refused : authorize c form signed d = .error e
  rejected : e.isRejection = true

theorem SpendsSession.run (h : SpendsSession c form s signed key d e) :
    (confirmDeposit c form).run client s l = (.error e, (s.takeSession key).2, l) := by
  have htaken : (s.takeSession key).1 = .ok d := h.live
  unfold confirmDeposit
  rw [h.decoded]
  dsimp only
  rw [h.named]
  dsimp only
  rw [Flow.run_act, htaken]
  dsimp only
  rw [h.refused]
  rfl

theorem confirmDeposit_absent (hdecoded : decodeSigned form.signedTxn = .ok signed)
    (hnamed : signed.txn.group = some key) (hgone : s.sessions.find? key = none) :
    ((confirmDeposit c form).run client s l).1 = .error (.session .notFound) := by
  have htaken : (s.takeSession key).1 = .error .notFound := by
    change s.sessions.retrieve s.now key = _
    rw [Sessions.retrieve, Sessions.live?, hgone]
  unfold confirmDeposit
  rw [hdecoded]
  dsimp only
  rw [hnamed]
  dsimp only
  rw [Flow.run_act, htaken]
  rfl

theorem confirmDeposit_store (c : Settings) (form : DepositForm)
    (he : ((confirmDeposit c form).run client s l).1 = .error e)
    (hrejected : e.isRejection = true) :
    ((confirmDeposit c form).run client s l).2.1.store = s.store := by
  rcases confirmDeposit_attempts c form with h | ⟨_, _, _, _, _, _, -, h⟩
  · exact h.store
  · rw [h.result.not_rejected he] at hrejected
    cases hrejected

theorem SpendsSession.not_untouched (h : SpendsSession c form s signed key d e) :
    ¬ Untouched client (confirmDeposit c form) s l := by
  intro huntouched
  have hrun : (confirmDeposit c form).run client s l = (.error e, (s.takeSession key).2, l) := h.run
  obtain ⟨-, hsessions⟩ := huntouched e (by rw [hrun]) h.rejected
  rw [hrun] at hsessions
  obtain ⟨session, hfind⟩ := Sessions.exists_find?_of_retrieve h.live
  have hgone := Sessions.find?_delete key s.sessions
  have hsame : s.sessions.delete key = s.sessions := hsessions
  rw [hsame, hfind] at hgone
  cases hgone

theorem confirmDeposit_untouched_iff (c : Settings) (form : DepositForm) :
    Untouched client (confirmDeposit c form) s l ↔
      ¬ ∃ signed key d e, SpendsSession c form s signed key d e := by
  constructor
  · rintro huntouched ⟨signed, key, d, e, h⟩
    exact h.not_untouched huntouched
  · intro hnone
    rcases confirmDeposit_shape c form with ⟨e, hend⟩ | ⟨signed, key, hdecoded, hnamed, hshape⟩
    · rw [hend]
      exact .done _
    · have hrun : (confirmDeposit c form).run client s l =
          (checking c form signed (s.takeSession key).1).run client (s.takeSession key).2 l := by
        rw [hshape, Flow.run_act]
      intro e he hrejected
      rw [hrun] at he
      cases htaken : (s.takeSession key).1 with
      | error e' =>
        rw [htaken] at he
        cases he
        cases hrejected
      | ok d =>
        rw [htaken, checking] at he
        cases hauth : authorize c form signed d with
        | error e' =>
          rw [hauth] at he
          cases he
          exact absurd ⟨signed, key, d, e, hdecoded, hnamed, htaken, hauth, hrejected⟩ hnone
        | ok group =>
          rw [hauth] at he
          rw [registering_neverRejects c d group e he] at hrejected
          cases hrejected

theorem rejections_untouched (client : Ledger.Client σ) (c : Settings) (s : State) (l : σ) :
    (∀ amount address, Untouched client (prepareDeposit c amount address) s l) ∧
      (∀ amount address noteText,
        Untouched client (prepareWithdrawal c amount address noteText) s l) ∧
      (∀ form, Untouched client (confirmWithdrawal c form) s l) ∧
      ∀ form : DepositForm,
        (∀ e, ((confirmDeposit c form).run client s l).1 = .error e → e.isRejection = true →
          ((confirmDeposit c form).run client s l).2.1.store = s.store) ∧
        (Untouched client (confirmDeposit c form) s l ↔
          ¬ ∃ signed key d e, SpendsSession c form s signed key d e) ∧
        ∀ signed key d e, SpendsSession c form s signed key d e →
          ((confirmDeposit c form).run client s l).1 = .error e ∧
            ((confirmDeposit c form).run client s l).2.1.sessions = s.sessions.delete key := by
  refine ⟨fun amount address => prepareDeposit_untouched c amount address,
    fun amount address noteText => prepareWithdrawal_untouched c amount address noteText,
    fun form => confirmWithdrawal_untouched c form, fun form => ⟨fun e he hrejected =>
      confirmDeposit_store c form he hrejected, confirmDeposit_untouched_iff c form, ?_⟩⟩
  intro signed key d e h
  have hrun : (confirmDeposit c form).run client s l = (.error e, (s.takeSession key).2, l) := h.run
  rw [hrun]
  exact ⟨rfl, rfl⟩

theorem authorize_mismatch {n : Note} (hparse : Note.parse form.noteText = .ok n)
    (hamount : form.amount ≠ d.amount.units) :
    authorize c form signed d = .error (.validation .depositMismatch) := by
  unfold authorize
  rw [hparse]
  exact if_pos (.inl hamount)

end Confirming

namespace SpentSession

open FreshTicket (settings params client note signature)

def groupId : GroupId := ⟨Block.fill 32 1⟩

def depositor : Address := ⟨Block.zero 32⟩

def call : Transaction :=
  { settings.builder.call params 0 [] [] [] with group := some groupId }

def payment : Transaction :=
  { settings.builder.payment params depositor 56000 1000000 with group := some groupId }

def deposit : PreparedDeposit :=
  prepared 1000000 depositor note ⟨[call, payment], groupId, "T", Protocol.paymentIndex⟩

def state : State :=
  { FreshTicket.state with sessions := { ttl := 60, entries := [(groupId, ⟨deposit, 0⟩)] } }

def signed : SignedTransaction := ⟨payment, .signature signature⟩

def form (amount : UInt64) : DepositForm := ⟨amount, depositor, note.text, encodeSigned signed⟩

theorem decodeSigned_form (amount : UInt64) :
    decodeSigned (form amount).signedTxn = .ok signed := by
  have hfits : payment.Fits := ⟨by decide, by decide, fun _ _ _ hkind => by cases hkind⟩
  have hgroup : payment.group ≠ some .zero := by decide
  have hsig : signed.auth.Readable := (by decide : signature.length = 64)
  exact decodeSigned_encodeSigned ⟨⟨hfits, hgroup⟩, hsig⟩

theorem retrieve_state : state.sessions.retrieve state.now groupId = .ok deposit := rfl

theorem parse_form (amount : UInt64) : Note.parse (form amount).noteText = .ok note :=
  Note.parse_text note

theorem approves_form : ∃ group, Approves settings (form 1000000) state signed deposit group := by
  have hpayment : deposit.txns[Protocol.paymentIndex]? = some payment := rfl
  have hgroup := settings.builder.authorizeDeposit_of hpayment (by decide : signature ≠ [])
  exact ⟨_, decodeSigned_form _, ⟨groupId, rfl, retrieve_state⟩,
    authorize_of (parse_form _) rfl rfl rfl hgroup⟩

theorem spends_form : SpendsSession settings (form 1000001) state signed groupId deposit
    (.validation .depositMismatch) := by
  have hamount : (form 1000001).amount ≠ deposit.amount.units :=
    (by decide : (1000001 : UInt64) ≠ 1000000)
  exact ⟨decodeSigned_form _, rfl, retrieve_state, authorize_mismatch (parse_form _) hamount, rfl⟩

theorem corrected_form_finds_nothing :
    ¬ Untouched client (confirmDeposit settings (form 1000001)) state () ∧
      (∃ group, Approves settings (form 1000000) state signed deposit group) ∧
      ∃ s', (confirmDeposit settings (form 1000001)).run client state () =
          (.error (.validation .depositMismatch), s', ()) ∧
        ((confirmDeposit settings (form 1000000)).run client s' ()).1 =
          .error (.session .notFound) := by
  have hgone : (state.takeSession groupId).2.sessions.find? groupId = none :=
    Sessions.find?_delete groupId state.sessions
  exact ⟨spends_form.not_untouched, approves_form, _, spends_form.run,
    confirmDeposit_absent (decodeSigned_form _) rfl hgone⟩

end SpentSession

end Pool

end ShieldedPool
