import ShieldedPool.Proofs.Pool.Aftermath
import ShieldedPool.Proofs.Pool.Convergence

namespace ShieldedPool.Pool

open ShieldedPool.Flow (Submission)
open Ledger (Confirmation Outcome SignedTransaction)
open Store (NoteRow PendingRow Registers Saves)

variable {σ : Type}

def IsPrepared (d : PreparedDeposit) : Prop :=
  ∃ amount address note g, d = prepared amount address note g

theorem IsPrepared.txnId {d : PreparedDeposit} (h : IsPrepared d) :
    d.note.txnId = some d.watch := by
  obtain ⟨amount, address, note, g, rfl⟩ := h
  rfl

def DepositRegistered (c : Settings) (form : DepositForm) (s : State) : Prop :=
  ∃ signed d group key id s', Approves c form s signed d group ∧ signed.txn.group = some key ∧
    (s.takeSession key).2.register d.note = (.ok id, s')

def WithdrawalRegistered (client : Ledger.Client σ) (c : Settings) (form : WithdrawalForm)
    (s : State) (l : σ) : Prop :=
  ∃ params fromNote w root g id s', (client.answer .params l).1 = .ok params ∧
    Spends c form s params fromNote w root g ∧ s.register (changeOf w g) = (.ok id, s')

namespace ThreeNodes

open FreshTicket (settings)
open SpentSession (state deposit form)

def silent : Ledger.Client Unit where
  answer q l := match q with
    | .submit _ => (.ok "T", l)
    | .status => (.ok 5, l)
    | .pending _ => (.ok {}, l)
    | .statusAfter _ => (.ok 1000, l)
    | q => (q.failure (.transport none), l)

def refusing : Ledger.Client Unit where
  answer q l := match q with
    | .submit _ => (.error (.api 400 "invalid group"), l)
    | q => (q.failure (.transport none), l)

theorem send_silent (group : List SignedTransaction) (s : State) :
    ((Confirmation.send group "T" settings.waitRounds).run silent s ()).1 =
      .error (Confirmation.timeout "T" settings.waitRounds) := by
  have hlook : (5 : UInt64).toNat < Confirmation.deadline 5 settings.waitRounds := by decide
  have hunseen : Confirmation.verdict (some {}) = none := rfl
  have hlate : ¬ max (1000 : UInt64).toNat ((5 : UInt64).toNat + 1) <
      Confirmation.deadline 5 settings.waitRounds := by decide
  rw [Confirmation.send, Flow.run_ask]
  simp only [silent, Flow.run_bind, Confirmation.wait, Flow.run_ask]
  rw [Confirmation.poll, dif_pos hlook, Flow.run_ask]
  simp only [Confirmation.sighting, hunseen, Flow.run_ask]
  rw [Confirmation.poll, dif_neg hlate]
  rfl

theorem send_refusing (group : List SignedTransaction) (s : State) :
    ((Confirmation.send group "T" settings.waitRounds).run refusing s ()).1 =
      .error (.rejected "invalid group") := by
  rw [Confirmation.send, Flow.run_ask]
  rfl

theorem exists_registered : ∃ id s', (state.takeSession SpentSession.groupId).2.register
    deposit.note = (.ok id, s') ∧ ∀ i, s'.source.fails i = false := by
  have hsource : ∀ i, state.source.fails i = false := fun _ => rfl
  obtain ⟨store, source, hregister⟩ := Store.registerUnconfirmed_of (s := state.store)
    (n := deposit.note) state.clock rfl (by decide) hsource
  have hfails : source.fails = state.source.fails := by
    rw [← Store.registerUnconfirmed_fails state.store deposit.note state.clock state.source,
      hregister]
  refine ⟨_, _, register_eq (s := (state.takeSession SpentSession.groupId).2) hregister, ?_⟩
  rw [hfails]
  exact hsource

theorem registered_form : DepositRegistered settings (form 1000000) state := by
  obtain ⟨group, happroves⟩ := SpentSession.approves_form
  obtain ⟨id, s', hregister, -⟩ := exists_registered
  exact ⟨SpentSession.signed, deposit, group, SpentSession.groupId, id, s', happroves, rfl,
    hregister⟩

theorem approved {signed : SignedTransaction} {d : PreparedDeposit}
    {group : List SignedTransaction} (h : Approves settings (form 1000000) state signed d group) :
    signed = SpentSession.signed ∧ d = deposit := by
  obtain ⟨key, hkey, hretrieve⟩ := h.taken
  have hsigned := h.decoded
  rw [SpentSession.decodeSigned_form] at hsigned
  cases hsigned
  cases hkey
  rw [SpentSession.retrieve_state] at hretrieve
  cases hretrieve
  exact ⟨rfl, rfl⟩

def request : Action DepositReceipt := confirmDeposit settings (form 1000000)

def ended (node : Ledger.Client Unit) : Except PoolError DepositReceipt × State × Unit :=
  request.run node state ()

def SubmitsWith (node : Ledger.Client Unit) (row : PendingRow) : Prop :=
  Registers state.store deposit.note row ∧ row.txnId = "T" ∧
    ∃ sub, request.submissions node state () = [sub] ∧ sub.state.store.pending = [row]

section Ends

variable {node : Ledger.Client Unit} {group : List SignedTransaction} {row : PendingRow}
  {sub : Submission State Unit} {outcome : Except Outcome Confirmation}

theorem submitsWith_of_settles
    (h : Settles node settings.waitRounds request state () deposit.note "T" group row sub outcome)
    (hwatch : row.txnId = "T") :
    SubmitsWith node row := by
  refine ⟨h.registers, hwatch, sub, h.once, ?_⟩
  rw [h.registered]
  rfl

theorem source_of_once (hgroup : ∃ group,
      Approves settings (form 1000000) state SpentSession.signed deposit group)
    (honce : request.submissions node state () = [sub]) :
    ∀ i, sub.state.source.fails i = false := by
  obtain ⟨group, happroves⟩ := hgroup
  obtain ⟨id, s', hregister, hsource⟩ := exists_registered
  obtain ⟨row, -, hsubmits⟩ : ∃ row, row.id = id ∧
      Submits node settings.waitRounds request state () deposit.note deposit.watch group row
        s' () :=
    happroves.submits SpentSession.groupId rfl hregister
  have hsame := hsubmits.submissions.symm.trans honce
  cases hsame
  exact hsource

theorem store_confirmed
    (h : Settles BothSides.client settings.waitRounds request state () deposit.note "T" group row
      sub outcome) :
    ∃ saved, Saves state.store { deposit.note with leafIndex := 0 } saved ∧
      (ended BothSides.client).2.1.store =
        { state.store with notes := [saved], lastId := row.id } := by
  have hended : outcome = .ok ⟨"T", 6, 0⟩ := by
    rw [h.ended, BothSides.send_run]
  have hafter : Aftermath state.store sub.state deposit.note row outcome
      (ended BothSides.client).2.1.store := h.aftermath
  rw [hended] at hafter
  generalize (ended BothSides.client).2.1.store = after at hafter ⊢
  cases hafter with
  | saved _ saved _ hok hsaves hnotes hstore => exact ⟨saved, hsaves, hstore⟩
  | unsaved _ e he =>
    have hfree : ∀ other ∈ sub.state.store.notes, other.leaf ≠ Store.signed 0 := by
      rw [h.registered]
      exact List.forall_mem_nil _
    obtain ⟨store, source, hsave⟩ := Store.saveNote_of
      (n := { deposit.note with leafIndex := 0 }) rfl rfl hfree
      (source_of_once SpentSession.approves_form h.once)
    unfold State.saveNote at he
    rw [hsave] at he
    cases he

theorem store_of_error {o : Outcome}
    (h : Settles node settings.waitRounds request state () deposit.note "T" group row sub outcome)
    (hsend : ((Confirmation.send group "T" settings.waitRounds).run node sub.state ()).1 =
      .error o) :
    (ended node).2.1.store =
      if o.isWaitTimeout then state.store.enrol row else state.store.renumber row.id := by
  have hafter : Aftermath state.store sub.state deposit.note row outcome
      (ended node).2.1.store := h.aftermath
  rw [h.ended, hsend] at hafter
  exact hafter.error

end Ends

end ThreeNodes

end ShieldedPool.Pool
