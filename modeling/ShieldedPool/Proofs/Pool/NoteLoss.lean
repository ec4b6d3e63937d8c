import ShieldedPool.Proofs.Note.Text
import ShieldedPool.Proofs.Pool.Backing

namespace ShieldedPool.Pool

open ShieldedPool.Flow (Asked)
open Ledger (ChainParams Confirmation Outcome SignedTransaction encodeGroup)
open Ledger.Confirmation (LeavesOpen Evicts)
open Store (PendingRow NoteRow Registers Saves)

variable {α σ : Type}

section Submits

variable {client : Ledger.Client σ} {rounds : UInt64} {p : Action α} {s s' : State} {l l' : σ}
  {note : Note} {watch : String} {group : List SignedTransaction} {row : PendingRow}

theorem not_enquires_of_leavesOpen {e : Asked State σ} (h : LeavesOpen e) :
    ¬ Enquires _ e.query := by
  intro hq
  obtain ⟨query, reply, state, ledger⟩ := e
  cases query with
  | params | account a => exact h
  | _ => exact hq

theorem not_enquires_of_evicts {e : Asked State σ} (h : Evicts watch e) :
    ¬ Enquires _ e.query := by
  intro hq
  obtain ⟨query, reply, state, ledger⟩ := e
  cases query with
  | params | account a => exact h
  | _ => exact hq

structure FateOpen (watch : String) (es : List (Asked State σ)) : Prop where
  leftOpen : ∃ e ∈ es, LeavesOpen e
  notEvicted : ∀ e ∈ es, ¬ Evicts watch e

def Kept (watch : String) (row : PendingRow) (es : List (Asked State σ)) (final : Store) : Prop :=
  (∃ saved ∈ final.notes, saved.commitment = row.commitment) ∨ row ∈ final.pending ∨
    ∃ e ∈ es, Evicts watch e

theorem Submits.mem_asked_of_not_enquires
    (h : Submits client rounds p s l note watch group row s' l') {e : Asked State σ}
    (he : e ∈ p.asked client s l) (hq : ¬ Enquires _ e.query) :
    e ∈ (Confirmation.send group watch rounds).asked client s' l' := by
  obtain ⟨before, rest, hasked, hall⟩ := h.asked
  rw [hasked] at he
  rcases List.mem_append.mp he with he | he
  · rcases List.mem_append.mp he with he | he
    · exact (hq (hall e (List.mem_append_left rest he))).elim
    · exact he
  · exact (hq (hall e (List.mem_append_right before he))).elim

theorem Submits.mem_asked (h : Submits client rounds p s l note watch group row s' l')
    {e : Asked State σ} (he : e ∈ (Confirmation.send group watch rounds).asked client s' l') :
    e ∈ p.asked client s l := by
  obtain ⟨before, rest, hasked, -⟩ := h.asked
  rw [hasked]
  exact List.mem_append_left _ (List.mem_append_right _ he)

theorem Submits.failed_of_accepted
    (h : Submits client rounds p s l note watch group row s' l') {txid : String} {o : Outcome}
    (ha : (client.answer (.submit (encodeGroup group)) l').1 = .ok txid)
    (ho : ((Confirmation.send group watch rounds).run client s' l').1 = .error o)
    (hw : o.isWaitTimeout = false) :
    ∃ e ∈ p.asked client s l, LeavesOpen e ∨ Evicts watch e := by
  have hd := Confirmation.send_decided client watch group rounds s' l'
  rw [ho] at hd
  obtain ⟨e, he, hc⟩ := hd.exists_conclusion fun o' ho' => by cases ho'; exact hw
  obtain ⟨waits, hsend, hwaits⟩ := Confirmation.send_asked client watch group rounds s' l'
  refine ⟨e, h.mem_asked he, ?_⟩
  rw [hsend] at he
  rcases List.mem_cons.mp he with rfl | he
  · simp [Confirmation.conclusion?, Confirmation.failure?, ha] at hc
  · exact Confirmation.leavesOpen_or_evicts hc (hwaits e he)

theorem Submits.not_kept (h : Submits client rounds p s l note watch group row s' l')
    (hfate : FateOpen watch (p.asked client s l))
    (hnone : ∀ saved ∈ s.store.notes, saved.commitment ≠ row.commitment) :
    ¬ Kept watch row (p.asked client s l) (p.run client s l).2.1.store := by
  intro hkept
  have hafter := h.settles.aftermath
  generalize (p.run client s l).2.1.store = final at hafter hkept
  generalize hout : ((Confirmation.send group watch rounds).run client s' l').1 = outcome at hafter
  obtain ⟨e, he, hopen⟩ := hfate.leftOpen
  have hsent := h.mem_asked_of_not_enquires he (not_enquires_of_leavesOpen hopen)
  have hd := Confirmation.send_decided client watch group rounds s' l'
  obtain ⟨o, ho, hw⟩ := hd.error_of_leavesOpen hsent hopen
  rw [hout] at ho
  subst ho
  cases hafter with
  | timedOut o ho => rw [hw] at ho; cases ho
  | failed o ho =>
    rcases hkept with ⟨saved, hsaved, heq⟩ | hpending | ⟨e, he, hev⟩
    · exact hnone saved hsaved heq
    · exact absurd (h.registers.fresh row hpending) (Int.lt_irrefl row.id)
    · exact hfate.notEvicted e he hev

theorem Submits.kept (h : Submits client rounds p s l note watch group row s' l') {txid : String}
    (ha : (client.answer (.submit (encodeGroup group)) l').1 = .ok txid)
    (hfate : ¬ (FateOpen watch (p.asked client s l) ∧
      ∀ saved ∈ s.store.notes, saved.commitment ≠ row.commitment)) :
    Kept watch row (p.asked client s l) (p.run client s l).2.1.store := by
  have hafter := h.settles.aftermath
  generalize (p.run client s l).2.1.store = final at hafter
  generalize hout : ((Confirmation.send group watch rounds).run client s' l').1 = outcome at hafter
  cases hafter with
  | timedOut o ho => exact .inr (.inl (Store.mem_enrol s.store row))
  | unsaved confirmed e he => exact .inr (.inl (Store.mem_enrol s.store row))
  | saved confirmed saved final hok hsaves hnotes =>
    exact .inl ⟨saved, hnotes.mem_iff.mpr List.mem_cons_self,
      hsaves.commitment.trans h.registers.commitment.symm⟩
  | failed o ho =>
    by_cases hevict : ∃ e ∈ p.asked client s l, Evicts watch e
    · exact .inr (.inr hevict)
    · have hnot : ∀ e ∈ p.asked client s l, ¬ Evicts watch e :=
        fun e he hev => hevict ⟨e, he, hev⟩
      obtain ⟨e, he, hopen | hev⟩ := h.failed_of_accepted ha hout ho
      · have hold : ∃ saved ∈ s.store.notes, saved.commitment = row.commitment :=
          Classical.byContradiction fun hnone =>
            hfate ⟨⟨⟨e, he, hopen⟩, hnot⟩, fun saved hs heq => hnone ⟨saved, hs, heq⟩⟩
        exact .inl hold
      · exact absurd hev (hnot e he)

theorem Submits.kept_iff (h : Submits client rounds p s l note watch group row s' l')
    {txid : String} (ha : (client.answer (.submit (encodeGroup group)) l').1 = .ok txid) :
    Kept watch row (p.asked client s l) (p.run client s l).2.1.store ↔
      ¬ (FateOpen watch (p.asked client s l) ∧
        ∀ saved ∈ s.store.notes, saved.commitment ≠ row.commitment) := by
  constructor
  · rintro hkept ⟨hfate, hnone⟩
    exact h.not_kept hfate hnone hkept
  · exact h.kept ha

theorem Submits.lost_of_status_error
    (h : Submits client rounds p s l note watch group row s' l') {txid : String}
    {e : Ledger.LedgerError}
    (ha : (client.answer (.submit (encodeGroup group)) l').1 = .ok txid)
    (he : (client.answer .status (client.answer (.submit (encodeGroup group)) l').2).1 = .error e)
    (hnone : ∀ saved ∈ s.store.notes, saved.commitment ≠ row.commitment) :
    ¬ Kept watch row (p.asked client s l) (p.run client s l).2.1.store := by
  have hsent := Confirmation.send_asked_of_status_error client watch (s := s') rounds ha he
  have hstatus : (⟨.status, .error e, s', (client.answer (.submit (encodeGroup group)) l').2⟩ :
      Asked State σ) ∈ (Confirmation.send group watch rounds).asked client s' l' := by
    rw [hsent]
    exact List.mem_cons_of_mem _ (List.mem_singleton.mpr rfl)
  refine h.not_kept ⟨⟨_, h.mem_asked hstatus, e, rfl⟩, fun x hx hevict => ?_⟩ hnone
  have hx := h.mem_asked_of_not_enquires hx (not_enquires_of_evicts hevict)
  rw [hsent] at hx
  rcases List.mem_cons.mp hx with rfl | hx
  · exact hevict
  · rw [List.mem_singleton.mp hx] at hevict
    exact hevict

end Submits

def KeepsUnlessOpen (client : Ledger.Client σ) (p : Action α) (s : State) (l : σ) (note : Note)
    (watch : String) (group : List SignedTransaction) : Prop :=
  ∃ row sub, p.submissions client s l = [sub] ∧ sub.group = encodeGroup group ∧
    Registers s.store note row ∧ sub.state.store = s.store.enrol row ∧
    ∀ txid, sub.reply = .ok txid →
      (Kept watch row (p.asked client s l) (p.run client s l).2.1.store ↔
        ¬ (FateOpen watch (p.asked client s l) ∧
          ∀ saved ∈ s.store.notes, saved.commitment ≠ row.commitment))

theorem Submits.keepsUnlessOpen {client : Ledger.Client σ} {rounds : UInt64} {p : Action α}
    {s s' : State} {l l' : σ} {note : Note} {watch : String} {group : List SignedTransaction}
    {row : PendingRow} (h : Submits client rounds p s l note watch group row s' l') :
    KeepsUnlessOpen client p s l note watch group :=
  ⟨row, submissionOf client group s' l', h.submissions, rfl, h.registers, h.store,
    fun _ ha => h.kept_iff ha⟩

theorem accepted_note_kept_iff {client : Ledger.Client σ} (c : Settings) (s : State) (l : σ) :
    (∀ form : DepositForm,
      Refuses client (confirmDeposit c form) s l ∨
        ∃ signed d group, Approves c form s signed d group ∧
          KeepsUnlessOpen client (confirmDeposit c form) s l d.note d.watch group) ∧
    ∀ form : WithdrawalForm,
      Refuses client (confirmWithdrawal c form) s l ∨
        ∃ params fromNote w root g, Spends c form s params fromNote w root g ∧
          KeepsUnlessOpen client (confirmWithdrawal c form) s l (changeOf w g) g.watch
            (c.builder.authorizeProgram g.txns) := by
  refine ⟨fun form => ?_, fun form => ?_⟩
  · rcases confirmDeposit_attempts c form with h | ⟨_, _, group, row, s', l', hfits, h⟩
    · exact .inl h
    · obtain ⟨signed, d, happroves, rfl, rfl⟩ := hfits
      exact .inr ⟨signed, d, group, happroves, h.keepsUnlessOpen⟩
  · rcases confirmWithdrawal_attempts c form with h | ⟨_, _, _, row, s', l', hfits, h⟩
    · exact .inl h
    · obtain ⟨params, fromNote, w, root, g, -, hspends, rfl, rfl, rfl⟩ := hfits
      exact .inr ⟨params, fromNote, w, root, g, hspends, h.keepsUnlessOpen⟩

namespace MuteNode

def spent : Note := { amount := 200000, k := Block.zero 31, r := Block.zero 31 }

def change : Note := { amount := 24700, k := Block.zero 31, r := Block.zero 31 }

def settings : Settings :=
  { builder := { pool := ⟨1, ⟨Block.zero 32⟩, ⟨Block.zero 32⟩, [6, 129, 1]⟩ } }

def form : WithdrawalForm := ⟨100000, ⟨Block.zero 32⟩, spent.text, change.text, []⟩

def params : ChainParams := ⟨0, 1000, 1, 1001, "", Block.zero 32⟩

def client : Ledger.Client Unit where
  answer q l := match q with
    | .params => (.ok params, l)
    | .submit _ => (.ok "T", l)
    | q => (q.failure (.transport none), l)

def recorded (w root : Word) : State where
  store :=
    { vault := ⟨Block.zero 32⟩
      txns := [⟨0, w.bytes, "T", 0, 200000, 0, none⟩]
      root := some ⟨root.bytes, 1⟩ }
  sessions := { ttl := 60 }
  source := { stream := fun _ => 0, fails := fun _ => false, position := 0, draws := 0 }
  now := 0

theorem commitments_recorded (w root : Word) :
    (recorded w root).store.commitments = .ok [w] := by
  simp only [Store.commitments, recorded, List.mapM_cons, List.mapM_nil, Store.toWord_bytes]
  rfl

theorem currentRoot_recorded (w root : Word) :
    (recorded w root).store.currentRoot = .ok (root, 1) := by
  simp only [Store.currentRoot, recorded, Store.toWord_bytes]
  rfl

theorem find_recorded (w root : Word) :
    (recorded w root).store.txns.find? (·.commitment = w.bytes) =
      some ⟨0, w.bytes, "T", 0, 200000, 0, none⟩ := by
  simp only [recorded, List.find?_cons, decide_true]

def state : State := recorded spent.commitment (Tree.ofCommitments [spent.commitment]).rootWord

theorem exists_spends_form : ∃ fromNote w root g,
    Spends settings form state params fromNote w root g ∧ w.changeNote = change := by
  have hbalance : form.amount.toNat + (settings.feePolicy.fee form.amount).toNat +
      change.amount.toNat = spent.amount.toNat := by decide
  have hbudget : settings.builder.withdrawalBudget params = some (60000, 75300) := by decide
  have hwords : Ledger.Abi.proofWords form.proof = .ok [] := by
    unfold Ledger.Abi.proofWords
    simp [form, groups]
  exact exists_spends (by decide) (Note.parse_text spent) (find_recorded _ _) (by decide)
    (Note.parse_text change) hbalance (commitments_recorded _ _) (currentRoot_recorded _ _)
    (by decide) hbudget (by decide) hwords (by decide)

theorem register_state (n : Note) {txnId : String} (ht : n.txnId = some txnId) :
    ∃ id s', state.register n = (.ok id, s') := by
  have hroom : state.store.nextId < Store.signedLimit := by decide
  have hsource : ∀ i, state.source.fails i = false := fun _ => rfl
  obtain ⟨store, source, h⟩ := Store.registerUnconfirmed_of state.clock ht hroom hsource
  unfold State.register
  rw [h]
  exact ⟨_, _, rfl⟩

theorem accepted_change_lost :
    ∃ fromNote w root g row sub, Spends settings form state params fromNote w root g ∧
      (confirmWithdrawal settings form).submissions client state () = [sub] ∧
      sub.reply = .ok "T" ∧ Registers state.store (changeOf w g) row ∧
      row ∈ sub.state.store.pending ∧
      ¬ Kept g.watch row ((confirmWithdrawal settings form).asked client state ())
        ((confirmWithdrawal settings form).run client state ()).2.1.store := by
  obtain ⟨fromNote, w, root, g, hspends, -⟩ := exists_spends_form
  have htxn : (changeOf w g).txnId = some g.watch := rfl
  have hparams : (client.answer .params ()).1 = .ok params := rfl
  obtain ⟨id, s', hr⟩ := register_state (changeOf w g) htxn
  obtain ⟨row, -, hsubmits⟩ := hspends.submits hparams hr
  refine ⟨fromNote, w, root, g, row, _, hspends, hsubmits.submissions, rfl, hsubmits.registers,
    ?_, ?_⟩
  · rw [submissionOf, hsubmits.store]
    exact Store.mem_enrol _ _
  · exact hsubmits.lost_of_status_error rfl rfl fun saved hs => by cases hs

end MuteNode

end ShieldedPool.Pool
