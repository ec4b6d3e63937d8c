import ShieldedPool.Pool.Deposit
import ShieldedPool.Pool.Withdraw
import ShieldedPool.Proofs.Ledger.Confirmation
import ShieldedPool.Proofs.Store.Registration

namespace ShieldedPool.Pool

open Ledger (Confirmation Outcome SignedTransaction encodeGroup)
open Store (PendingRow NoteRow Registers Saves)

variable {α σ : Type}

def released (id : Int) (outcome : Except Outcome Bool) (s : State) : State :=
  if shouldDelete outcome then (s.deleteUnconfirmed id).2 else s

def settled (note : Note) (id : Int) : Except Outcome Confirmation → State → State
  | .error o, s => released id (.error o) s
  | .ok confirmed, s =>
    let saving := s.saveNote { note with leafIndex := confirmed.leafIndex }
    released id (.ok saving.1.isOk) saving.2

def Enquires : (α : Type) → Ledger.Query α → Prop
  | _, .params => True
  | _, .account _ => True
  | _, _ => False

theorem isSubmit_of_enquires {q : Ledger.Query α} (h : Enquires α q) : q.isSubmit = false := by
  cases q <;> first | rfl | exact h.elim

variable (client : Ledger.Client σ)

theorem release_run (id : Int) (outcome : Except Outcome Bool) (s : State) (l : σ) :
    (release id outcome).run client s l = ((), released id outcome s, l) := by
  unfold release released
  split <;> rfl

theorem release_asked (id : Int) (outcome : Except Outcome Bool) (s : State) (l : σ) :
    (release id outcome).asked client s l = [] := by
  unfold release
  split <;> rfl

theorem maxDeposit_every (c : Settings) (address : Address) :
    (maxDeposit c address).Every (fun _ _ => False) Enquires := by
  refine ⟨trivial, fun reply => ?_⟩
  cases reply with
  | error e => trivial
  | ok account =>
    refine ⟨trivial, fun reply => ?_⟩
    cases reply <;> trivial

theorem affordable_every (c : Settings) (address : Address) (o : Outcome) :
    (affordable c address o).Every (fun _ _ => False) Enquires := by
  cases o with
  | overSpend cause | minBalance cause =>
    exact Flow.every_bind (maxDeposit_every c address) fun r => by cases r <;> trivial
  | _ => trivial

def Tells : Except Outcome Confirmation → Except PoolError α → Prop
  | .error o, r => ∃ max, r = .error (.confirmation o max)
  | .ok _, r => ∃ receipt, r = .ok receipt

structure Submits (rounds : UInt64) (p : Action α) (s : State) (l : σ) (note : Note)
    (watch : String) (group : List SignedTransaction) (row : PendingRow) (s' : State)
    (l' : σ) : Prop where
  registers : Registers s.store note row
  store : s'.store = s.store.enrol row
  asked : ∃ before rest,
    p.asked client s l =
      before ++ (Confirmation.send group watch rounds).asked client s' l' ++ rest ∧
    ∀ e ∈ before ++ rest, Enquires _ e.query
  final : (p.run client s l).2.1 =
    settled note row.id ((Confirmation.send group watch rounds).run client s' l').1 s'
  result : Tells ((Confirmation.send group watch rounds).run client s' l').1
    (p.run client s l).1

structure Refuses (p : Action α) (s : State) (l : σ) : Prop where
  result : ∃ e, (p.run client s l).1 = .error e ∧ ∀ o max, e ≠ .confirmation o max
  asked : ∀ e ∈ p.asked client s l, Enquires _ e.query
  store : (p.run client s l).2.1.store = s.store

def submission (note : Note) (watch : String) (group : List SignedTransaction)
    (rounds : UInt64) (id : Int) (enquire : Outcome → Flow State (Option Amount))
    (receipt : Confirmation → α) : Action α :=
  (Confirmation.send group watch rounds).bind fun
    | .error o =>
      (enquire o).bind fun max =>
        (release id (.error o)).bind fun _ => .done (.error (.confirmation o max))
    | .ok confirmed =>
      .act (State.saveNote { note with leafIndex := confirmed.leafIndex }) fun saved =>
        (release id (.ok saved.isOk)).bind fun _ => .done (.ok (receipt confirmed))

theorem submitDeposit_eq (c : Settings) (d : PreparedDeposit) (group : List SignedTransaction)
    (id : Int) :
    submitDeposit c d group id = submission d.note d.watch group c.waitRounds id
      (affordable c d.address) fun confirmed =>
        ⟨confirmed.txnId, confirmed.leafIndex, d.amount⟩ := rfl

theorem submitWithdrawal_eq (c : Settings) (w : Withdrawal) (g : Ledger.WithdrawalGroup)
    (change : Note) (id : Int) :
    submitWithdrawal c w g change id = submission change g.watch
      (c.builder.authorizeProgram g.txns) c.waitRounds id (fun _ => .done none) fun confirmed =>
        ⟨confirmed.txnId, w.amount, w.fee, Amount.ofUnits change.amount,
          confirmed.leafIndex⟩ := rfl

section Submission

variable (note : Note) (watch : String) (group : List SignedTransaction) (rounds : UInt64)
  (id : Int) {enquire : Outcome → Flow State (Option Amount)} (receipt : Confirmation → α)
  (s : State) (l : σ)

theorem submission_run_state
    (he : ∀ o, (enquire o).Every (fun _ _ => False) Enquires) :
    ((submission note watch group rounds id enquire receipt).run client s l).2.1 =
      settled note id ((Confirmation.send group watch rounds).run client s l).1 s := by
  rw [submission, Flow.run_bind, Confirmation.send_run_state]
  cases ((Confirmation.send group watch rounds).run client s l).1 with
  | error o =>
    have hstate := Flow.run_state_of_no_acts client (he o) s
    simp only [Flow.run_bind, release_run, hstate, Flow.run_done, settled]
  | ok confirmed =>
    simp only [Flow.run_act, Flow.run_bind, release_run, Flow.run_done, settled]

theorem submission_asked (he : ∀ o, (enquire o).Every (fun _ _ => False) Enquires) :
    ∃ rest, (submission note watch group rounds id enquire receipt).asked client s l =
        (Confirmation.send group watch rounds).asked client s l ++ rest ∧
      ∀ e ∈ rest, Enquires _ e.query := by
  rw [submission, Flow.asked_bind, Confirmation.send_run_state]
  refine ⟨_, rfl, ?_⟩
  cases ((Confirmation.send group watch rounds).run client s l).1 with
  | error o =>
    simp only [Flow.asked_bind, release_asked, Flow.asked, List.append_nil]
    exact Flow.every_asked client (he o) _ _
  | ok confirmed => simp [Flow.asked_bind, release_asked, Flow.asked]

theorem submission_result :
    Tells ((Confirmation.send group watch rounds).run client s l).1
      ((submission note watch group rounds id enquire receipt).run client s l).1 := by
  rw [submission, Flow.run_bind, Confirmation.send_run_state]
  cases ((Confirmation.send group watch rounds).run client s l).1 with
  | error o =>
    simp only [Flow.run_bind, Flow.run_done]
    exact ⟨_, rfl⟩
  | ok confirmed =>
    simp only [Flow.run_act, Flow.run_bind, Flow.run_done]
    exact ⟨_, rfl⟩

def KeepsSessions (β : Type) (step : State → β × State) : Prop :=
  ∀ s, (step s).2.sessions = s.sessions

section Acts

variable {acts : ∀ β : Type, (State → β × State) → Prop}
  (hdelete : acts _ (State.deleteUnconfirmed id))

include hdelete

theorem release_every (outcome : Except Outcome Bool) :
    (release id outcome).Every acts fun _ _ => False := by
  unfold release
  split
  · exact ⟨hdelete, fun _ => trivial⟩
  · trivial

theorem submission_shape (hsave : ∀ n, acts _ (State.saveNote n))
    (he : ∀ o, (enquire o).Every (fun _ _ => False) Enquires) :
    ∃ next, submission note watch group rounds id enquire receipt =
        .ask (.submit (encodeGroup group)) next ∧
      ∀ reply, (next reply).Every acts fun _ q => q.isSubmit = false := by
  rw [submission, Confirmation.send_eq]
  refine ⟨_, rfl, fun reply => Flow.every_bind ?_ fun r => ?_⟩
  · cases reply with
    | error e => trivial
    | ok txid =>
      refine Flow.every_bind ?_ fun r => trivial
      exact Flow.every_mono (Confirmation.wait_every watch rounds) (fun _ _ h => h.elim)
        fun _ _ h => Confirmation.isSubmit_of_watches watch h
  · have hrelease (outcome : Except Outcome Bool) :
        (release id outcome).Every acts fun _ q => q.isSubmit = false :=
      Flow.every_mono (release_every id hdelete outcome) (fun _ _ h => h) fun _ _ h => h.elim
    cases r with
    | error o =>
      refine Flow.every_bind ?_ fun max => Flow.every_bind (hrelease _) fun _ => trivial
      exact Flow.every_mono (he o) (fun _ _ h => h.elim) fun _ _ h => isSubmit_of_enquires h
    | ok confirmed =>
      exact ⟨hsave _, fun saved => Flow.every_bind (hrelease _) fun _ => trivial⟩

theorem submission_every (hsave : ∀ n, acts _ (State.saveNote n))
    (he : ∀ o, (enquire o).Every (fun _ _ => False) Enquires) :
    (submission note watch group rounds id enquire receipt).Every acts fun _ _ => True := by
  obtain ⟨next, heq, hevery⟩ :=
    submission_shape note watch group rounds id receipt hdelete hsave he
  rw [heq]
  exact ⟨trivial, fun reply => Flow.every_mono (hevery reply) (fun _ _ h => h) fun _ _ _ => trivial⟩

end Acts

end Submission

end ShieldedPool.Pool
