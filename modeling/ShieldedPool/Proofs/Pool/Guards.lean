import ShieldedPool.Proofs.Pool.Backing
import ShieldedPool.Proofs.Pool.DepositThreads
import ShieldedPool.Proofs.Store.Operations

namespace ShieldedPool.Pool

open Ledger (Outcome)
open Store (Operation PendingRow Registers after numbers)

variable {α σ : Type}

def Moves (kind : Operation → Prop) (s s' : Store) : Prop :=
  s' = s ∨ ∃ op, kind op ∧ s' = op.apply s

def Performs (kind : Operation → Prop) (β : Type) (step : State → β × State) : Prop :=
  ∀ s, Moves kind s.store (step s).2.store

inductive Closes (id : Int) : Operation → Prop
  | save (n : Note) (source : Random.Source) : Closes id (.save n source)
  | delete : Closes id (.delete id)

/-- A request that changes the database only from the registration of its note on, and that
deletes by no other number than the registered one. -/
inductive Guarded : Flow State α → Prop
  | done (a : α) : Guarded (.done a)
  | act {β : Type} {step : State → β × State} {next : β → Flow State α}
    (hstep : ∀ s, (step s).2.store = s.store) (h : ∀ b, Guarded (next b)) :
    Guarded (.act step next)
  | ask {β : Type} {query : Ledger.Query β} {next : β → Flow State α}
    (h : ∀ b, Guarded (next b)) : Guarded (.ask query next)
  | register {n : Note} {next : Except StoreError Int → Flow State α}
    (hfailed : ∀ e, ∃ a, next (.error e) = .done a)
    (h : ∀ id, (next (.ok id)).Every (Performs (Closes id)) fun _ _ => True) :
    Guarded (.act (State.register n) next)

section Requests

theorem saveNote_performs (id : Int) (n : Note) : Performs (Closes id) _ (State.saveNote n) :=
  fun s => .inr ⟨_, .save n s.source, rfl⟩

theorem delete_performs (id : Int) : Performs (Closes id) _ (State.deleteUnconfirmed id) :=
  fun _ => .inr ⟨_, .delete, rfl⟩

theorem confirmDeposit_guarded (c : Settings) (form : DepositForm) :
    Guarded (confirmDeposit c form) := by
  rcases confirmDeposit_shape c form with ⟨e, hrefused⟩ | ⟨signed, key, -, -, hshape⟩
  · rw [hrefused]
    exact .done _
  · rw [hshape]
    refine .act (fun _ => rfl) fun taken => ?_
    cases taken with
    | error e => exact .done _
    | ok d =>
      unfold checking
      dsimp only
      cases authorize c form signed d with
      | error e => exact .done _
      | ok group =>
        refine .register (fun e => ⟨_, rfl⟩) fun id => ?_
        dsimp only
        rw [submitDeposit_eq]
        exact submission_every _ _ _ _ id _ (delete_performs id) (saveNote_performs id)
          (affordable_every c d.address)

theorem confirmWithdrawal_guarded (c : Settings) (form : WithdrawalForm) :
    Guarded (confirmWithdrawal c form) := by
  apply confirmWithdrawal_of
  · exact .done
  · exact fun _ _ h => .act (fun _ => rfl) h
  · exact fun _ h => .ask h
  · intro w g change
    refine .register (fun e => ⟨_, rfl⟩) fun id => ?_
    dsimp only
    rw [submitWithdrawal_eq]
    exact submission_every _ _ _ _ id _ (delete_performs id) (saveNote_performs id)
      fun _ => trivial

end Requests

inductive Sweeps : Operation → Prop
  | promote (r : UnconfirmedRecord) (leafIndex : UInt64) : Sweeps (.promote r leafIndex)
  | deleteBatch (ids : List Int) : Sweeps (.deleteBatch ids)

theorem batches_moves (now retention size : UInt64) (allowed : Nat) (afterId : Int)
    (report : SweepReport) :
    (Sweep.batches now retention size allowed afterId report).Every
      (fun _ step => ∀ s, Moves Sweeps s (step s).2) fun _ _ => True :=
  Sweep.batches_every now retention (fun _ _ _ => .inl rfl) (fun _ _ => .inl rfl)
    (fun r leaf _ => .inr ⟨_, .promote r leaf, rfl⟩)
    (fun ids _ => .inr ⟨_, .deleteBatch ids, rfl⟩) size allowed afterId report

def dropped (row : PendingRow) (outcome : Except Outcome Bool) (s : State) : State :=
  if shouldDelete outcome then
    { s with store := { s.store with pending := s.store.pending.filter (· ≠ row) } }
  else s

theorem released_after {start : Store} {n : Note} {row : PendingRow}
    (h : Registers start n row) (ops : List Operation) (outcome : Except Outcome Bool) {s : State}
    (hs : s.store = after ops (start.enrol row)) :
    released row.id outcome s = dropped row outcome s := by
  unfold released dropped
  split
  · have hdelete := Store.deleteUnconfirmed_after h ops
    rw [← hs] at hdelete
    simp only [State.deleteUnconfirmed, hdelete]
  · rfl

theorem guards_take_own_rows (client : Ledger.Client σ) (start : Store) (ops : List Operation) :
    (numbers ops start).Pairwise (· < ·) ∧
    (∀ before n now source rest id, ops = before ++ .register n now source :: rest →
      (Operation.register n now source).given (after before start) = some id →
      ∃ row, row.id = id ∧ Registers (after before start) n row ∧
        ∀ outcome (s : State) l, s.store = after ops start →
          ((release id outcome).run client s l).2.1 = dropped row outcome s) ∧
    (∀ c form, Guarded (confirmDeposit c form)) ∧
    (∀ c form, Guarded (confirmWithdrawal c form)) ∧
    ∀ now retention size allowed afterId report,
      (Sweep.batches now retention size allowed afterId report).Every
        (fun _ step => ∀ s, Moves Sweeps s (step s).2) fun _ _ => True := by
  refine ⟨Store.numbers_ascending ops start, ?_, confirmDeposit_guarded,
    confirmWithdrawal_guarded, batches_moves⟩
  rintro before n now source rest id rfl hgiven
  -- The registration was given a number, so it is what brought the row in.
  obtain ⟨_, _, _, row, hop, rfl, hregisters, -, happly⟩ := Store.given_eq_some hgiven
  cases hop
  refine ⟨row, rfl, hregisters, fun outcome s l hs => ?_⟩
  rw [release_run]
  refine released_after hregisters rest outcome ?_
  rw [hs, Store.after_append, Store.after, happly]

end ShieldedPool.Pool
