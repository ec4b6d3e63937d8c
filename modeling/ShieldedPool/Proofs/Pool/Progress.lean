import ShieldedPool.Proofs.Pool.DepositThreads
import ShieldedPool.Proofs.Pool.Placement
import ShieldedPool.Proofs.Pool.Rejection

namespace ShieldedPool.Pool

open Ledger (Confirmation Outcome SignedTransaction)
open Store (Placed Gone)

variable {α : Type}

def Fails {α : Type} : Action α → Prop
  | .done r => ∃ e, r = .error e
  | .act _ rest => ∀ b, Fails (rest b)
  | .ask _ rest => ∀ b, Fails (rest b)

theorem fails_bind {β : Type} {p : Flow State β} {f : β → Action α} (h : ∀ b, Fails (f b)) :
    Fails (p.bind f) := by
  induction p with
  | done b => exact h b
  | act step rest ih => exact ih
  | ask query rest ih => exact ih

def settling (note : Note) (id : Int) (enquire : Outcome → Flow State (Option Amount))
    (receipt : Confirmation → α) : Except Outcome Confirmation → Action α
  | .error o =>
    (enquire o).bind fun max =>
      (release id (.error o)).bind fun _ => .done (.error (.confirmation o max))
  | .ok confirmed =>
    .act (State.saveNote { note with leafIndex := confirmed.leafIndex }) fun saved =>
      (release id (.ok saved.isOk)).bind fun _ => .done (.ok (receipt confirmed))

theorem submission_eq (note : Note) (watch : String) (group : List SignedTransaction)
    (rounds : UInt64) (id : Int) (enquire : Outcome → Flow State (Option Amount))
    (receipt : Confirmation → α) :
    submission note watch group rounds id enquire receipt =
      (Confirmation.send group watch rounds).bind (settling note id enquire receipt) := by
  rw [submission]
  exact congrArg _ (funext fun r => by cases r <;> rfl)

structure Registering (leaf : α → UInt64) (note : Note)
    (rest : Except StoreError Int → Action α) : Prop where
  error : ∀ e, Fails (rest (.error e))
  ok : ∃ watch group rounds enquire receipt,
    (∀ id, rest (.ok id) = submission note watch group rounds id enquire receipt) ∧
      ∀ confirmed, leaf (receipt confirmed) = confirmed.leafIndex

inductive Confirms (leaf : α → UInt64) : Action α → Prop
  | fails {p : Action α} (h : Fails p) : Confirms leaf p
  | act {β : Type} {step : State → β × State} {rest : β → Action α}
    (hstep : ∀ s, (step s).2.store = s.store ∧ (step s).2.source = s.source)
    (h : ∀ b, Confirms leaf (rest b)) : Confirms leaf (.act step rest)
  | ask {β : Type} {query : Ledger.Query β} {rest : β → Action α}
    (h : ∀ b, Confirms leaf (rest b)) : Confirms leaf (.ask query rest)
  | registers {note : Note} {rest : Except StoreError Int → Action α}
    (h : Registering leaf note rest) : Confirms leaf (.act (State.register note) rest)

theorem confirmDeposit_confirms (c : Settings) (form : DepositForm) :
    Confirms DepositReceipt.leafIndex (confirmDeposit c form) := by
  rcases confirmDeposit_shape c form with ⟨e, heq⟩ | ⟨signed, key, -, -, heq⟩
  · rw [heq]
    exact .fails ⟨e, rfl⟩
  · rw [heq]
    refine .act (fun s => ⟨rfl, rfl⟩) fun taken => ?_
    cases taken with
    | error e => exact .fails ⟨_, rfl⟩
    | ok d =>
      unfold checking
      dsimp only
      cases authorize c form signed d with
      | error e => exact .fails ⟨e, rfl⟩
      | ok group =>
        exact .registers ⟨fun e => ⟨_, rfl⟩, _, _, _, _, _, submitDeposit_eq c d group,
          fun _ => rfl⟩

theorem confirmWithdrawal_confirms (c : Settings) (form : WithdrawalForm) :
    Confirms WithdrawalReceipt.changeLeafIndex (confirmWithdrawal c form) := by
  unfold confirmWithdrawal
  split
  · exact .fails ⟨_, rfl⟩
  · refine .act (fun s => ⟨rfl, rfl⟩) fun found => ?_
    cases found with
    | error e => exact .fails ⟨e, rfl⟩
    | ok fromNote =>
      dsimp only
      cases withdrawalOf c form fromNote with
      | error e => exact .fails ⟨e, rfl⟩
      | ok w =>
        refine .act (fun s => ⟨rfl, rfl⟩) fun checked => ?_
        cases checked with
        | error e => exact .fails ⟨e, rfl⟩
        | ok root =>
          refine .ask fun reply => ?_
          cases reply with
          | error e => exact .fails ⟨_, rfl⟩
          | ok params =>
            dsimp only
            cases c.builder.withdrawal w root form.proof params with
            | error e => exact .fails ⟨_, rfl⟩
            | ok g =>
              exact .registers ⟨fun e => ⟨_, rfl⟩, _, _, _, _, _,
                submitWithdrawal_eq c w g (changeOf w g), fun _ => rfl⟩

inductive Progress (leaf : α → UInt64) (target : UInt64) (own : Prop) (note : Note) (id : Int)
    (enquire : Outcome → Flow State (Option Amount)) (receipt : Confirmation → α) :
    Action α → Store → Prop
  | waiting {β : Type} {query : Ledger.Query β}
    {rest : β → Flow State (Except Outcome Confirmation)} {s : Store}
    (hrest : ∀ b, (rest b).Every (fun _ _ => False) fun _ _ => True)
    (h : Standing own note target id s) :
    Progress leaf target own note id enquire receipt
      (.ask query fun b => (rest b).bind (settling note id enquire receipt)) s
  | saving {confirmed : Confirmation} {s : Store} (h : Standing own note target id s) :
    Progress leaf target own note id enquire receipt
      (settling note id enquire receipt (.ok confirmed)) s
  | releasing {confirmed : Confirmation} {s : Store}
    (h : confirmed.leafIndex = target → Placed note target s) :
    Progress leaf target own note id enquire receipt
      (.act (State.deleteUnconfirmed id) fun _ => .done (.ok (receipt confirmed))) s
  | ended {r : α} {s : Store}
    (h : leaf r = target → Placed note target s ∧ (own → Gone id s)) :
    Progress leaf target own note id enquire receipt (.done (.ok r)) s

section Settling

variable {leaf : α → UInt64} {target : UInt64} {own : Prop} {note : Note} {id : Int}
  {enquire : Outcome → Flow State (Option Amount)} {receipt : Confirmation → α}

theorem Progress.of_stores {p : Action α} {s s' : Store}
    (h : Progress leaf target own note id enquire receipt p s)
    (hstanding : Standing own note target id s → Standing own note target id s')
    (hplaced : Placed note target s → Placed note target s') (hgone : Gone id s → Gone id s') :
    Progress leaf target own note id enquire receipt p s' := by
  cases h with
  | waiting hrest h => exact .waiting hrest (hstanding h)
  | saving h => exact .saving (hstanding h)
  | releasing h => exact .releasing fun hleaf => hplaced (h hleaf)
  | ended h =>
    exact .ended fun hleaf => ⟨hplaced (h hleaf).1, fun howned => hgone ((h hleaf).2 howned)⟩

theorem fails_settling (o : Outcome) : Fails (settling note id enquire receipt (.error o)) :=
  fails_bind fun _ => fails_bind fun _ => ⟨_, rfl⟩

theorem progress_of_wait {p : Flow State (Except Outcome Confirmation)}
    (hp : p.Every (fun _ _ => False) fun _ _ => True) {s : Store}
    (h : Standing own note target id s) :
    Fails (p.bind (settling note id enquire receipt)) ∨
      Progress leaf target own note id enquire receipt
        (p.bind (settling note id enquire receipt)) s := by
  cases p with
  | done r =>
    cases r with
    | error o => exact .inl (fails_settling o)
    | ok confirmed => exact .inr (.saving h)
  | act step rest => exact hp.1.elim
  | ask query rest => exact .inr (.waiting hp.2 h)

theorem progress_submission (watch : String) (group : List SignedTransaction) (rounds : UInt64)
    {s : Store} (h : Standing own note target id s) :
    Fails (submission note watch group rounds id enquire receipt) ∨
      Progress leaf target own note id enquire receipt
        (submission note watch group rounds id enquire receipt) s := by
  rw [submission_eq]
  exact progress_of_wait (Confirmation.send_every watch group rounds) h

theorem Progress.ask {β : Type} {query : Ledger.Query β} {rest : β → Action α} {s : Store}
    (h : Progress leaf target own note id enquire receipt (.ask query rest) s) (reply : β) :
    Fails (rest reply) ∨ Progress leaf target own note id enquire receipt (rest reply) s := by
  generalize hp : Flow.ask query rest = p at h
  cases h with
  | waiting hrest hstanding =>
    cases hp
    exact progress_of_wait (hrest reply) hstanding
  | saving => cases hp
  | releasing => cases hp
  | ended => cases hp

theorem saveNote_progress {s : State} {txnId : String} {confirmed : Confirmation}
    (hsource : ∀ i, s.source.fails i = false) (htxn : note.txnId = some txnId)
    (htarget : target ≠ Protocol.emptyLeafIndex)
    (hleaf : leaf (receipt confirmed) = confirmed.leafIndex)
    (h : Standing own note target id s.store) :
    Progress leaf target own note id enquire receipt
      ((release id (.ok (s.saveNote { note with leafIndex := confirmed.leafIndex }).1.isOk)).bind
        fun _ => .done (.ok (receipt confirmed)))
      (s.saveNote { note with leafIndex := confirmed.leafIndex }).2.store := by
  unfold State.saveNote
  cases hsave : s.store.saveNote { note with leafIndex := confirmed.leafIndex } s.source with
  | mk r rest =>
    obtain ⟨store, source⟩ := rest
    cases r with
    | ok u =>
      obtain ⟨row, hsaves, rfl⟩ := Store.saveNote_ok hsave
      refine .releasing fun heq => ?_
      subst heq
      exact placed_record hsaves
    | error e =>
      rw [Store.saveNote_error hsave]
      refine .ended fun heq => ?_
      rw [hleaf] at heq
      subst heq
      rcases h with hfree | hplaced
      · have hposition : ({ note with leafIndex := confirmed.leafIndex } : Note).position =
            some confirmed.leafIndex := if_neg htarget
        have hsaved := Store.saveNote_of hposition htxn
          (fun other ho heq => List.filter_eq_nil_iff.mp hfree other ho (decide_eq_true heq))
          hsource
        obtain ⟨s', source', hok⟩ := hsaved
        rw [hsave] at hok
        cases hok
      · exact hplaced

structure Spares (s s' : State) : Prop where
  vault : s'.store.vault = s.store.vault
  pending : s'.store.pending ⊆ s.store.pending
  fails : s'.source.fails = s.source.fails

theorem spares_saveNote (n : Note) (s : State) : Spares s (s.saveNote n).2 := by
  have hfails := Store.saveNote_fails s.store n s.source
  unfold State.saveNote
  rcases Store.saveNote_cases n s.store s.source with ⟨e, source', hr⟩ | ⟨row, source', -, hr⟩
  · rw [hr] at hfails ⊢
    exact ⟨rfl, List.Subset.refl _, hfails⟩
  · rw [hr] at hfails ⊢
    exact ⟨rfl, List.Subset.refl _, hfails⟩

theorem Progress.act {β : Type} {step : State → β × State} {rest : β → Action α} {s : State}
    {txnId : String}
    (h : Progress leaf target own note id enquire receipt (.act step rest) s.store)
    (hsource : ∀ i, s.source.fails i = false) (htxn : note.txnId = some txnId)
    (htarget : target ≠ Protocol.emptyLeafIndex)
    (hleaf : ∀ confirmed, leaf (receipt confirmed) = confirmed.leafIndex) :
    Progress leaf target own note id enquire receipt (rest (step s).1) (step s).2.store ∧
      Spares s (step s).2 := by
  generalize hp : Flow.act step rest = p at h
  generalize hs : s.store = store at h
  cases h with
  | waiting => cases hp
  | ended => cases hp
  | saving hstanding =>
    subst hs
    change Flow.act step rest = Flow.act _ _ at hp
    cases hp
    exact ⟨saveNote_progress hsource htxn htarget (hleaf _) hstanding, spares_saveNote _ s⟩
  | releasing hplaced =>
    subst hs
    cases hp
    refine ⟨.ended fun heq => ?_, ⟨rfl, List.filter_sublist.subset, rfl⟩⟩
    rw [hleaf] at heq
    exact ⟨hplaced heq, fun _ => gone_deleteUnconfirmed id s.store⟩

theorem Progress.ended_ok {id : Int} {p : Action α} {s : Store} {r : α}
    (h : Progress leaf target own note id enquire receipt p s) (hp : p = .done (.ok r))
    (hr : leaf r = target) : Placed note target s ∧ (own → Gone id s) := by
  cases h with
  | waiting => cases hp
  | saving => cases hp
  | releasing => cases hp
  | ended h =>
    cases hp
    exact h hr

end Settling

theorem submission_drops (note : Note) (watch : String) (group : List SignedTransaction)
    (rounds : UInt64) (id : Int) {enquire : Outcome → Flow State (Option Amount)}
    (receipt : Confirmation → α)
    (he : ∀ o, (enquire o).Every (fun _ _ => False) Enquires) :
    (submission note watch group rounds id enquire receipt).Every Drops fun _ _ => True :=
  submission_every note watch group rounds id receipt (fun _ => List.filter_sublist.subset)
    (fun n s => (spares_saveNote n s).pending) he

theorem Approves.shape {c : Settings} {form : DepositForm} {s : State} {signed : SignedTransaction}
    {d : PreparedDeposit} {group : List SignedTransaction} (h : Approves c form s signed d group) :
    ∃ key, (s.takeSession key).1 = .ok d ∧
      confirmDeposit c form = .act (State.takeSession key) (checking c form signed) ∧
        checking c form signed (.ok d) = registering c d group := by
  obtain ⟨key, hkey, htaken⟩ := h.taken
  refine ⟨key, htaken, ?_, ?_⟩
  · unfold confirmDeposit
    rw [h.decoded]
    dsimp only
    rw [hkey]
    congr
  · unfold checking
    dsimp only
    rw [h.authorized]

end ShieldedPool.Pool
