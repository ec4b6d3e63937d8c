import ShieldedPool.Flow

namespace ShieldedPool

def Ledger.Query.isSubmit : {α : Type} → Query α → Bool
  | _, .submit _ => true
  | _, _ => false

namespace Flow

variable {S α β σ : Type}

structure Asked (S σ : Type) where
  {Answer : Type}
  query : Ledger.Query Answer
  reply : Answer
  state : S
  ledger : σ

structure Submission (S σ : Type) where
  group : Bytes
  reply : Ledger.Reply String
  state : S
  ledger : σ

def Asked.submission? : Asked S σ → Option (Submission S σ)
  | ⟨.submit group, reply, state, ledger⟩ => some ⟨group, reply, state, ledger⟩
  | _ => none

def asked (client : Ledger.Client σ) : Flow S α → S → σ → List (Asked S σ)
  | .done _, _, _ => []
  | .act step next, s, l => (next (step s).1).asked client (step s).2 l
  | .ask query next, s, l =>
    ⟨query, (client.answer query l).1, s, l⟩ ::
      (next (client.answer query l).1).asked client s (client.answer query l).2

def submissions (client : Ledger.Client σ) (p : Flow S α) (s : S) (l : σ) :
    List (Submission S σ) :=
  (p.asked client s l).filterMap Asked.submission?

theorem asked_bind (client : Ledger.Client σ) (p : Flow S α) (f : α → Flow S β) (s : S) (l : σ) :
    (p.bind f).asked client s l = p.asked client s l ++
      (f (p.run client s l).1).asked client (p.run client s l).2.1 (p.run client s l).2.2 := by
  induction p generalizing s l with
  | done a => rfl
  | act step next ih => simp only [bind, asked, run]; exact ih _ _ _
  | ask query next ih => simp only [bind, asked, run, List.cons_append]; rw [ih]

theorem run_act (client : Ledger.Client σ) (step : S → β × S) (next : β → Flow S α) (s : S)
    (l : σ) : (act step next).run client s l = (next (step s).1).run client (step s).2 l := rfl

theorem run_ask (client : Ledger.Client σ) (q : Ledger.Query β) (next : β → Flow S α) (s : S)
    (l : σ) : (ask q next).run client s l =
      (next (client.answer q l).1).run client s (client.answer q l).2 := rfl

theorem submissions_ask (client : Ledger.Client σ) (q : Ledger.Query β) (next : β → Flow S α)
    (s : S) (l : σ) :
    (ask q next).submissions client s l =
      (Asked.submission? ⟨q, (client.answer q l).1, s, l⟩).toList ++
        (next (client.answer q l).1).submissions client s (client.answer q l).2 := by
  simp only [submissions, asked, List.filterMap_cons]
  cases Asked.submission? ⟨q, (client.answer q l).1, s, l⟩ <;> rfl

def Every (acts : ∀ β : Type, (S → β × S) → Prop) (asks : ∀ β : Type, Ledger.Query β → Prop) :
    Flow S α → Prop
  | .done _ => True
  | .act step next => acts _ step ∧ ∀ b, (next b).Every acts asks
  | .ask query next => asks _ query ∧ ∀ b, (next b).Every acts asks

variable {acts : ∀ β : Type, (S → β × S) → Prop} {asks : ∀ β : Type, Ledger.Query β → Prop}

theorem every_bind {p : Flow S α} {f : α → Flow S β} (hp : p.Every acts asks)
    (hf : ∀ a, (f a).Every acts asks) : (p.bind f).Every acts asks := by
  induction p with
  | done a => exact hf a
  | act step next ih => exact ⟨hp.1, fun b => ih b (hp.2 b)⟩
  | ask query next ih => exact ⟨hp.1, fun b => ih b (hp.2 b)⟩

theorem every_mono {acts' : ∀ β : Type, (S → β × S) → Prop}
    {asks' : ∀ β : Type, Ledger.Query β → Prop} {p : Flow S α} (h : p.Every acts asks)
    (ha : ∀ β step, acts β step → acts' β step) (hq : ∀ β query, asks β query → asks' β query) :
    p.Every acts' asks' := by
  induction p with
  | done a => trivial
  | act step next ih => exact ⟨ha _ _ h.1, fun b => ih b (h.2 b)⟩
  | ask query next ih => exact ⟨hq _ _ h.1, fun b => ih b (h.2 b)⟩

theorem every_asked (client : Ledger.Client σ) {p : Flow S α} (h : p.Every acts asks) (s : S)
    (l : σ) : ∀ e ∈ p.asked client s l, asks _ e.query := by
  induction p generalizing s l with
  | done a => intro e he; cases he
  | act step next ih => exact ih _ (h.2 _) _ _
  | ask query next ih =>
    intro e he
    rcases List.mem_cons.mp he with rfl | he
    · exact h.1
    · exact ih _ (h.2 _) _ _ e he

theorem run_state_of_no_acts (client : Ledger.Client σ) {p : Flow S α}
    (h : p.Every (fun _ _ => False) asks) (s : S) (l : σ) : (p.run client s l).2.1 = s := by
  induction p generalizing l with
  | done a => rfl
  | act step next ih => exact h.1.elim
  | ask query next ih => exact ih _ (h.2 _) _

theorem run_invariant (client : Ledger.Client σ) (inv : S → Prop) {p : Flow S α}
    (h : p.Every (fun _ step => ∀ s, inv s → inv (step s).2) asks) {s : S} (hs : inv s) (l : σ) :
    inv (p.run client s l).2.1 := by
  induction p generalizing s l with
  | done a => exact hs
  | act step next ih => exact ih _ (h.2 _) (h.1 s hs) _
  | ask query next ih => exact ih _ (h.2 _) hs _

theorem submission?_eq_none {e : Asked S σ} (h : e.query.isSubmit = false) :
    e.submission? = none := by
  obtain ⟨query, reply, state, ledger⟩ := e
  cases query <;> first | rfl | cases h

end Flow

end ShieldedPool
