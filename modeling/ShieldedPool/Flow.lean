import ShieldedPool.Ledger.Client

/-!
Procedures that work on a local state of type `S` and ask a node. Each local step is one
indivisible action; between two steps other procedures may run.
-/

namespace ShieldedPool

inductive Flow (S : Type) (α : Type) : Type 1 where
  | done (a : α) : Flow S α
  | act {β : Type} (step : S → β × S) (next : β → Flow S α) : Flow S α
  | ask {β : Type} (query : Ledger.Query β) (next : β → Flow S α) : Flow S α

namespace Flow

variable {S α β σ : Type}

def bind : Flow S α → (α → Flow S β) → Flow S β
  | .done a, f => f a
  | .act step next, f => .act step fun b => (next b).bind f
  | .ask query next, f => .ask query fun b => (next b).bind f

instance : Monad (Flow S) where
  pure := .done
  bind := .bind

def step (f : S → β × S) : Flow S β := .act f .done

def query (q : Ledger.Query β) : Flow S β := .ask q .done

def run (client : Ledger.Client σ) : Flow S α → S → σ → α × S × σ
  | .done a, s, l => (a, s, l)
  | .act step next, s, l =>
    let (b, s) := step s
    (next b).run client s l
  | .ask query next, s, l =>
    let (b, l) := client.answer query l
    (next b).run client s l

@[simp] theorem run_done (client : Ledger.Client σ) (a : α) (s : S) (l : σ) :
    (done a : Flow S α).run client s l = (a, s, l) := rfl

theorem run_bind (client : Ledger.Client σ) (p : Flow S α) (f : α → Flow S β) (s : S) (l : σ) :
    (p.bind f).run client s l =
      (f (p.run client s l).1).run client (p.run client s l).2.1 (p.run client s l).2.2 := by
  induction p generalizing s l with
  | done a => rfl
  | act step next ih => simp only [bind, run]; exact ih _ _ _
  | ask query next ih => simp only [bind, run]; exact ih _ _ _

def within {T : Type} (get : T → S) (set : T → S → T) : Flow S α → Flow T α
  | .done a => .done a
  | .act step next =>
    .act (fun t => let (b, s) := step (get t); (b, set t s)) fun b => (next b).within get set
  | .ask query next => .ask query fun b => (next b).within get set

end Flow

end ShieldedPool
