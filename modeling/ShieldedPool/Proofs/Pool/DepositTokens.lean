import ShieldedPool.Proofs.Pool.DepositThreads

namespace ShieldedPool.Pool

open Ledger (GroupId SignedTransaction encodeGroup)

def Event.stores (g : GroupId) : Event → Bool
  | .prepared _ _ ticket _ => ticket.groupId = g
  | .submitted _ _ => false

def Event.submits (g : GroupId) : Event → Bool
  | .submitted (.confirm form) _ => form.groupId? = some g
  | _ => false

def Orderly (c : Settings) : List Event → Prop
  | [] => True
  | .prepared _ _ _ _ :: log => Orderly c log
  | .submitted request group :: log =>
    (∃ form d members, request = .confirm form ∧ group = encodeGroup members ∧
      Justified c log form d members) ∧ Orderly c log

section Accounts

variable {c : Settings} {log es : List Event} {t t' : Sessions PreparedDeposit}
  {held held' : Option GroupId}

theorem Keyed.mono {log' : List Event} (h : Keyed c log t) (hlog : log ⊆ log') :
    Keyed c log' t := by
  intro e he
  obtain ⟨hid, hstored⟩ := h e he
  exact ⟨hid, hstored.mono hlog⟩

theorem Keyed.filter (h : Keyed c log t) (keep : GroupId × Session PreparedDeposit → Bool) :
    Keyed c log { t with entries := t.entries.filter keep } :=
  fun e he => h e (List.mem_filter.mp he).1

theorem Effect.keyed (h : Effect c log t t' es held held') (hkeyed : Keyed c log t) :
    Keyed c (es ++ log) t' := by
  cases h with
  | quiet | forfeited key => exact hkeyed
  | dropped key | taken key h => exact hkeyed.filter _
  | submitted form d members h => exact hkeyed.mono (List.subset_cons_self _ log)
  | stored amount address d now h =>
    intro e he
    rcases List.mem_cons.mp he with rfl | he
    · exact ⟨rfl, amount, address, _, _, List.mem_cons_self .., List.mem_cons_self .., rfl, h⟩
    · exact (hkeyed.filter _).mono (List.subset_cons_self _ log) e he

theorem Effect.orderly (h : Effect c log t t' es held held') (ho : Orderly c log) :
    Orderly c (es ++ log) := by
  cases h with
  | submitted form d members h => exact ⟨⟨form, d, members, rfl, rfl, h⟩, ho⟩
  | _ => exact ho

def tokens (g : GroupId) (t : Sessions PreparedDeposit) : Nat := t.entries.countP (·.1 = g)

def holds (g : GroupId) (held : Option GroupId) : Bool := held = some g

theorem tokens_delete_le (g key : GroupId) (t : Sessions PreparedDeposit) :
    tokens g (t.delete key) ≤ tokens g t :=
  List.filter_sublist.countP_le

theorem tokens_delete_self (g : GroupId) (t : Sessions PreparedDeposit) :
    tokens g (t.delete g) = 0 := by
  refine List.countP_eq_zero.mpr fun e he heq => ?_
  obtain ⟨-, hne⟩ := List.mem_filter.mp he
  exact of_decide_eq_true hne (of_decide_eq_true heq)

theorem Effect.accounts (h : Effect c log t t' es held held') (g : GroupId) :
    es.countP (Event.submits g) + (holds g held').toNat + tokens g t' ≤
      es.countP (Event.stores g) + (holds g held).toNat + tokens g t := by
  cases h with
  | quiet held => simp
  | forfeited key => simp [holds]
  | dropped key => simpa [holds] using tokens_delete_le g key t
  | stored amount address d now h =>
    have hrest : tokens g (t.delete d.groupId) ≤ tokens g t := tokens_delete_le g d.groupId t
    have htokens : tokens g (withSession d now t) =
        tokens g (t.delete d.groupId) + if d.groupId = g then 1 else 0 := by
      simp [tokens, withSession, List.countP_cons]
    have hstores : Event.stores g (.prepared amount address (ticket d) (withSession d now t)) =
        decide (d.groupId = g) := rfl
    by_cases hg : d.groupId = g
    · subst hg
      rw [tokens_delete_self] at htokens
      simp [holds, htokens, hstores, Event.submits]
    · simpa [holds, htokens, hstores, hg, Event.submits] using hrest
  | taken key h =>
    by_cases hg : key = g
    · subst hg
      have hpos : 0 < tokens key t := by
        obtain ⟨e, he, heq⟩ := h
        exact List.countP_pos_iff.mpr ⟨e, he, decide_eq_true heq⟩
      rw [tokens_delete_self]
      simp only [List.countP_nil, holds, decide_true, Bool.toNat_true]
      omega
    · simpa [holds, hg] using tokens_delete_le g key t
  | submitted form d members h =>
    have hsubmits : Event.submits g (.submitted (.confirm form) (encodeGroup members)) =
        decide (d.groupId = g) := by
      simp [Event.submits, h.named]
    by_cases hg : d.groupId = g <;> simp [hsubmits, holds, Event.stores, hg]

end Accounts

section Service

variable {c : Settings}

theorem exists_split {α : Type _} {xs : List α} {i : Nat} {x : α} (h : xs[i]? = some x) :
    ∃ before after, xs = before ++ x :: after ∧ ∀ y, xs.set i y = before ++ y :: after := by
  induction xs generalizing i with
  | nil => cases h
  | cons z zs ih =>
    cases i with
    | zero =>
      cases h
      exact ⟨[], zs, rfl, fun y => rfl⟩
    | succ i =>
      obtain ⟨before, after, hzs, hset⟩ := ih h
      refine ⟨z :: before, after, by rw [hzs]; rfl, fun y => ?_⟩
      rw [List.set_cons_succ, hset]
      rfl

/-- The invariant of a service: each thread with the session that it holds, and for every group
no more submissions, held sessions and kept sessions than stores. -/
structure Sound (c : Settings) (v : Service) (threads : List (Thread × Option GroupId)) :
    Prop where
  listed : v.threads = threads.map Prod.fst
  runs : ∀ x ∈ threads, Runs c v.log x.1 x.2
  keyed : Keyed c v.log v.state.sessions
  orderly : Orderly c v.log
  accounts : ∀ g, v.log.countP (Event.submits g) + threads.countP (fun x => holds g x.2) +
    tokens g v.state.sessions ≤ v.log.countP (Event.stores g)

theorem Request.runs_begin (log : List Event) (request : Request) :
    Runs c log (request.begin c) none := by
  cases request with
  | prepare amount address => exact .preparing amount address _ .fresh
  | confirm form => exact .confirming form _ none .fresh

theorem Sound.advance {v : Service} {threads : List (Thread × Option GroupId)}
    (h : Sound c v threads) (i : Nat) (replies : Replies) :
    ∃ threads', Sound c (v.next c (.advance i replies)) threads' := by
  cases hi : threads[i]? with
  | none =>
    have hnone : v.threads[i]? = none := by rw [h.listed, List.getElem?_map, hi]; rfl
    refine ⟨threads, ?_⟩
    simp only [Service.next, hnone]
    exact h
  | some x =>
    obtain ⟨thread, held⟩ := x
    have hsome : v.threads[i]? = some thread := by rw [h.listed, List.getElem?_map, hi]; rfl
    obtain ⟨held', heffect, hruns⟩ := runs_steps replies h.keyed
      (h.runs (thread, held) (List.mem_of_getElem? hi))
    obtain ⟨before, after, hsplit, hset⟩ := exists_split hi
    refine ⟨threads.set i ((thread.advance replies v.state).1, held'), ?_⟩
    rw [Service.next_advance c replies hsome]
    refine ⟨?_, ?_, heffect.keyed h.keyed, heffect.orderly h.orderly, fun g => ?_⟩
    · dsimp only
      rw [h.listed, List.map_set]
    · -- The other threads are as they were and see a longer log.
      have hlog : v.log ⊆ (thread.advance replies v.state).2.2 ++ v.log :=
        List.subset_append_right _ v.log
      intro x hx
      rw [hset] at hx
      rcases List.mem_append.mp hx with hx | hx
      · exact (h.runs x (hsplit ▸ List.mem_append_left _ hx)).mono hlog
      · rcases List.mem_cons.mp hx with rfl | hx
        · exact hruns
        · exact (h.runs x (hsplit ▸ List.mem_append_right _ (List.mem_cons_of_mem _ hx))).mono hlog
    · have hstep := heffect.accounts g
      have hbefore := h.accounts g
      rw [hset]
      rw [hsplit] at hbefore
      simp only [List.countP_append, List.countP_cons] at hbefore ⊢
      cases hheld : holds g held <;> cases hheld' : holds g held' <;>
        simp only [hheld, hheld', Bool.toNat_true, Bool.toNat_false, if_true, if_false,
          Bool.false_eq_true] at hstep hbefore ⊢ <;> omega

theorem Sound.next {v : Service} {threads : List (Thread × Option GroupId)}
    (h : Sound c v threads) (m : Move) : ∃ threads', Sound c (v.next c m) threads' := by
  cases m with
  | start request =>
    refine ⟨threads ++ [(request.begin c, none)], ?_, ?_, h.keyed, h.orderly, fun g => ?_⟩
    · simp [Service.next, h.listed]
    · intro x hx
      rcases List.mem_append.mp hx with hx | hx
      · exact h.runs x hx
      · rw [List.mem_singleton.mp hx]
        exact request.runs_begin v.log
    · rw [List.countP_append]
      simpa [Service.next, holds] using h.accounts g
  | advance i replies => exact h.advance i replies
  | elsewhere store source now => exact ⟨threads, h.listed, h.runs, h.keyed, h.orderly, h.accounts⟩
  | expire =>
    refine ⟨threads, h.listed, h.runs, h.keyed.filter _, h.orderly, fun g => ?_⟩
    have hle : tokens g v.state.sweepSessions.sessions ≤ tokens g v.state.sessions :=
      List.filter_sublist.countP_le
    have haccounts := h.accounts g
    change v.log.countP (Event.submits g) + threads.countP (fun x => holds g x.2) +
      tokens g v.state.sweepSessions.sessions ≤ v.log.countP (Event.stores g)
    omega

theorem Sound.play {v : Service} {threads : List (Thread × Option GroupId)}
    (h : Sound c v threads) (moves : List Move) :
    ∃ threads', Sound c (v.play c moves) threads' := by
  induction moves generalizing v threads with
  | nil => exact ⟨threads, h⟩
  | cons m moves ih =>
    obtain ⟨threads', h'⟩ := h.next m
    exact ih h'

theorem sound_launch (c : Settings) (store : Store) (source : Random.Source) (now ttl : Nat) :
    Sound c (Service.launch store source now ttl) [] := by
  refine ⟨rfl, ?_, ?_, trivial, fun g => Nat.le_refl 0⟩
  · intro x hx
    cases hx
  · intro e he
    cases he

theorem submissions_stored (c : Settings) (store : Store) (source : Random.Source)
    (now ttl : Nat) (moves : List Move) :
    Orderly c ((Service.launch store source now ttl).play c moves).log ∧
      ∀ g, ((Service.launch store source now ttl).play c moves).log.countP (Event.submits g) ≤
        ((Service.launch store source now ttl).play c moves).log.countP (Event.stores g) := by
  obtain ⟨threads, h⟩ := (sound_launch c store source now ttl).play moves
  refine ⟨h.orderly, fun g => ?_⟩
  have haccounts := h.accounts g
  omega

end Service

end ShieldedPool.Pool
