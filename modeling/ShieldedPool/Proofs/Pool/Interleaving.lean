import ShieldedPool.Pool.Cleanup
import ShieldedPool.Pool.Deposit
import ShieldedPool.Proofs.Trace

/-!
The deposits of a service at work: any number of requests in progress, each moved on by one step
at a time in any order, with any replies of the node. What else the service does may change the
database, the randomness and the time in any way, and may sweep the sessions.
-/

namespace ShieldedPool.Pool

inductive Request where
  | prepare (amount : UInt64) (address : Address)
  | confirm (form : DepositForm)

inductive Thread : Type 1 where
  | preparing (amount : UInt64) (address : Address) (rest : Action DepositTicket)
  | confirming (form : DepositForm) (rest : Action DepositReceipt)

inductive Event where
  | prepared (amount : UInt64) (address : Address) (ticket : DepositTicket)
    (sessions : Sessions PreparedDeposit)
  | submitted (request : Request) (group : Bytes)

structure Replies : Type 1 where
  reply : {α : Type} → Ledger.Query α → α

inductive Move : Type 1 where
  | start (request : Request)
  | advance (thread : Nat) (replies : Replies)
  | elsewhere (store : Store) (source : Random.Source) (now : Nat)
  | expire

structure Service : Type 1 where
  state : State
  threads : List Thread := []
  log : List Event := []

def Request.begin (c : Settings) : Request → Thread
  | .prepare amount address => .preparing amount address (prepareDeposit c amount address)
  | .confirm form => .confirming form (confirmDeposit c form)

def handed (request : Request) : {α : Type} → Ledger.Query α → List Event
  | _, .submit group => [.submitted request group]
  | _, _ => []

def announced (amount : UInt64) (address : Address) (sessions : Sessions PreparedDeposit) :
    Action DepositTicket → List Event
  | .done (.ok ticket) => [.prepared amount address ticket sessions]
  | _ => []

def Thread.advance (replies : Replies) (s : State) : Thread → Thread × State × List Event
  | .preparing amount address (.done r) => (.preparing amount address (.done r), s, [])
  | .preparing amount address (.act step next) =>
    let (b, s) := step s
    (.preparing amount address (next b), s, announced amount address s.sessions (next b))
  | .preparing amount address (.ask query next) =>
    (.preparing amount address (next (replies.reply query)), s,
      handed (.prepare amount address) query)
  | .confirming form (.done r) => (.confirming form (.done r), s, [])
  | .confirming form (.act step next) =>
    let (b, s) := step s
    (.confirming form (next b), s, [])
  | .confirming form (.ask query next) =>
    (.confirming form (next (replies.reply query)), s, handed (.confirm form) query)

namespace Service

def launch (store : Store) (source : Random.Source) (now ttl : Nat) : Service :=
  { state := { store, sessions := { ttl }, source, now } }

def next (c : Settings) (v : Service) : Move → Service
  | .start request => { v with threads := v.threads ++ [request.begin c] }
  | .advance i replies =>
    match v.threads[i]? with
    | none => v
    | some thread =>
      let (thread, state, events) := thread.advance replies v.state
      { state, threads := v.threads.set i thread, log := events ++ v.log }
  | .elsewhere store source now => { v with state := { v.state with store, source, now } }
  | .expire => { v with state := v.state.sweepSessions }

def play (c : Settings) (moves : List Move) (v : Service) : Service := moves.foldl (next c) v

theorem next_advance (c : Settings) {v : Service} {i : Nat} {thread : Thread} (replies : Replies)
    (h : v.threads[i]? = some thread) :
    v.next c (.advance i replies) =
      ⟨(thread.advance replies v.state).2.1,
        v.threads.set i (thread.advance replies v.state).1,
        (thread.advance replies v.state).2.2 ++ v.log⟩ := by
  simp only [next, h]

end Service

def repliesOf {σ : Type} (client : Ledger.Client σ) (l : σ) : Replies :=
  ⟨fun query => (client.answer query l).1⟩

def submittedAll {σ : Type} (form : DepositForm) (subs : List (Flow.Submission State σ)) :
    List Event :=
  subs.map fun sub => .submitted (.confirm form) sub.group

theorem handed_eq {σ : Type} (form : DepositForm) (e : Flow.Asked State σ) :
    handed (.confirm form) e.query = submittedAll form e.submission?.toList := by
  obtain ⟨query, reply, state, ledger⟩ := e
  cases query <;> rfl

theorem reverse_submittedAll {σ : Type} (form : DepositForm)
    (sub : Option (Flow.Submission State σ)) :
    (submittedAll form sub.toList).reverse = submittedAll form sub.toList := by
  cases sub <;> rfl

theorem confirming_alone {σ : Type} (c : Settings) (client : Ledger.Client σ)
    (form : DepositForm) (rest : Action DepositReceipt) (i : Nat) (v : Service) (l : σ)
    (h : v.threads[i]? = some (.confirming form rest)) :
    ∃ moves, v.play c moves =
      ⟨(rest.run client v.state l).2.1,
        v.threads.set i (.confirming form (.done (rest.run client v.state l).1)),
        (submittedAll form (rest.submissions client v.state l)).reverse ++ v.log⟩ := by
  induction rest generalizing v l with
  | done r =>
    refine ⟨[], ?_⟩
    obtain ⟨hlt, heq⟩ := List.getElem?_eq_some_iff.mp h
    have hset : v.threads.set i (.confirming form (.done r)) = v.threads := by
      rw [← heq]
      exact List.set_getElem_self hlt
    simp [Service.play, Flow.run, Flow.submissions, Flow.asked, submittedAll, hset]
  | act step next ih =>
    have hnext := Service.next_advance c (repliesOf client l) h
    obtain ⟨moves, hmoves⟩ := ih (step v.state).1 (v.next c (.advance i (repliesOf client l))) l (by
      rw [hnext]
      exact List.getElem?_set_self (List.getElem?_eq_some_iff.mp h).1)
    refine ⟨.advance i (repliesOf client l) :: moves, ?_⟩
    change (v.next c _).play c moves = _
    rw [hmoves, hnext]
    simp [Thread.advance, Flow.run, Flow.submissions, Flow.asked]
  | ask query next ih =>
    have hnext := Service.next_advance c (repliesOf client l) h
    obtain ⟨moves, hmoves⟩ := ih (client.answer query l).1
      (v.next c (.advance i (repliesOf client l))) (client.answer query l).2 (by
        rw [hnext]
        exact List.getElem?_set_self (List.getElem?_eq_some_iff.mp h).1)
    refine ⟨.advance i (repliesOf client l) :: moves, ?_⟩
    change (v.next c _).play c moves = _
    rw [hmoves, hnext, Flow.submissions_ask]
    have hhanded : handed (.confirm form) query =
        (submittedAll form (Flow.Asked.submission? ⟨query, (client.answer query l).1, v.state,
          l⟩).toList).reverse := by
      rw [reverse_submittedAll]
      exact handed_eq form ⟨query, (client.answer query l).1, v.state, l⟩
    simp only [Thread.advance, Flow.run, repliesOf, List.set_set, hhanded, submittedAll,
      List.map_append, List.reverse_append, List.append_assoc]

end ShieldedPool.Pool
