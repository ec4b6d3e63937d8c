import ShieldedPool.Ledger.Confirmation
import ShieldedPool.Proofs.Trace

namespace ShieldedPool.Ledger

namespace Outcome

theorem ofMessage_ne_timeout {m : String} {o : Outcome} (h : ofMessage m = some o) :
    o.isWaitTimeout = false := by
  unfold ofMessage at h
  split at h
  · cases h; rfl
  · split at h
    · cases h; rfl
    · split at h
      · cases h; rfl
      · cases h

theorem ofError_ne_timeout (e : LedgerError) : (ofError e).isWaitTimeout = false := by
  cases e with
  | api status m =>
    simp only [ofError]
    cases hm : ofMessage m with
    | some o => exact ofMessage_ne_timeout hm
    | none => dsimp only; split <;> rfl
  | _ => rfl

end Outcome

namespace Confirmation

open ShieldedPool.Flow (Asked)

variable {S σ : Type}

def conclude (watch : String) :
    Except Outcome (UInt64 × PendingTransaction) → Except Outcome Confirmation
  | .error o => .error o
  | .ok (round, p) => ofPending watch round p

def failure? {α : Type} : Reply α → Option (Except Outcome Confirmation)
  | .error e => some (.error (Outcome.ofError e))
  | .ok _ => none

def conclusion? (watch : String) : Asked S σ → Option (Except Outcome Confirmation)
  | ⟨.submit _, reply, _, _⟩ => failure? reply
  | ⟨.status, reply, _, _⟩ => failure? reply
  | ⟨.statusAfter _, reply, _, _⟩ => failure? reply
  | ⟨.pending _, reply, _, _⟩ =>
    match sighting reply with
    | .error e => some (.error (Outcome.ofError e))
    | .ok seen => (verdict seen).map (conclude watch)
  | ⟨.params, _, _, _⟩ => none
  | ⟨.account _, _, _, _⟩ => none

theorem findSome?_of_dropLast {α β : Type _} {f : α → Option β} {xs : List α} {x : α} {b : β}
    (h : ∀ y ∈ xs.dropLast, f y = none) (hx : x ∈ xs) (hb : f x = some b) :
    xs.findSome? f = some b := by
  induction xs with
  | nil => cases hx
  | cons y ys ih =>
    cases ys with
    | nil =>
      rcases List.mem_singleton.mp hx with rfl
      simp [hb]
    | cons z zs =>
      have hy : f y = none := h y (by simp)
      have hne : x ≠ y := by
        rintro rfl
        rw [hy] at hb
        cases hb
      rw [List.findSome?_cons, hy]
      exact ih (fun w hw => h w (by simp [hw])) ((List.mem_cons.mp hx).resolve_left hne)

variable (client : Client σ) (watch : String)

structure Decided (es : List (Asked S σ)) (rounds : UInt64)
    (r : Except Outcome Confirmation) : Prop where
  result : r = (es.findSome? (conclusion? watch)).getD (.error (timeout watch rounds))
  last : ∀ e ∈ es.dropLast, conclusion? watch e = none

variable {watch}

theorem Decided.cons {es : List (Asked S σ)} {rounds : UInt64} {r : Except Outcome Confirmation}
    {e : Asked S σ} (he : conclusion? watch e = none) (h : Decided watch es rounds r) :
    Decided watch (e :: es) rounds r := by
  refine ⟨?_, ?_⟩
  · rw [List.findSome?_cons, he]
    exact h.result
  · intro x hx
    cases es with
    | nil => simp at hx
    | cons y ys =>
      rw [List.dropLast_cons_cons] at hx
      rcases List.mem_cons.mp hx with rfl | hx
      · exact he
      · exact h.last x hx

theorem Decided.single {rounds : UInt64} {r : Except Outcome Confirmation} {e : Asked S σ}
    (he : conclusion? watch e = some r) : Decided watch [e] rounds r :=
  ⟨by simp [he], by simp⟩

variable (watch)

theorem poll_decided (rounds : UInt64) (deadline current : Nat) (s : S) (l : σ) :
    Decided watch ((poll watch rounds deadline current).asked client s l) rounds
      (conclude watch ((poll watch rounds deadline current).run client s l).1) := by
  -- Every answer that decides nothing brings the deadline nearer by at least one round.
  induction hn : deadline - current using Nat.strongRecOn generalizing current l with
  | ind n ih =>
    rw [poll]
    split
    case isFalse => exact ⟨rfl, by simp [Flow.asked]⟩
    case isTrue hlt =>
      simp only [Flow.asked, Flow.run_ask]
      cases hs : sighting (client.answer (.pending watch) l).1 with
      | error e => exact .single (by simp [conclusion?, hs, conclude])
      | ok seen =>
        dsimp only
        cases hv : verdict seen with
        | some v => exact .single (by simp [conclusion?, hs, hv])
        | none =>
          refine .cons (by simp [conclusion?, hs, hv]) ?_
          simp only [Flow.asked, Flow.run_ask]
          generalize (client.answer (.pending watch) l).2 = l'
          cases ha : (client.answer (.statusAfter (UInt64.ofNat current)) l').1 with
          | error e => exact .single (by simp [conclusion?, failure?, conclude])
          | ok round =>
            refine .cons (by simp [conclusion?, failure?]) ?_
            exact ih (deadline - max round.toNat (current + 1)) (by omega) _ _ rfl

theorem wait_decided (rounds : UInt64) (s : S) (l : σ) :
    Decided watch ((wait watch rounds).asked client s l) rounds
      (conclude watch ((wait watch rounds).run client s l).1) := by
  rw [wait]
  simp only [Flow.asked, Flow.run_ask]
  cases ha : (client.answer .status l).1 with
  | error e => exact .single (by simp [conclusion?, failure?, conclude])
  | ok start => exact .cons (by simp [conclusion?, failure?]) (poll_decided client watch _ _ _ _ _)

theorem send_eq (group : List SignedTransaction) (rounds : UInt64) :
    (send group watch rounds : Flow S (Except Outcome Confirmation)) =
      .ask (.submit (encodeGroup group)) fun reply =>
        match reply with
        | .error e => .done (.error (Outcome.ofError e))
        | .ok _ => (wait watch rounds).bind fun r => .done (conclude watch r) := by
  unfold send
  congr
  funext reply
  cases reply with
  | error e => rfl
  | ok txid =>
    dsimp only
    congr
    funext r
    cases r <;> rfl

theorem send_decided (group : List SignedTransaction) (rounds : UInt64) (s : S) (l : σ) :
    Decided watch ((send group watch rounds).asked client s l) rounds
      ((send group watch rounds).run client s l).1 := by
  rw [send_eq]
  simp only [Flow.asked, Flow.run_ask]
  cases (client.answer (.submit (encodeGroup group)) l).1 with
  | error e => exact .single (by simp [conclusion?, failure?])
  | ok txid =>
    refine .cons (by simp [conclusion?, failure?]) ?_
    simp only [Flow.asked_bind, Flow.run_bind, Flow.asked, List.append_nil]
    exact wait_decided client watch rounds s _

def Watches : (α : Type) → Query α → Prop
  | _, .pending txid => txid = watch
  | _, .status => True
  | _, .statusAfter _ => True
  | _, _ => False

theorem poll_every (rounds : UInt64) (deadline current : Nat) :
    (poll watch rounds deadline current : Flow S _).Every (fun _ _ => False) (Watches watch) := by
  induction hn : deadline - current using Nat.strongRecOn generalizing current with
  | ind n ih =>
    rw [poll]
    split
    case isFalse => trivial
    case isTrue hlt =>
      refine ⟨rfl, fun reply => ?_⟩
      dsimp only
      split
      · trivial
      · split
        · trivial
        · refine ⟨trivial, fun reply => ?_⟩
          dsimp only
          split
          · trivial
          · exact ih _ (by omega) _ rfl

theorem wait_every (rounds : UInt64) :
    (wait watch rounds : Flow S _).Every (fun _ _ => False) (Watches watch) := by
  refine ⟨trivial, fun reply => ?_⟩
  cases reply with
  | error e => trivial
  | ok start => exact poll_every watch rounds _ _

theorem isSubmit_of_watches {α : Type} {q : Query α} (h : Watches watch α q) :
    q.isSubmit = false := by
  cases q <;> first | rfl | exact h.elim

theorem send_every (group : List SignedTransaction) (rounds : UInt64) :
    (send group watch rounds : Flow S _).Every (fun _ _ => False) fun _ _ => True := by
  rw [send_eq]
  refine ⟨trivial, fun reply => ?_⟩
  cases reply with
  | error e => trivial
  | ok txid =>
    refine Flow.every_bind ?_ fun r => trivial
    exact Flow.every_mono (wait_every watch rounds) (fun _ _ h => h) fun _ _ _ => trivial

theorem send_run_state (group : List SignedTransaction) (rounds : UInt64) (s : S) (l : σ) :
    ((send group watch rounds).run client s l).2.1 = s :=
  Flow.run_state_of_no_acts client (send_every watch group rounds) s l

theorem send_asked (group : List SignedTransaction) (rounds : UInt64) (s : S) (l : σ) :
    ∃ rest, (send group watch rounds).asked client s l =
        ⟨.submit (encodeGroup group), (client.answer (.submit (encodeGroup group)) l).1, s, l⟩ ::
          rest ∧ ∀ e ∈ rest, Watches watch _ e.query := by
  rw [send_eq]
  refine ⟨_, rfl, ?_⟩
  cases (client.answer (.submit (encodeGroup group)) l).1 with
  | error e => intro e he; cases he
  | ok txid =>
    have h : ((wait watch rounds : Flow S _).bind fun r => .done (conclude watch r)).Every
        (fun _ _ => False) (Watches watch) :=
      Flow.every_bind (wait_every watch rounds) fun r => trivial
    exact Flow.every_asked client h s _

theorem send_asked_of_status_error {group : List SignedTransaction} {s : S} {l : σ}
    {txid : String} {e : LedgerError} (rounds : UInt64)
    (ha : (client.answer (.submit (encodeGroup group)) l).1 = .ok txid)
    (he : (client.answer .status (client.answer (.submit (encodeGroup group)) l).2).1 = .error e) :
    (send group watch rounds).asked client s l =
      [⟨.submit (encodeGroup group), .ok txid, s, l⟩,
        ⟨.status, .error e, s, (client.answer (.submit (encodeGroup group)) l).2⟩] := by
  rw [send_eq]
  simp only [Flow.asked, ha, wait, Flow.bind, he]

def unseen : LedgerError → Bool
  | .api 404 _ => true
  | _ => false

theorem sighting_error (e : LedgerError) :
    sighting (.error e) = if unseen e then .ok none else .error e := by
  cases e with
  | api status m =>
    by_cases h : status = 404
    · subst h
      rfl
    · have hu : unseen (.api status m) = false := by
        unfold unseen
        split
        · rename_i heq
          cases heq
          exact absurd rfl h
        · rfl
      unfold sighting
      split
      · contradiction
      · rename_i heq
        cases heq
        exact absurd rfl h
      · rename_i heq
        cases heq
        rw [hu]
        rfl
  | _ => rfl

def UnreadableConfirmation (p : PendingTransaction) : Prop :=
  p.confirmedRound ≠ none ∧ Abi.leafIndexOfLogs p.logs = none

/-- An answer that leaves open whether the group was included: the node failed to answer, or it
reported the watched call as confirmed without a return value that could be read. -/
def LeavesOpen : Asked S σ → Prop
  | ⟨.status, reply, _, _⟩ => ∃ e, reply = .error e
  | ⟨.statusAfter _, reply, _, _⟩ => ∃ e, reply = .error e
  | ⟨.pending _, reply, _, _⟩ =>
    (∃ e, reply = .error e ∧ unseen e = false) ∨ ∃ p, reply = .ok p ∧ UnreadableConfirmation p
  | _ => False

def Evicts : Asked S σ → Prop
  | ⟨.pending txid, reply, _, _⟩ => txid = watch ∧ ∃ p, reply = .ok p ∧ p.poolError ≠ ""
  | _ => False

variable {watch} {es : List (Asked S σ)} {rounds : UInt64} {r : Except Outcome Confirmation}

theorem conclusion?_of_leavesOpen (watch : String) {e : Asked S σ} (h : LeavesOpen e) :
    ∃ o, conclusion? watch e = some (.error o) ∧ o.isWaitTimeout = false := by
  obtain ⟨query, reply, state, ledger⟩ := e
  cases query with
  | status | statusAfter round =>
    obtain ⟨e, rfl⟩ := h
    exact ⟨_, rfl, Outcome.ofError_ne_timeout e⟩
  | pending txid =>
    rcases h with ⟨e, rfl, hu⟩ | ⟨p, rfl, hround, hlogs⟩
    · have hs : sighting (.error e) = .error e := by simp [sighting_error, hu]
      exact ⟨Outcome.ofError e, by simp [conclusion?, hs], Outcome.ofError_ne_timeout e⟩
    · obtain ⟨round, hround⟩ := Option.ne_none_iff_exists'.mp hround
      refine ⟨.internal (watch ++ ": no leaf index in return log"), ?_, rfl⟩
      simp [conclusion?, sighting, verdict, hround, conclude, ofPending, hlogs]
  | params | submit group | account a => exact h.elim

theorem Decided.error_of_leavesOpen (h : Decided watch es rounds r) {e : Asked S σ} (he : e ∈ es)
    (ho : LeavesOpen e) : ∃ o, r = .error o ∧ o.isWaitTimeout = false := by
  obtain ⟨o, hc, hw⟩ := conclusion?_of_leavesOpen watch ho
  refine ⟨o, ?_, hw⟩
  rw [h.result, findSome?_of_dropLast h.last he hc]
  rfl

theorem leavesOpen_or_evicts {e : Asked S σ} {o : Outcome}
    (hc : conclusion? watch e = some (.error o)) (hq : Watches watch _ e.query) :
    LeavesOpen e ∨ Evicts watch e := by
  obtain ⟨query, reply, state, ledger⟩ := e
  cases query with
  | status | statusAfter round =>
    cases reply with
    | error e => exact .inl ⟨e, rfl⟩
    | ok a => cases hc
  | pending txid =>
    cases reply with
    | error e =>
      refine .inl (.inl ⟨e, rfl, ?_⟩)
      cases hu : unseen e with
      | false => rfl
      | true => simp [conclusion?, sighting_error, hu, verdict] at hc
    | ok p =>
      cases hround : p.confirmedRound with
      | some round =>
        refine .inl (.inr ⟨p, rfl, by simp [hround], ?_⟩)
        cases hlogs : Abi.leafIndexOfLogs p.logs with
        | none => rfl
        | some leaf =>
          simp [conclusion?, sighting, verdict, hround, conclude, ofPending, hlogs] at hc
      | none =>
        refine .inr ⟨hq, p, rfl, ?_⟩
        intro hp
        simp [conclusion?, sighting, verdict, hround, hp] at hc
  | params | submit group | account a => exact hq.elim

theorem Decided.exists_conclusion (h : Decided watch es rounds r)
    (hr : ∀ o, r = .error o → o.isWaitTimeout = false) :
    ∃ e ∈ es, conclusion? watch e = some r := by
  cases hf : es.findSome? (conclusion? watch) with
  | none =>
    have hresult := h.result
    rw [hf] at hresult
    cases hr _ hresult
  | some v =>
    have hresult := h.result
    rw [hf, Option.getD_some] at hresult
    subst hresult
    exact List.exists_of_findSome?_eq_some hf

def Confirms (confirmed : Confirmation) : Asked S σ → Prop
  | ⟨.pending txid, reply, _, _⟩ =>
    txid = confirmed.txnId ∧ ∃ p, reply = .ok p ∧
      p.confirmedRound = some confirmed.confirmedRound ∧
      Abi.leafIndexOfLogs p.logs = some confirmed.leafIndex
  | _ => False

theorem ofPending_ok {round : UInt64} {p : PendingTransaction} {confirmed : Confirmation}
    (h : ofPending watch round p = .ok confirmed) :
    ∃ leaf, Abi.leafIndexOfLogs p.logs = some leaf ∧ confirmed = ⟨watch, round, leaf⟩ := by
  unfold ofPending at h
  cases hleaf : Abi.leafIndexOfLogs p.logs with
  | none => rw [hleaf] at h; cases h
  | some leaf =>
    rw [hleaf] at h
    cases h
    exact ⟨leaf, rfl, rfl⟩

theorem confirms_of_conclusion? {e : Asked S σ} {confirmed : Confirmation}
    (hc : conclusion? watch e = some (.ok confirmed)) (hq : Watches watch _ e.query) :
    confirmed.txnId = watch ∧ Confirms confirmed e := by
  obtain ⟨query, reply, state, ledger⟩ := e
  cases query with
  | status | statusAfter round => cases reply <;> cases hc
  | pending txid =>
    cases reply with
    | error e =>
      cases hu : unseen e <;> simp [conclusion?, sighting_error, hu, verdict] at hc
    | ok p =>
      cases hround : p.confirmedRound with
      | none =>
        by_cases hp : p.poolError = "" <;>
          simp [conclusion?, sighting, verdict, hround, hp, conclude] at hc
      | some round =>
        simp only [conclusion?, sighting, verdict, hround, Option.map_some, conclude,
          Option.some.injEq] at hc
        obtain ⟨leaf, hleaf, rfl⟩ := ofPending_ok hc
        exact ⟨rfl, hq, p, rfl, hround, hleaf⟩
  | params | submit group | account a => exact hq.elim

theorem send_confirmed (client : Client σ) {watch : String} {group : List SignedTransaction}
    {rounds : UInt64} {s : S} {l : σ} {confirmed : Confirmation}
    (h : ((send group watch rounds).run client s l).1 = .ok confirmed) :
    confirmed.txnId = watch ∧
      ∃ e ∈ (send group watch rounds).asked client s l, Confirms confirmed e := by
  have hd := send_decided client watch group rounds s l
  rw [h] at hd
  obtain ⟨e, he, hc⟩ := hd.exists_conclusion fun o ho => by cases ho
  obtain ⟨rest, hasked, hrest⟩ := send_asked client watch group rounds s l
  have hq : Watches watch _ e.query := by
    rw [hasked] at he
    rcases List.mem_cons.mp he with rfl | he
    · cases hr : (client.answer (.submit (encodeGroup group)) l).1 <;>
        simp [conclusion?, failure?, hr] at hc
    · exact hrest e he
  obtain ⟨ht, hconf⟩ := confirms_of_conclusion? hc hq
  exact ⟨ht, e, he, hconf⟩

end Confirmation

end ShieldedPool.Ledger
