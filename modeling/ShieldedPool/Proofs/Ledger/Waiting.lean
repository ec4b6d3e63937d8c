import ShieldedPool.Ledger.Mock
import ShieldedPool.Proofs.Ledger.Abi
import ShieldedPool.Proofs.Ledger.Confirmation
import ShieldedPool.Proofs.Ledger.Signed

namespace ShieldedPool.Ledger

def Query.isPending : {α : Type} → Query α → Bool
  | _, .pending _ => true
  | _, _ => false

structure Exchange where
  {Answer : Type}
  query : Query Answer
  reply : Answer

def Query.HasNext : {α : Type} → Query α → Prop
  | _, .statusAfter round => round.toNat + 1 < UInt64.size
  | _, _ => True

namespace Confirmation

open ShieldedPool.Flow (Asked)

variable {S σ : Type}

def exchange (e : Asked S σ) : Exchange := ⟨e.query, e.reply⟩

def Unseen : Reply PendingTransaction → Prop
  | .error e => unseen e = true
  | .ok p => p.confirmedRound = none ∧ p.poolError = ""

structure Look where
  round : UInt64
  seen : Reply PendingTransaction
  reached : UInt64

namespace Look

def exchanges (watch : String) (x : Look) : List Exchange :=
  [⟨.pending watch, x.seen⟩, ⟨.statusAfter x.round, .ok x.reached⟩]

def next (x : Look) : Nat := max x.reached.toNat (x.round.toNat + 1)

end Look

def Idles (deadline : Nat) : Nat → List Look → Nat → Prop
  | current, [], last => current = last
  | current, x :: xs, last =>
    current < deadline ∧ x.round.toNat = current ∧ Unseen x.seen ∧ Idles deadline x.next xs last

inductive Ending (watch : String) (rounds : UInt64) (deadline current : Nat) :
    List Exchange → Except Outcome (UInt64 × PendingTransaction) → Prop
  | late : deadline ≤ current →
    Ending watch rounds deadline current [] (.error (timeout watch rounds))
  | failed {reply : Reply PendingTransaction} {e : LedgerError} : current < deadline →
    sighting reply = .error e →
    Ending watch rounds deadline current [⟨.pending watch, reply⟩] (.error (Outcome.ofError e))
  | decided {reply : Reply PendingTransaction} {seen : Option PendingTransaction}
    {v : Except Outcome (UInt64 × PendingTransaction)} : current < deadline →
    sighting reply = .ok seen → verdict seen = some v →
    Ending watch rounds deadline current [⟨.pending watch, reply⟩] v
  | lost {reply : Reply PendingTransaction} {round : UInt64} {e : LedgerError} :
    round.toNat = current → current < deadline →
    Ending watch rounds deadline current
      [⟨.pending watch, reply⟩, ⟨.statusAfter round, .error e⟩] (.error (Outcome.ofError e))

theorem unseen_iff {reply : Reply PendingTransaction} :
    Unseen reply ↔ ∃ seen, sighting reply = .ok seen ∧ verdict seen = none := by
  cases reply with
  | error e =>
    rw [sighting_error, Unseen]
    cases unseen e <;> simp [verdict]
  | ok p =>
    cases hround : p.confirmedRound <;> by_cases hp : p.poolError = "" <;>
      simp [Unseen, sighting, verdict, hround, hp]

theorem poll_trace (client : Client σ) (watch : String) (rounds : UInt64) {deadline : Nat}
    (hd : deadline < UInt64.size) (current : Nat) (s : S) (l : σ) :
    ∃ looks last ending, Idles deadline current looks last ∧
      ((poll watch rounds deadline current).asked client s l).map exchange =
        looks.flatMap (Look.exchanges watch) ++ ending ∧
      Ending watch rounds deadline last ending
        ((poll watch rounds deadline current).run client s l).1 := by
  -- Every look that shows nothing brings the deadline nearer by at least one round.
  induction hn : deadline - current using Nat.strongRecOn generalizing current l with
  | ind n ih =>
    rw [poll]
    split
    case isFalse hlate => exact ⟨[], current, [], rfl, rfl, .late (Nat.le_of_not_lt hlate)⟩
    case isTrue hlt =>
      have hround : (UInt64.ofNat current).toNat = current :=
        UInt64.toNat_ofNat_of_lt' (Nat.lt_trans hlt hd)
      simp only [Flow.asked, Flow.run_ask]
      cases hs : sighting (client.answer (.pending watch) l).1 with
      | error e => exact ⟨[], current, _, rfl, rfl, .failed hlt hs⟩
      | ok seen =>
        dsimp only
        cases hv : verdict seen with
        | some v => exact ⟨[], current, _, rfl, rfl, .decided hlt hs hv⟩
        | none =>
          have hunseen := unseen_iff.mpr ⟨seen, hs, hv⟩
          simp only [Flow.asked, Flow.run_ask]
          generalize (client.answer (.pending watch) l).1 = reply at hunseen
          generalize (client.answer (.pending watch) l).2 = l'
          cases ha : (client.answer (.statusAfter (UInt64.ofNat current)) l').1 with
          | error e => exact ⟨[], current, _, rfl, rfl, .lost hround hlt⟩
          | ok reached =>
            have hcloser : deadline - max reached.toNat (current + 1) < n := by omega
            obtain ⟨looks, last, ending, hidles, hasked, hending⟩ := ih _ hcloser
              (max reached.toNat (current + 1))
              (client.answer (.statusAfter (UInt64.ofNat current)) l').2 rfl
            refine ⟨⟨UInt64.ofNat current, reply, reached⟩ :: looks, last, ending, ?_, ?_, hending⟩
            · refine ⟨hlt, hround, hunseen, ?_⟩
              rwa [Look.next, hround]
            · rw [List.map_cons, List.map_cons, hasked]
              rfl

theorem deadline_lt (start rounds : UInt64) : deadline start rounds < UInt64.size :=
  Nat.lt_of_le_of_lt (Nat.min_le_right ..) (by decide)

theorem wait_trace (client : Client σ) (watch : String) (rounds : UInt64) (s : S) (l : σ) :
    (∃ e, ((wait watch rounds).asked client s l).map exchange = [⟨.status, .error e⟩] ∧
        ((wait watch rounds).run client s l).1 = .error (Outcome.ofError e)) ∨
      ∃ start looks last ending,
        Idles (deadline start rounds) start.toNat looks last ∧
        ((wait watch rounds).asked client s l).map exchange =
          ⟨.status, .ok start⟩ :: (looks.flatMap (Look.exchanges watch) ++ ending) ∧
        Ending watch rounds (deadline start rounds) last ending
          ((wait watch rounds).run client s l).1 := by
  simp only [wait, Flow.asked, Flow.run_ask]
  cases ha : (client.answer .status l).1 with
  | error e => exact .inl ⟨e, rfl, rfl⟩
  | ok start =>
    obtain ⟨looks, last, ending, hidles, hasked, hending⟩ :=
      poll_trace client watch rounds (deadline_lt start rounds) start.toNat s
        (client.answer .status l).2
    refine .inr ⟨start, looks, last, ending, hidles, ?_, hending⟩
    rw [List.map_cons, hasked]
    rfl

section Bounds

variable {deadline current last : Nat} {looks : List Look}

theorem Idles.length_le (h : Idles deadline current looks last) :
    looks.length + (deadline - last) ≤ deadline - current := by
  induction looks generalizing current with
  | nil => cases h; exact Nat.le_of_eq (Nat.zero_add _)
  | cons x xs ih =>
    obtain ⟨hlt, hround, -, hrest⟩ := h
    have hxs := ih hrest
    rw [List.length_cons]
    unfold Look.next at hxs
    omega

theorem countP_exchanges (watch : String) (looks : List Look) :
    (looks.flatMap (Look.exchanges watch)).countP (·.query.isPending) = looks.length := by
  induction looks with
  | nil => rfl
  | cons x xs ih =>
    rw [List.flatMap_cons, List.countP_append, ih, List.length_cons, Nat.add_comm]
    rfl

theorem Idles.forall_exchanges {P : Exchange → Prop} (watch : String)
    (hpending : ∀ reply, Unseen reply → P ⟨.pending watch, reply⟩)
    (hafter : ∀ round reached, round.toNat < deadline → P ⟨.statusAfter round, .ok reached⟩)
    (h : Idles deadline current looks last) : ∀ e ∈ looks.flatMap (Look.exchanges watch), P e := by
  induction looks generalizing current with
  | nil => intro e he; cases he
  | cons x xs ih =>
    obtain ⟨hlt, hround, hseen, hrest⟩ := h
    rw [← hround] at hlt
    intro e he
    rw [List.flatMap_cons] at he
    rcases List.mem_append.mp he with he | he
    · rcases List.mem_cons.mp he with rfl | he
      · exact hpending x.seen hseen
      · cases List.mem_singleton.mp he
        exact hafter x.round x.reached hlt
    · exact ih hrest e he

end Bounds

section Endings

variable {watch : String} {rounds : UInt64} {deadline last : Nat} {ending : List Exchange}
  {r : Except Outcome (UInt64 × PendingTransaction)}

theorem Ending.countP_le (h : Ending watch rounds deadline last ending r) :
    ending.countP (·.query.isPending) ≤ deadline - last := by
  cases h with
  | late => exact Nat.zero_le _
  | failed hlt | decided hlt | lost _ hlt => exact Nat.sub_pos_of_lt hlt

theorem Ending.hasNext (h : Ending watch rounds deadline last ending r)
    (hd : deadline < UInt64.size) : ∀ e ∈ ending, e.query.HasNext := by
  cases h with
  | late => intro e he; cases he
  | failed | decided => intro e he; cases List.mem_singleton.mp he; trivial
  | lost hround hlt =>
    intro e he
    rcases List.mem_cons.mp he with rfl | he
    · trivial
    · cases List.mem_singleton.mp he
      rw [← hround] at hlt
      exact Nat.lt_of_le_of_lt hlt hd

theorem verdict_ne_timeout {seen : Option PendingTransaction} {o : Outcome}
    (h : verdict seen = some (.error o)) : o.isWaitTimeout = false := by
  unfold verdict at h
  split at h
  case h_1 => cases h
  case h_2 p =>
    split at h
    case h_1 => cases h
    case h_2 =>
      split at h
      case isTrue => cases h
      case isFalse =>
        cases h
        cases hm : Outcome.ofMessage p.poolError with
        | none => rfl
        | some o => exact Outcome.ofMessage_ne_timeout hm

theorem error_ne_waitTimeout (e : LedgerError) (cause : String) :
    (.error (Outcome.ofError e) : Except Outcome (UInt64 × PendingTransaction)) ≠
      .error (.waitTimeout cause) := by
  intro heq
  have hno := Outcome.ofError_ne_timeout e
  rw [Except.error.inj heq] at hno
  cases hno

theorem Ending.late_of_timeout (h : Ending watch rounds deadline last ending r) {cause : String}
    (hr : r = .error (.waitTimeout cause)) : ending = [] ∧ deadline ≤ last := by
  cases h with
  | late hlate => exact ⟨rfl, hlate⟩
  | failed | lost => exact absurd hr (error_ne_waitTimeout _ cause)
  | decided _ _ hv =>
    rw [hr] at hv
    cases verdict_ne_timeout hv

def GoesOn : Exchange → Prop
  | ⟨.pending _, reply⟩ => Unseen reply
  | ⟨.statusAfter _, reply⟩ => ∃ reached, reply = .ok reached
  | _ => True

theorem Ending.timeout_of_idle (h : Ending watch rounds deadline last ending r)
    (hidle : ∀ e ∈ ending, GoesOn e) : r = .error (timeout watch rounds) := by
  cases h with
  | late => rfl
  | failed _ hs =>
    obtain ⟨seen, hseen, -⟩ := unseen_iff.mp (hidle _ (List.mem_singleton_self _))
    rw [hs] at hseen
    cases hseen
  | decided _ hs hv =>
    obtain ⟨seen, hseen, hnone⟩ := unseen_iff.mp (hidle _ (List.mem_singleton_self _))
    rw [hs] at hseen
    cases hseen
    rw [hv] at hnone
    cases hnone
  | lost =>
    obtain ⟨reached, heq⟩ := hidle _ (List.mem_cons_of_mem _ (List.mem_singleton_self _))
    cases heq

end Endings

section Wait

variable (client : Client σ) (watch : String) (rounds : UInt64) (s : S) (l : σ)

theorem wait_countP_le :
    ((wait watch rounds).asked client s l).countP (·.query.isPending) ≤ rounds.toNat := by
  have hcount : ((wait watch rounds).asked client s l).countP (·.query.isPending) =
      (((wait watch rounds).asked client s l).map exchange).countP (·.query.isPending) := by
    rw [List.countP_map]
    rfl
  rw [hcount]
  rcases wait_trace client watch rounds s l with ⟨e, hasked, -⟩ |
    ⟨start, looks, last, ending, hidles, hasked, hending⟩
  · rw [hasked]
    exact Nat.zero_le _
  · have hlooks := hidles.length_le
    have hmore := hending.countP_le
    have hwithin : deadline start rounds ≤ start.toNat + rounds.toNat := Nat.min_le_left ..
    rw [hasked, List.countP_cons_of_neg Bool.false_ne_true, List.countP_append, countP_exchanges]
    omega

theorem wait_hasNext : ∀ e ∈ (wait watch rounds).asked client s l, e.query.HasNext := by
  have hall : ∀ e ∈ ((wait watch rounds).asked client s l).map exchange, e.query.HasNext := by
    rcases wait_trace client watch rounds s l with ⟨e, hasked, -⟩ |
      ⟨start, looks, last, ending, hidles, hasked, hending⟩
    · intro x hx
      rw [hasked] at hx
      cases List.mem_singleton.mp hx
      trivial
    · have hd := deadline_lt start rounds
      intro x hx
      rw [hasked] at hx
      rcases List.mem_cons.mp hx with rfl | hx
      · trivial
      · rcases List.mem_append.mp hx with hx | hx
        · exact hidles.forall_exchanges (P := fun x => x.query.HasNext) watch
            (fun _ _ => trivial) (fun _ _ hlt => Nat.lt_of_le_of_lt hlt hd) x hx
        · exact hending.hasNext hd x hx
  exact fun e he => hall _ (List.mem_map_of_mem he)

theorem wait_timeout_iff :
    (∃ cause, ((wait watch rounds).run client s l).1 = .error (.waitTimeout cause)) ↔
      ∃ start looks last, Idles (deadline start rounds) start.toNat looks last ∧
        deadline start rounds ≤ last ∧
        ((wait watch rounds).asked client s l).map exchange =
          ⟨.status, .ok start⟩ :: looks.flatMap (Look.exchanges watch) := by
  rcases wait_trace client watch rounds s l with ⟨e, hasked, hrun⟩ |
    ⟨start, looks, last, ending, hidles, hasked, hending⟩
  · rw [hasked, hrun]
    constructor
    · rintro ⟨cause, heq⟩
      exact absurd heq (error_ne_waitTimeout e cause)
    · rintro ⟨start, looks, last, -, -, heq⟩
      cases heq
  · constructor
    · rintro ⟨cause, hr⟩
      obtain ⟨rfl, hlate⟩ := hending.late_of_timeout hr
      rw [List.append_nil] at hasked
      exact ⟨start, looks, last, hidles, hlate, hasked⟩
    · rintro ⟨start', looks', last', hidles', -, hasked'⟩
      rw [hasked] at hasked'
      have hall : ∀ e ∈ ending, GoesOn e := by
        intro e he
        have hmem := List.mem_append_right (looks.flatMap (Look.exchanges watch)) he
        rw [(List.cons.inj hasked').2] at hmem
        exact hidles'.forall_exchanges watch (fun _ h => h)
          (fun _ reached _ => ⟨reached, rfl⟩) e hmem
      exact ⟨_, hending.timeout_of_idle hall⟩

end Wait

end Confirmation

namespace Mock

open Confirmation (poll wait send timeout deadline ofPending conclude)

variable {S : Type} {m : State}

theorem toNat_add_of_lt {a b : UInt64} (h : a.toNat + b.toNat < UInt64.size) :
    (a + b).toNat = a.toNat + b.toNat := by
  rw [UInt64.toNat_add]
  exact Nat.mod_eq_of_lt h

theorem toNat_advance_round (h : m.round.toNat + 1 < UInt64.size) :
    (advance m.round m).round.toNat = m.round.toNat + 1 := by
  have hsum : (m.round + 1).toNat = m.round.toNat + 1 := toNat_add_of_lt h
  have hle : m.round ≤ m.round + 1 := UInt64.le_iff_toNat_le.mpr (by omega)
  have hmax : (advance m.round m).round = m.round + 1 := if_pos hle
  rw [hmax, hsum]

def inclusion (included leaf : UInt64) : PendingTransaction where
  confirmedRound := some included
  logs := [Abi.encodeReturn leaf (Block.zero 32)]

theorem pending_eq {watch : String} {submitted after leaf : UInt64}
    (h : m.entries.lookup watch = some ⟨submitted, .confirm after, leaf⟩) :
    pending watch m =
      .ok (if submitted + after ≤ m.round then inclusion (submitted + after) leaf else {}) := by
  rw [pending, h]
  rfl

theorem poll_run (watch : String) (rounds : UInt64) (deadline : Nat) (s : S)
    {submitted after leaf : UInt64}
    (hentry : m.entries.lookup watch = some ⟨submitted, .confirm after, leaf⟩)
    (hround : m.round ≤ submitted + after) :
    ((poll watch rounds deadline m.round.toNat).run client s m).1 =
      if (submitted + after).toNat < deadline then
        .ok (submitted + after, inclusion (submitted + after) leaf)
      else .error (timeout watch rounds) := by
  -- The round rises by one at each look until it is the round of the inclusion.
  induction hn : (submitted + after).toNat - m.round.toNat generalizing m with
  | zero =>
    have hsame : m.round = submitted + after := by
      have := UInt64.le_iff_toNat_le.mp hround
      exact UInt64.toNat_inj.mp (by omega)
    rw [poll, hsame]
    split
    case isFalse => rfl
    case isTrue =>
      have hseen : pending watch m = .ok (inclusion (submitted + after) leaf) := by
        rw [pending_eq hentry, if_pos (UInt64.le_of_eq hsame.symm)]
      rw [Flow.run_ask]
      simp only [client, hseen]
      rfl
  | succ n ih =>
    have hbefore : m.round.toNat < (submitted + after).toNat := by omega
    rw [poll]
    split
    case isFalse hlate => rw [if_neg (by omega), Flow.run_done]
    case isTrue hlt =>
      have hfits := (submitted + after).toNat_lt_size
      have hnext := toNat_advance_round (m := m) (by omega)
      have hunseen : pending watch m = .ok {} := by
        rw [pending_eq hentry, if_neg (UInt64.not_le.mpr (UInt64.lt_iff_toNat_lt.mpr hbefore))]
      have hmax : max (advance m.round m).round.toNat (m.round.toNat + 1) =
          (advance m.round m).round.toNat := by
        rw [hnext, Nat.max_self]
      have hrest := ih (m := advance m.round m) hentry
        (UInt64.le_iff_toNat_le.mpr (by omega)) (by omega)
      rw [Flow.run_ask]
      simp only [client, hunseen, Confirmation.sighting, Confirmation.verdict, if_pos, Flow.run_ask,
        UInt64.ofNat_toNat]
      rw [hmax]
      exact hrest

theorem wait_run (watch : String) {after rounds leaf : UInt64} (s : S)
    (hentry : m.entries.lookup watch = some ⟨m.round, .confirm after, leaf⟩)
    (hafter : m.round.toNat + after.toNat < UInt64.size)
    (hrounds : m.round.toNat + rounds.toNat < UInt64.size) :
    ((wait watch rounds).run client s m).1 =
      if after < rounds then .ok (m.round + after, inclusion (m.round + after) leaf)
      else .error (timeout watch rounds) := by
  have hincluded := toNat_add_of_lt hafter
  have hdeadline : deadline m.round rounds = m.round.toNat + rounds.toNat :=
    Nat.min_eq_left (Nat.le_pred_of_lt hrounds)
  have hstatus : (wait watch rounds).run client s m =
      (poll watch rounds (deadline m.round rounds) m.round.toNat).run client s m := rfl
  rw [hstatus, poll_run watch rounds _ s hentry (UInt64.le_iff_toNat_le.mpr (by omega)), hincluded,
    hdeadline]
  simp only [Nat.add_lt_add_iff_left, UInt64.lt_iff_toNat_lt]

def accepted (first : SignedTransaction) (rest : List SignedTransaction) (m : State) : State :=
  { m with
    nextLeaf := m.nextLeaf + 1
    entries := (first.txn.id, ⟨m.round, m.behavior, m.nextLeaf⟩) :: m.entries
    submitted := m.submitted ++ [first :: rest] }

theorem submit_eq {group : Bytes} {first : SignedTransaction} {rest : List SignedTransaction}
    (hgroup : decodeGroup group = .ok (first :: rest)) (hbehavior : refusal m.behavior = none) :
    client.answer (.submit group) m = (.ok first.txn.id, accepted first rest m) := by
  change submit group m = _
  rw [submit, hgroup]
  dsimp only
  rw [hbehavior]
  rfl

theorem conclude_inclusion (watch : String) (included leaf : UInt64) :
    conclude watch (.ok (included, inclusion included leaf)) = .ok ⟨watch, included, leaf⟩ := by
  rw [conclude, ofPending, inclusion, Abi.leafIndexOfLogs_encodeReturn]

theorem send_run {group : List SignedTransaction} {first : SignedTransaction}
    {rest : List SignedTransaction} {after rounds : UInt64} (s : S)
    (hbehavior : m.behavior = .confirm after)
    (hgroup : decodeGroup (encodeGroup group) = .ok (first :: rest))
    (hafter : m.round.toNat + after.toNat < UInt64.size)
    (hrounds : m.round.toNat + rounds.toNat < UInt64.size) :
    ((send group first.txn.id rounds).run client s m).1 =
      if after < rounds then .ok ⟨first.txn.id, m.round + after, m.nextLeaf⟩
      else .error (timeout first.txn.id rounds) := by
  have hentry : (accepted first rest m).entries.lookup first.txn.id =
      some ⟨(accepted first rest m).round, .confirm after, m.nextLeaf⟩ := by
    rw [← hbehavior]
    exact List.lookup_cons_self
  have hsubmit := submit_eq hgroup (by rw [hbehavior]; rfl)
  rw [Confirmation.send_eq, Flow.run_ask, hsubmit]
  dsimp only
  rw [Flow.run_bind, Flow.run_done, wait_run first.txn.id s hentry hafter hrounds]
  split
  case isTrue => exact conclude_inclusion first.txn.id _ m.nextLeaf
  case isFalse => rfl

end Mock

open Confirmation (wait send timeout deadline exchange Idles Look)

theorem waits_within_rounds {S σ : Type} :
    (∀ (client : Client σ) (txid : String) (rounds : UInt64) (s : S) (l : σ),
      ((wait txid rounds).asked client s l).countP (·.query.isPending) ≤ rounds.toNat ∧
      (∀ e ∈ (wait txid rounds).asked client s l, e.query.HasNext) ∧
      ((∃ cause, ((wait txid rounds).run client s l).1 = .error (.waitTimeout cause)) ↔
        ∃ start looks last, Idles (deadline start rounds) start.toNat looks last ∧
          deadline start rounds ≤ last ∧
          ((wait txid rounds).asked client s l).map exchange =
            ⟨.status, .ok start⟩ :: looks.flatMap (Look.exchanges txid))) ∧
    (∀ e, (Outcome.ofError e).isWaitTimeout = false) ∧
    ∀ (group : List SignedTransaction) (first : SignedTransaction)
      (rest : List SignedTransaction) (after rounds : UInt64) (s : S) (m : Mock.State),
      m.behavior = .confirm after →
      decodeGroup (encodeGroup group) = .ok (first :: rest) →
      m.round.toNat + after.toNat < UInt64.size → m.round.toNat + rounds.toNat < UInt64.size →
      ((send group first.txn.id rounds).run Mock.client s m).1 =
        if after < rounds then .ok ⟨first.txn.id, m.round + after, m.nextLeaf⟩
        else .error (timeout first.txn.id rounds) := by
  refine ⟨fun client txid rounds s l => ?_, Outcome.ofError_ne_timeout,
    fun group first rest after rounds s m => Mock.send_run s⟩
  exact ⟨Confirmation.wait_countP_le client txid rounds s l,
    Confirmation.wait_hasNext client txid rounds s l,
    Confirmation.wait_timeout_iff client txid rounds s l⟩

namespace ThirdRound

def payment : SignedTransaction where
  txn :=
    { sender := ⟨Block.zero 32⟩
      fee := 1000
      firstValid := 1000
      lastValid := 2000
      genesisId := ""
      genesisHash := Block.zero 32
      group := none
      note := []
      kind := .payment ⟨Block.zero 32⟩ 5 }
  auth := .program []

def ledger : Mock.State := { behavior := .confirm 2 }

theorem payment_readable : payment.Readable where
  txn :=
    { genesisId := Transaction.size_pos
      note := Transaction.size_pos
      call := fun _ _ _ h => by cases h
      group := by decide }
  auth := Transaction.size_pos

theorem payment_decoded : decodeGroup (encodeGroup [payment]) = .ok [payment] :=
  decodeGroup_eq_ok_iff.mpr ⟨rfl, fun _ hs => List.mem_singleton.mp hs ▸ payment_readable⟩

theorem seen_in_third_round :
    ((send [payment] payment.txn.id 3).run Mock.client () ledger).1 =
        .ok ⟨payment.txn.id, 1002, 0⟩ ∧
      ((send [payment] payment.txn.id 2).run Mock.client () ledger).1 =
        .error (timeout payment.txn.id 2) := by
  have hsend := (@waits_within_rounds Unit Unit).2.2 [payment] payment [] 2
  have hthree := hsend 3 () ledger rfl payment_decoded (by decide) (by decide)
  have htwo := hsend 2 () ledger rfl payment_decoded (by decide) (by decide)
  rw [if_pos (by decide)] at hthree
  rw [if_neg (by decide)] at htwo
  exact ⟨hthree, htwo⟩

end ThirdRound

end ShieldedPool.Ledger
