import ShieldedPool.Proofs.Pool.Interleaving
import ShieldedPool.Proofs.Store.Visits

namespace ShieldedPool.Pool

open Store (PendingRow Reads)

variable {α : Type}

structure Scene (α : Type) : Type 1 where
  state : State
  request : Action α
  sweeps : List (Flow Store (Except StoreError SweepReport)) := []

inductive Turn : Type 1 where
  | request (replies : Replies)
  | sweep (i : Nat)
  | begin (now retention size : UInt64) (allowed : Nat)
  | record (t : TxnRecord)
  | elapse (now : Nat)

namespace Scene

def start (state : State) (request : Action α) : Scene α := { state, request }

def withStore (v : Scene α) (store : Store) : Scene α := { v with state := { v.state with store } }

def next (v : Scene α) : Turn → Scene α
  | .request replies =>
    match v.request with
    | .done _ => v
    | .act step rest => { v with state := (step v.state).2, request := rest (step v.state).1 }
    | .ask query rest => { v with request := rest (replies.reply query) }
  | .sweep i =>
    match v.sweeps[i]? with
    | some (.act step rest) =>
      { v.withStore (step v.state.store).2 with
        sweeps := v.sweeps.set i (rest (step v.state.store).1) }
    | some (.ask _ _) => v
    | some (.done _) => v
    | none => v
  | .begin now retention size allowed =>
    { v with sweeps := v.sweeps ++ [Sweep.batches now retention size allowed 0 {}] }
  | .record t => v.withStore (v.state.store.recordTxn t).2
  | .elapse now => { v with state := { v.state with now } }

def play (v : Scene α) (turns : List Turn) : Scene α := turns.foldl next v

def Along (p : Scene α → Turn → Prop) : List Turn → Scene α → Prop
  | [], _ => True
  | turn :: turns, v => p v turn ∧ Along p turns (v.next turn)

theorem play_nil (v : Scene α) : v.play [] = v := rfl

theorem play_cons (v : Scene α) (turn : Turn) (turns : List Turn) :
    v.play (turn :: turns) = (v.next turn).play turns := rfl

theorem play_append (v : Scene α) (before after : List Turn) :
    v.play (before ++ after) = (v.play before).play after := List.foldl_append

theorem along_append {p : Scene α → Turn → Prop} {before after : List Turn} {v : Scene α} :
    Along p (before ++ after) v ↔ Along p before v ∧ Along p after (v.play before) := by
  induction before generalizing v with
  | nil => exact (iff_of_eq (true_and _)).symm
  | cons turn before ih =>
    rw [List.cons_append, Along, Along, ih, and_assoc]
    rfl

theorem along_mono {p q : Scene α → Turn → Prop} (h : ∀ v turn, p v turn → q v turn)
    {turns : List Turn} {v : Scene α} (halong : Along p turns v) : Along q turns v := by
  induction turns generalizing v with
  | nil => trivial
  | cons turn turns ih => exact ⟨h v turn halong.1, ih halong.2⟩

end Scene

inductive Handles (P : PendingRow → Prop) {β : Type} (step : Store → β × Store) : Prop
  | looks (h : ∀ s, (step s).2 = s)
  | promotes (r : UnconfirmedRecord) (leaf : UInt64) (row : PendingRow) (hrow : P row)
    (hread : Reads row r) (h : ∀ s, (step s).2 = s.promote r leaf)
  | deletes (ids : List Int) (h : ∀ s, (step s).2 = (s.deleteUnconfirmedBatch ids).2)

def Works (P : PendingRow → Prop) {α : Type} : Flow Store α → Prop
  | .done _ => True
  | .act step rest =>
    Handles P step ∧ ∀ s, (∀ row ∈ s.pending, P row) → Works P (rest (step s).1)
  | .ask _ _ => False

theorem works_bind {P : PendingRow → Prop} {β : Type} {p : Flow Store α} {f : α → Flow Store β}
    (hp : Works P p) (hf : ∀ a, Works P (f a)) : Works P (p.bind f) := by
  induction p with
  | done a => exact hf a
  | act step rest ih => exact ⟨hp.1, fun s hs => ih _ (hp.2 s hs)⟩
  | ask query rest ih => exact hp.elim

theorem exists_reads {rows : List PendingRow} {records : List UnconfirmedRecord}
    (h : List.Forall₂ Reads rows records) {r : UnconfirmedRecord} (hr : r ∈ records) :
    ∃ row ∈ rows, Reads row r := by
  induction h with
  | nil => cases hr
  | cons hread _ ih =>
    rcases List.mem_cons.mp hr with rfl | hr
    · exact ⟨_, List.mem_cons_self .., hread⟩
    · obtain ⟨row, hrow, hread⟩ := ih hr
      exact ⟨row, List.mem_cons_of_mem _ hrow, hread⟩

theorem mem_unconfirmedBatch {s : Store} {after : Int} {limit : UInt64}
    {records : List UnconfirmedRecord} (h : s.unconfirmedBatch after limit = .ok records)
    {r : UnconfirmedRecord} (hr : r ∈ records) : ∃ row ∈ s.pending, Reads row r := by
  obtain ⟨row, hrow, hread⟩ := exists_reads (Store.reads_of_mapM h) hr
  refine ⟨row, ?_, hread⟩
  split at hrow
  · exact (List.mem_filter.mp hrow).1
  · exact (List.mem_filter.mp (List.mem_of_mem_take hrow)).1

section Sweeps

variable {P : PendingRow → Prop} (now retention : UInt64)

theorem resolve_works {records : List UnconfirmedRecord}
    (h : ∀ r ∈ records, ∃ row, P row ∧ Reads row r) (stale : List Int) (report : SweepReport) :
    Works P (Sweep.resolve now retention records stale report) := by
  induction records generalizing stale report with
  | nil => trivial
  | cons r records ih =>
    have hrest := ih fun other ho => h other (List.mem_cons_of_mem r ho)
    obtain ⟨row, hrow, hread⟩ := h r (List.mem_cons_self ..)
    refine ⟨.looks fun _ => rfl, fun s _ => ?_⟩
    dsimp only
    split
    case h_1 leaf _ => exact ⟨.promotes r leaf row hrow hread fun _ => rfl, fun _ _ => hrest _ _⟩
    · split
      · exact hrest _ _
      · exact hrest _ _
    · trivial

theorem batches_works (size : UInt64) (allowed : Nat) (after : Int) (report : SweepReport) :
    Works P (Sweep.batches now retention size allowed after report) := by
  induction allowed generalizing after report with
  | zero => trivial
  | succ allowed ih =>
    refine ⟨.looks fun _ => rfl, fun s hs => ?_⟩
    dsimp only
    split
    · trivial
    case h_2 records hread =>
      have hrecords : ∀ r ∈ records, ∃ row, P row ∧ Reads row r := by
        intro r hr
        obtain ⟨row, hrow, hreads⟩ := mem_unconfirmedBatch hread hr
        exact ⟨row, hs row hrow, hreads⟩
      split
      · trivial
      · refine works_bind (resolve_works now retention hrecords [] report) fun resolved => ?_
        split
        · trivial
        · refine ⟨.deletes _ fun _ => rfl, fun _ _ => ?_⟩
          dsimp only
          split
          · trivial
          · exact ih _ _

end Sweeps

structure Shrinks (s s' : Store) : Prop where
  vault : s'.vault = s.vault
  lastId : s'.lastId = s.lastId
  pending : s'.pending ⊆ s.pending

theorem Shrinks.of_eq {s s' : Store} (h : s' = s) : Shrinks s s' := by
  subst h
  exact ⟨rfl, rfl, List.Subset.refl _⟩

theorem Shrinks.trans {s s' s'' : Store} (h : Shrinks s s') (h' : Shrinks s' s'') :
    Shrinks s s'' :=
  ⟨h'.vault.trans h.vault, h'.lastId.trans h.lastId, List.Subset.trans h'.pending h.pending⟩

theorem shrinks_promote (r : UnconfirmedRecord) (leaf : UInt64) (s : Store) :
    Shrinks s (s.promote r leaf) := by
  rw [Store.promote_eq]
  exact ⟨rfl, rfl, List.filter_sublist.subset⟩

theorem shrinks_deleteUnconfirmedBatch (ids : List Int) (s : Store) :
    Shrinks s (s.deleteUnconfirmedBatch ids).2 := by
  unfold Store.deleteUnconfirmedBatch
  split
  · exact .of_eq rfl
  · exact ⟨rfl, rfl, List.filter_sublist.subset⟩

theorem notes_deleteUnconfirmedBatch (ids : List Int) (s : Store) :
    (s.deleteUnconfirmedBatch ids).2.notes = s.notes := by
  unfold Store.deleteUnconfirmedBatch
  split <;> rfl

theorem recordTxn_rest (t : TxnRecord) (s : Store) :
    Shrinks s (s.recordTxn t).2 ∧ (s.recordTxn t).2.notes = s.notes := by
  rcases Store.recordTxn_cases t s with ⟨e, hr⟩ | ⟨-, hr⟩
  · rw [hr]
    exact ⟨.of_eq rfl, rfl⟩
  · rw [hr]
    exact ⟨⟨rfl, rfl, List.Subset.refl _⟩, rfl⟩

theorem Handles.shrinks {P : PendingRow → Prop} {β : Type} {step : Store → β × Store}
    (h : Handles P step) (s : Store) : Shrinks s (step s).2 := by
  cases h with
  | looks h => exact .of_eq (h s)
  | promotes r leaf row _ _ h => rw [h]; exact shrinks_promote r leaf s
  | deletes ids h => rw [h]; exact shrinks_deleteUnconfirmedBatch ids s

structure Tended (P : PendingRow → Prop) (v : Scene α) : Prop where
  rows : ∀ row ∈ v.state.store.pending, P row
  sweeps : ∀ p ∈ v.sweeps, Works P p

def Turn.IsRequest : Turn → Prop
  | .request _ => True
  | _ => False

def Promotes (v : Scene α) (turn : Turn) (r : UnconfirmedRecord) (leaf : UInt64) : Prop :=
  ∃ (i : Nat) (β : Type) (step : Store → β × Store)
    (rest : β → Flow Store (Except StoreError SweepReport)),
    turn = .sweep i ∧ v.sweeps[i]? = some (.act step rest) ∧
      ∀ s, (step s).2 = s.promote r leaf

inductive Affects (P : PendingRow → Prop) (v : Scene α) (turn : Turn) : Prop
  | keeps (h : (v.next turn).state.store.notes = v.state.store.notes)
  | promotes (r : UnconfirmedRecord) (leaf : UInt64) (row : PendingRow) (hrow : P row)
    (hread : Reads row r) (hturn : Promotes v turn r leaf)
    (h : (v.next turn).state.store = v.state.store.promote r leaf)

section Turns

variable {P : PendingRow → Prop} {v : Scene α} {turn : Turn}

theorem sweep_turn (v : Scene α) (i : Nat) :
    v.next (.sweep i) = v ∨
      ∃ (β : Type) (step : Store → β × Store)
        (rest : β → Flow Store (Except StoreError SweepReport)),
        v.sweeps[i]? = some (.act step rest) ∧
          v.next (.sweep i) =
            { v.withStore (step v.state.store).2 with
              sweeps := v.sweeps.set i (rest (step v.state.store).1) } := by
  unfold Scene.next
  dsimp only
  split
  case h_1 step rest hget => exact .inr ⟨_, step, rest, hget, rfl⟩
  all_goals exact .inl rfl

theorem next_act {β : Type} {step : State → β × State} {rest : β → Action α}
    (h : v.request = .act step rest) (replies : Replies) :
    v.next (.request replies) =
      { v with state := (step v.state).2, request := rest (step v.state).1 } := by
  simp only [Scene.next, h]

theorem next_ask {β : Type} {query : Ledger.Query β} {rest : β → Action α}
    (h : v.request = .ask query rest) (replies : Replies) :
    v.next (.request replies) = { v with request := rest (replies.reply query) } := by
  simp only [Scene.next, h]

theorem next_done {r : Except PoolError α} (h : v.request = .done r) (replies : Replies) :
    v.next (.request replies) = v := by
  simp only [Scene.next, h]

theorem next_other (h : ¬ turn.IsRequest) :
    (v.next turn).request = v.request ∧ (v.next turn).state.source = v.state.source := by
  cases turn with
  | request replies => exact absurd trivial h
  | sweep i =>
    unfold Scene.next
    dsimp only
    split <;> exact ⟨rfl, rfl⟩
  | begin now retention size allowed => exact ⟨rfl, rfl⟩
  | record t => exact ⟨rfl, rfl⟩
  | elapse now => exact ⟨rfl, rfl⟩

theorem next_request {Q : Action α → Prop}
    (hact : ∀ {β : Type} (step : State → β × State) (rest : β → Action α),
      Q (.act step rest) → ∀ b, Q (rest b))
    (hask : ∀ {β : Type} (query : Ledger.Query β) (rest : β → Action α),
      Q (.ask query rest) → ∀ b, Q (rest b))
    (h : Q v.request) (turn : Turn) : Q (v.next turn).request := by
  by_cases hother : turn.IsRequest
  case neg => rwa [(next_other hother).1]
  case pos =>
    cases turn with
    | request replies =>
      cases hrequest : v.request with
      | done r => rwa [next_done hrequest]
      | act step rest =>
        rw [hrequest] at h
        rw [next_act hrequest]
        exact hact step rest h _
      | ask query rest =>
        rw [hrequest] at h
        rw [next_ask hrequest]
        exact hask query rest h _
    | _ => exact hother.elim

theorem Tended.shrinks (hv : Tended P v) (h : ¬ turn.IsRequest) :
    Shrinks v.state.store (v.next turn).state.store := by
  cases turn with
  | request replies => exact absurd trivial h
  | begin now retention size allowed => exact .of_eq rfl
  | record t => exact (recordTxn_rest t v.state.store).1
  | elapse now => exact .of_eq rfl
  | sweep i =>
    rcases sweep_turn v i with heq | ⟨β, step, rest, hget, heq⟩
    · rw [heq]
      exact .of_eq rfl
    · rw [heq]
      exact (hv.sweeps _ (List.mem_of_getElem? hget)).1.shrinks v.state.store

theorem Tended.next (hv : Tended P v) (h : ¬ turn.IsRequest) : Tended P (v.next turn) := by
  refine ⟨fun row hrow => hv.rows row ((hv.shrinks h).pending hrow), ?_⟩
  cases turn with
  | request replies => exact absurd trivial h
  | record t => exact hv.sweeps
  | elapse now => exact hv.sweeps
  | begin now retention size allowed =>
    intro p hp
    rcases List.mem_append.mp hp with hp | hp
    · exact hv.sweeps p hp
    · rw [List.mem_singleton.mp hp]
      exact batches_works now retention size allowed 0 {}
  | sweep i =>
    rcases sweep_turn v i with heq | ⟨β, step, rest, hget, heq⟩
    · rw [heq]
      exact hv.sweeps
    · rw [heq]
      intro p hp
      rcases List.mem_or_eq_of_mem_set hp with hp | rfl
      · exact hv.sweeps p hp
      · exact (hv.sweeps _ (List.mem_of_getElem? hget)).2 v.state.store hv.rows

theorem Tended.affects (hv : Tended P v) (h : ¬ turn.IsRequest) : Affects P v turn := by
  cases turn with
  | request replies => exact absurd trivial h
  | begin now retention size allowed => exact .keeps rfl
  | record t => exact .keeps (recordTxn_rest t v.state.store).2
  | elapse now => exact .keeps rfl
  | sweep i =>
    rcases sweep_turn v i with heq | ⟨β, step, rest, hget, heq⟩
    · exact .keeps (by rw [heq])
    · have hnext : (v.next (.sweep i)).state.store = (step v.state.store).2 := by rw [heq]; rfl
      cases (hv.sweeps _ (List.mem_of_getElem? hget)).1 with
      | looks hstep => exact .keeps (by rw [hnext, hstep])
      | promotes r leaf row hrow hread hstep =>
        exact .promotes r leaf row hrow hread ⟨i, β, step, rest, rfl, hget, hstep⟩
          (hnext.trans (hstep _))
      | deletes ids hstep =>
        exact .keeps (by rw [hnext, hstep, notes_deleteUnconfirmedBatch])

end Turns

section Alone

variable {σ : Type}

theorem request_alone (client : Ledger.Client σ) {p : Action α} {v : Scene α} (l : σ)
    (h : v.request = p) :
    ∃ turns, (∀ turn ∈ turns, turn.IsRequest) ∧
      v.play turns =
        { v with
          state := (p.run client v.state l).2.1
          request := .done (p.run client v.state l).1 } := by
  induction p generalizing v l with
  | done r =>
    refine ⟨[], ⟨fun turn ht => ?_, ?_⟩⟩
    · cases ht
    · cases v
      cases h
      rfl
  | act step rest ih =>
    have hrest : (v.next (.request (repliesOf client l))).request = rest (step v.state).1 := by
      rw [next_act h]
    obtain ⟨turns, hturns, hplay⟩ := ih _ l hrest
    refine ⟨.request (repliesOf client l) :: turns, List.forall_mem_cons.mpr ⟨trivial, hturns⟩, ?_⟩
    change (v.next _).play turns = _
    rw [hplay, next_act h]
    rfl
  | ask query rest ih =>
    have hrest : (v.next (.request (repliesOf client l))).request =
        rest (client.answer query l).1 := by
      rw [next_ask h]
      rfl
    obtain ⟨turns, hturns, hplay⟩ := ih _ (client.answer query l).2 hrest
    refine ⟨.request (repliesOf client l) :: turns, List.forall_mem_cons.mpr ⟨trivial, hturns⟩, ?_⟩
    change (v.next _).play turns = _
    rw [hplay, next_ask h]
    rfl

theorem sweep_alone {P : PendingRow → Prop} {p : Flow Store (Except StoreError SweepReport)}
    (hp : Works P p) {v : Scene α} {i : Nat} (h : v.sweeps[i]? = some p) (hv : Tended P v) :
    ∃ turns, (∀ turn ∈ turns, turn = .sweep i) ∧
      v.play turns =
        { v.withStore (p.run .offline v.state.store ()).2.1 with
          sweeps := v.sweeps.set i (.done (p.run .offline v.state.store ()).1) } := by
  induction p generalizing v with
  | done r =>
    refine ⟨[], ⟨fun turn ht => ?_, ?_⟩⟩
    · cases ht
    · obtain ⟨hlt, heq⟩ := List.getElem?_eq_some_iff.mp h
      rw [Flow.run_done, ← heq, List.set_getElem_self hlt]
      rfl
  | act step rest ih =>
    have hnext : v.next (.sweep i) =
        { v.withStore (step v.state.store).2 with
          sweeps := v.sweeps.set i (rest (step v.state.store).1) } := by
      simp only [Scene.next, h]
    have hrest : (v.next (.sweep i)).sweeps[i]? = some (rest (step v.state.store).1) := by
      rw [hnext]
      exact List.getElem?_set_self (List.getElem?_eq_some_iff.mp h).1
    obtain ⟨turns, hturns, hplay⟩ := ih _ (hp.2 v.state.store hv.rows) hrest
      (hv.next fun hrequest => hrequest)
    refine ⟨.sweep i :: turns, List.forall_mem_cons.mpr ⟨rfl, hturns⟩, ?_⟩
    change (v.next _).play turns = _
    rw [hplay, hnext, Flow.run_act]
    simp only [Scene.withStore, List.set_set]
  | ask query rest => exact hp.elim

end Alone

section Along

variable {P : PendingRow → Prop} {v : Scene α} {turn : Turn} {turns : List Turn}

theorem promote_inj {r r' : UnconfirmedRecord} {leaf leaf' : UInt64}
    (h : ∀ s : Store, s.promote r leaf = s.promote r' leaf') :
    r.id = r'.id ∧ r.commitment = r'.commitment ∧ r.nullifier = r'.nullifier := by
  simp only [Store.promote_eq] at h
  have hrow := congrArg Store.notes (h { vault := ⟨Block.zero 32⟩ })
  have hids := congrArg Store.pending
    (h { vault := ⟨Block.zero 32⟩, pending := [⟨r'.id, [], [], "", 0⟩] })
  obtain ⟨-, hcommitment, -, hnullifier⟩ := Store.NoteRow.mk.inj (List.cons.inj hrow).1
  refine ⟨?_, Block.eq_of_bytes_eq hcommitment, hnullifier⟩
  by_contra hne
  simp [Ne.symm hne] at hids

theorem notes_promote_ne (r : UnconfirmedRecord) (leaf : UInt64) :
    ∃ s : Store, (s.promote r leaf).notes ≠ s.notes := by
  refine ⟨{ vault := ⟨Block.zero 32⟩ }, ?_⟩
  rw [Store.promote_eq]
  exact List.cons_ne_nil _ _

theorem Tended.promoted (hv : Tended P v) {r : UnconfirmedRecord} {leaf : UInt64}
    (h : Promotes v turn r leaf) :
    ∃ row, P row ∧ row.id = r.id ∧ row.commitment = r.commitment.bytes ∧
      row.nullifier = r.nullifier := by
  obtain ⟨i, β, step, rest, rfl, hget, hstep⟩ := h
  obtain ⟨s, hne⟩ := notes_promote_ne r leaf
  cases (hv.sweeps _ (List.mem_of_getElem? hget)).1 with
  | looks hlooks => exact absurd (congrArg Store.notes ((hstep s).symm.trans (hlooks s))) hne
  | promotes r' leaf' row hrow hread hpromotes =>
    obtain ⟨hid, hcommitment, hnullifier⟩ :=
      promote_inj fun s => (hstep s).symm.trans (hpromotes s)
    refine ⟨row, hrow, ?_, ?_, ?_⟩
    · rw [hid, hread.id]
    · rw [hcommitment, hread.commitment]
    · rw [hnullifier, hread.nullifier]
  | deletes ids hdeletes =>
    refine absurd ?_ hne
    rw [← hstep, hdeletes, notes_deleteUnconfirmedBatch]

def Drops (β : Type) (step : State → β × State) : Prop :=
  ∀ s, (step s).2.store.pending ⊆ s.store.pending

theorem every_next (h : v.request.Every Drops fun _ _ => True) (turn : Turn) :
    (v.next turn).request.Every Drops fun _ _ => True :=
  next_request (fun _ _ h b => h.2 b) (fun _ _ h b => h.2 b) h turn

theorem Tended.next_drops (hv : Tended P v) (h : v.request.Every Drops fun _ _ => True)
    (turn : Turn) : Tended P (v.next turn) := by
  by_cases hother : turn.IsRequest
  case neg => exact hv.next hother
  case pos =>
    cases turn with
    | request replies =>
      cases hrequest : v.request with
      | done r => rwa [next_done hrequest]
      | act step rest =>
        rw [hrequest] at h
        rw [next_act hrequest]
        exact ⟨fun row hrow => hv.rows row (h.1 v.state hrow), hv.sweeps⟩
      | ask query rest =>
        rw [next_ask hrequest]
        exact ⟨hv.rows, hv.sweeps⟩
    | _ => exact hother.elim

theorem along_tended (hv : Tended P v) (h : v.request.Every Drops fun _ _ => True)
    (turns : List Turn) :
    Scene.Along (fun v turn => Tended P v ∧ Tended P (v.next turn)) turns v := by
  induction turns generalizing v with
  | nil => trivial
  | cons turn turns ih =>
    have hnext := hv.next_drops h turn
    exact ⟨⟨hv, hnext⟩, ih hnext (every_next h turn)⟩

theorem tended_of_none (hrows : v.state.store.pending = []) (hsweeps : v.sweeps = []) :
    Tended P v := by
  refine ⟨?_, ?_⟩
  · rw [hrows]
    exact List.forall_mem_nil P
  · rw [hsweeps]
    exact List.forall_mem_nil _

theorem request_play (h : ∀ turn ∈ turns, ¬ turn.IsRequest) :
    (v.play turns).request = v.request := by
  induction turns generalizing v with
  | nil => rfl
  | cons turn turns ih =>
    obtain ⟨hturn, hturns⟩ := List.forall_mem_cons.mp h
    exact (ih hturns).trans (next_other hturn).1

theorem along_others {s : Store} (hv : Tended P v) (hs : Shrinks s v.state.store)
    (h : ∀ turn ∈ turns, ¬ turn.IsRequest) :
    Scene.Along (fun v _ => Tended P v ∧ Shrinks s v.state.store) turns v := by
  induction turns generalizing v with
  | nil => trivial
  | cons turn turns ih =>
    obtain ⟨hturn, hturns⟩ := List.forall_mem_cons.mp h
    exact ⟨⟨hv, hs⟩, ih (hv.next hturn) (hs.trans (hv.shrinks hturn)) hturns⟩

theorem along_requests (h : ∀ turn ∈ turns, turn.IsRequest) :
    Scene.Along (fun v turn => ∀ r leaf, ¬ Promotes v turn r leaf) turns v := by
  induction turns generalizing v with
  | nil => trivial
  | cons turn turns ih =>
    obtain ⟨hturn, hturns⟩ := List.forall_mem_cons.mp h
    refine ⟨?_, ih hturns⟩
    rintro r leaf ⟨i, β, step, rest, rfl, -⟩
    exact hturn

end Along

end ShieldedPool.Pool
