import ShieldedPool.Proofs.Store.Visits

/-!
A sweep reads its rows in batches, deletes from the table it reads, and puts deletions off to the
end of each batch. None of this shows: it comes to one visit of every row.
-/

namespace ShieldedPool.Sweep

open Store (PendingRow Ordered Holds signed unsigned)

def taken (size : UInt64) (rows : List PendingRow) : List PendingRow :=
  if signed (max size 1) < 0 then rows else rows.take (max size 1).toNat

def ahead (after : Int) (s : Store) : List PendingRow := s.pending.filter (after < ·.id)

theorem unconfirmedBatch_eq (after : Int) (size : UInt64) (s : Store) :
    s.unconfirmedBatch after (max size 1) = (taken size (ahead after s)).mapM PendingRow.toRecord :=
  rfl

theorem ahead_zero {s : Store} (h : Ordered s) : ahead 0 s = s.pending :=
  List.filter_eq_self.mpr fun row hrow => decide_eq_true (h.positive row hrow)

theorem limit_eq (size : UInt64) : max size 1 = if size ≤ 1 then 1 else size := rfl

theorem one_le_limit (size : UInt64) : 1 ≤ (max size 1).toNat := by
  rw [limit_eq]
  split
  · exact Nat.le_refl 1
  case isFalse h =>
    have := UInt64.lt_iff_toNat_lt.mp (UInt64.not_le.mp h)
    exact Nat.le_of_lt this

theorem taken_eq_take (size : UInt64) (rows : List PendingRow) :
    ∃ n, taken size rows = rows.take (n + 1) := by
  unfold taken
  split
  · exact ⟨rows.length, (List.take_of_length_le (Nat.le_succ _)).symm⟩
  · exact ⟨(max size 1).toNat - 1, by rw [Nat.sub_add_cancel (one_le_limit size)]⟩

theorem length_taken_le {size : UInt64} (h : size.toNat ≤ Store.maxVariables)
    (rows : List PendingRow) : (taken size rows).length ≤ Store.maxVariables := by
  have hlimit : (max size 1).toNat ≤ Store.maxVariables := by
    rw [limit_eq]
    split
    · decide
    · exact h
  unfold taken signed
  rw [if_pos (Nat.lt_of_le_of_lt hlimit (by decide)), if_neg (by omega), List.length_take]
  omega

variable (now retention : UInt64)

theorem ahead_visits {s : Store} (h : Ordered s) {after : Int} {batch later : List PendingRow}
    {last : PendingRow} (hsplit : ahead after s = batch ++ later)
    (hlast : batch.getLast? = some last) (report : SweepReport) :
    ahead last.id (batch.foldl (visit now retention) (report, s)).2 = later := by
  obtain ⟨-, q, hq, hstay⟩ := visits_rest now retention batch (report, s)
  obtain ⟨init, rfl⟩ := List.getLast?_eq_some_iff.mp hlast
  have hsorted : (init ++ [last] ++ later).Pairwise (·.id < ·.id) := by
    rw [← hsplit]
    exact h.ascending.filter _
  obtain ⟨hbatch, -, hcross⟩ := List.pairwise_append.mp hsorted
  have hmem : last ∈ init ++ [last] := List.mem_append_right init (List.mem_singleton.mpr rfl)
  have hle : ∀ row ∈ init ++ [last], row.id ≤ last.id := by
    intro row hrow
    rcases List.mem_append.mp hrow with hrow | hrow
    · have hinit := (List.pairwise_append.mp hbatch).2.2
      exact Int.le_of_lt (hinit row hrow last (List.mem_singleton.mpr rfl))
    · rw [List.mem_singleton.mp hrow]
  have hafter : after < last.id := by
    have hin : last ∈ ahead after s := by
      rw [hsplit]
      exact List.mem_append_left later hmem
    exact of_decide_eq_true (List.mem_filter.mp hin).2
  calc ahead last.id ((init ++ [last]).foldl (visit now retention) (report, s)).2
      = s.pending.filter fun p => decide (last.id < p.id) && q p := by
        rw [ahead, hq, List.filter_filter]
    _ = s.pending.filter fun p => decide (last.id < p.id) && decide (after < p.id) := by
        refine List.filter_congr fun p _ => ?_
        by_cases hp : last.id < p.id
        · rw [hstay p fun row hrow heq => by have := hle row hrow; omega]
          simp [hp, Int.lt_trans hafter hp]
        · simp [hp]
    _ = (init ++ [last] ++ later).filter fun p => decide (last.id < p.id) := by
        rw [← List.filter_filter, ← hsplit]
        rfl
    _ = later := by
        rw [List.filter_append, List.filter_eq_nil_iff.mpr, List.filter_eq_self.mpr,
          List.nil_append]
        · exact fun row hrow => decide_eq_true (hcross last hmem row hrow)
        · intro row hrow
          have := hle row hrow
          simpa using this

section Batches

variable {σ : Type} (client : Ledger.Client σ) (l : σ)
variable (size : UInt64) {s : Store} {after : Int} {report : SweepReport}

theorem batches_done (allowed : Nat) (h : ahead after s = []) :
    (batches now retention size (allowed + 1) after report).run client s l =
      (.ok report, s, l) := by
  obtain ⟨n, htaken⟩ := taken_eq_take size (ahead after s)
  rw [batches, Flow.run_act, unconfirmedBatch_eq, htaken, h]
  rfl

theorem batches_unreadable (allowed : Nat) {e : StoreError}
    (h : (taken size (ahead after s)).mapM PendingRow.toRecord = .error e) :
    (batches now retention size (allowed + 1) after report).run client s l = (.error e, s, l) := by
  rw [batches, Flow.run_act, unconfirmedBatch_eq, h]
  rfl

theorem batches_step (h : Ordered s) (allowed : Nat) {batch : List PendingRow}
    {records : List UnconfirmedRecord} {last : PendingRow}
    (hbatch : taken size (ahead after s) = batch)
    (hread : batch.mapM PendingRow.toRecord = .ok records) (hlast : batch.getLast? = some last) :
    (batches now retention size (allowed + 1) after report).run client s l =
        (batches now retention size allowed last.id
          (batch.foldl (visit now retention) (report, s)).1).run client
          (batch.foldl (visit now retention) (report, s)).2 l ∨
      Store.maxVariables < batch.length ∧
        ∃ e, ((batches now retention size (allowed + 1) after report).run client s l).1 =
          .error e := by
  have hreads := Store.reads_of_mapM hread
  have hsub : batch.Sublist s.pending := by
    obtain ⟨n, htaken⟩ := taken_eq_take size (ahead after s)
    rw [← hbatch, htaken]
    exact (List.take_sublist _ _).trans List.filter_sublist
  obtain ⟨stale, report', s', hrun, hfold, hheld, hlength, hsub'⟩ :=
    resolve_run client l hreads h.leaves [] report (h.holds hsub)
  rw [settled_nil] at hfold
  have hrecord : ∃ r, records.getLast? = some r ∧ r.id = last.id := by
    have hids := congrArg List.getLast? (Store.ids_of_reads hreads)
    rw [List.getLast?_map, List.getLast?_map, hlast] at hids
    exact Option.map_eq_some_iff.mp hids
  obtain ⟨r, hr, hid⟩ := hrecord
  rw [batches, Flow.run_act, unconfirmedBatch_eq, hbatch, hread]
  dsimp only
  rw [hr]
  dsimp only
  rw [Flow.run_bind, hrun]
  dsimp only
  rw [Flow.run_act]
  by_cases hfew : stale.length ≤ Store.maxVariables
  · refine .inl ?_
    rw [hheld.deleteUnconfirmedBatch (h.nodup.sublist (hsub'.map _)) hfew, hfold, hid]
    rfl
  · refine .inr ⟨by simp only [List.length_nil] at hlength; omega, ?_⟩
    rw [Store.deleteUnconfirmedBatch, if_pos (Nat.not_le.mp hfew)]
    exact ⟨_, rfl⟩

/-- A walk over rows, with what it starts from and what it comes to: it ends well if the rows can be
read and no batch is larger than one statement can name, and then it has visited every row once. -/
structure Walks (size : UInt64) (rows : List PendingRow) (x : SweepReport × Store)
    (out : Except StoreError SweepReport × Store × σ) : Prop where
  ends : (∀ row ∈ rows, row.Readable) → size.toNat ≤ Store.maxVariables → ∃ r, out.1 = .ok r
  visits : ∀ r, out.1 = .ok r →
    (∀ row ∈ rows, row.Readable) ∧ rows.foldl (visit now retention) x = (r, out.2.1)

variable {now retention size} {rows batch : List PendingRow} {x : SweepReport × Store}
  {out : Except StoreError SweepReport × Store × σ}

theorem Walks.append (hbatch : ∀ row ∈ batch, row.Readable)
    (h : Walks now retention size rows (batch.foldl (visit now retention) x) out) :
    Walks now retention size (batch ++ rows) x out where
  ends hread hsize := h.ends (fun row hrow => hread row (List.mem_append_right _ hrow)) hsize
  visits r hr := by
    obtain ⟨hrows, hfold⟩ := h.visits r hr
    rw [List.forall_mem_append, List.foldl_append]
    exact ⟨⟨hbatch, hrows⟩, hfold⟩

theorem Walks.of_error {e : StoreError} (herror : out.1 = .error e)
    (hwhy : (∀ row ∈ rows, row.Readable) → ¬ size.toNat ≤ Store.maxVariables) :
    Walks now retention size rows x out where
  ends hread hsize := absurd hsize (hwhy hread)
  visits r hr := by
    rw [herror] at hr
    cases hr

variable (now retention size)

theorem batches_run {allowed : Nat} (h : Ordered s) (hroom : (ahead after s).length < allowed) :
    Walks now retention size (ahead after s) (report, s)
      ((batches now retention size allowed after report).run client s l) := by
  induction allowed generalizing s after report with
  | zero => exact absurd hroom (Nat.not_lt_zero _)
  | succ allowed ih =>
    obtain ⟨n, htaken⟩ := taken_eq_take size (ahead after s)
    have hsplit : ahead after s = taken size (ahead after s) ++ (ahead after s).drop (n + 1) := by
      rw [htaken, List.take_append_drop]
    cases hread : (taken size (ahead after s)).mapM PendingRow.toRecord with
    | error e =>
      rw [batches_unreadable now retention client l size allowed hread]
      refine .of_error rfl fun hall => ?_
      obtain ⟨records, hok⟩ := Store.exists_records fun row hrow =>
        hall row (by rw [hsplit]; exact List.mem_append_left _ hrow)
      rw [hread] at hok
      cases hok
    | ok records =>
      cases hlast : (taken size (ahead after s)).getLast? with
      | none =>
        have hempty : ahead after s = [] := by
          rw [htaken] at hlast
          exact (List.take_eq_nil_iff.mp (List.getLast?_eq_none_iff.mp hlast)).resolve_left
            (Nat.succ_ne_zero n)
        rw [batches_done now retention client l size allowed hempty, hempty]
        refine ⟨fun _ _ => ⟨report, rfl⟩, fun r hr => ?_⟩
        cases hr
        exact ⟨fun row hrow => (List.not_mem_nil hrow).elim, rfl⟩
      | some last =>
        rcases batches_step now retention client l size h allowed rfl hread hlast with
          hstep | ⟨hcrowded, e, herror⟩
        · have hahead := ahead_visits now retention h hsplit hlast report
          have hsome : last ∈ ahead after s := by
            rw [hsplit]
            exact List.mem_append_left _ (List.mem_of_getLast? hlast)
          have hlater : ((ahead after s).drop (n + 1)).length < allowed := by
            have := List.length_pos_of_mem hsome
            rw [List.length_drop]
            omega
          rw [← hahead] at hlater
          have hwalks := @ih _ last.id
            ((taken size (ahead after s)).foldl (visit now retention) (report, s)).1
            (Ordered.visits now retention h (taken size (ahead after s)) report) hlater
          rw [hahead] at hwalks
          have hall := hwalks.append (Store.readable_of_reads (Store.reads_of_mapM hread))
          rw [← hsplit] at hall
          rw [hstep]
          exact hall
        · refine .of_error herror fun _ hsize => ?_
          have := length_taken_le hsize (ahead after s)
          omega

end Batches

section Runs

variable {s : Store}

theorem ahead_lt_enough (h : Ordered s) : (ahead 0 s).length < enough s := by
  rw [ahead_zero h]
  exact Nat.lt_succ_self _

variable {now retention}

theorem onePass_of_ok {s' : Store} (h : Ordered s) {size : UInt64} {report : SweepReport}
    (hrun : run now retention size false s = (.ok report, s')) :
    (∀ row ∈ s.pending, row.Readable) ∧ onePass now retention s = (report, s') := by
  have hwalks : Walks now retention size (ahead 0 s) ({}, s) _ :=
    batches_run now retention Ledger.Client.offline () size h (ahead_lt_enough h)
  obtain ⟨hread, hfold⟩ := hwalks.visits report (congrArg Prod.fst hrun)
  rw [ahead_zero h] at hread hfold
  exact ⟨hread, hfold.trans (congrArg (Prod.mk report) (congrArg Prod.snd hrun))⟩

theorem run_ok (now retention : UInt64) (h : Ordered s)
    (hread : ∀ row ∈ s.pending, row.Readable) {size : UInt64}
    (hsize : size.toNat ≤ Store.maxVariables) :
    run now retention size false s =
      (.ok (onePass now retention s).1, (onePass now retention s).2) := by
  have hwalks : Walks now retention size (ahead 0 s) ({}, s) _ :=
    batches_run now retention Ledger.Client.offline () size h (ahead_lt_enough h)
  obtain ⟨r, hr⟩ := hwalks.ends (by rwa [ahead_zero h]) hsize
  have hrun : run now retention size false s = (.ok r, (run now retention size false s).2) :=
    Prod.ext hr rfl
  rw [hrun, (onePass_of_ok h hrun).2]

end Runs

section Again

variable {now retention}

def Waits (now retention : UInt64) (txns : List Store.TxnRow) (row : PendingRow) : Prop :=
  txns.find? (·.commitment = row.commitment) = none ∧
    ¬ retention.toNat ≤ now.toNat - (unsigned row.createdAt).toNat

theorem visit_of_waits {x : SweepReport × Store} {row : PendingRow}
    (h : Waits now retention x.2.txns row) :
    visit now retention x row = (⟨x.1.promoted, x.1.discarded, x.1.retained + 1⟩, x.2) := by
  simp only [visit, h.1, if_neg h.2]

theorem visits_of_waits {rows : List PendingRow} (x : SweepReport × Store)
    (h : ∀ row ∈ rows, Waits now retention x.2.txns row) :
    rows.foldl (visit now retention) x =
      (⟨x.1.promoted, x.1.discarded, x.1.retained + rows.length⟩, x.2) := by
  induction rows generalizing x with
  | nil => rfl
  | cons row rows ih =>
    have hrest := ih (⟨x.1.promoted, x.1.discarded, x.1.retained + 1⟩, x.2)
      fun other ho => h other (List.mem_cons_of_mem row ho)
    rw [List.foldl_cons, visit_of_waits (h row (List.mem_cons_self ..)), hrest]
    simp only [List.length_cons, Nat.add_assoc, Nat.add_comm 1]

theorem visit_removes {x : SweepReport × Store} {row : PendingRow}
    (h : ¬ Waits now retention x.2.txns row) :
    ∀ p ∈ (visit now retention x row).2.pending, p.id ≠ row.id := by
  intro p hp
  unfold visit at hp
  dsimp only at hp
  split at hp
  · exact of_decide_eq_true (List.mem_filter.mp hp).2
  case h_2 hnone =>
    split at hp
    · exact of_decide_eq_true (List.mem_filter.mp hp).2
    case isFalse hage => exact (h ⟨hnone, hage⟩).elim

theorem visits_remove {rows : List PendingRow} {x : SweepReport × Store} {row : PendingRow}
    (hrow : row ∈ rows) (h : ¬ Waits now retention x.2.txns row) :
    ∀ p ∈ (rows.foldl (visit now retention) x).2.pending, p.id ≠ row.id := by
  induction rows generalizing x with
  | nil => cases hrow
  | cons other rows ih =>
    rw [List.foldl_cons]
    rcases List.mem_cons.mp hrow with rfl | hrow
    · obtain ⟨-, q, hq, -⟩ := visits_rest now retention rows (visit now retention x row)
      intro p hp
      rw [hq] at hp
      exact visit_removes h p (List.mem_filter.mp hp).1
    · refine ih hrow ?_
      rwa [(visit_rest now retention x other).1]

theorem onePass_subset (s : Store) : (onePass now retention s).2.pending ⊆ s.pending := by
  obtain ⟨-, q, hq, -⟩ := visits_rest now retention s.pending ({}, s)
  rw [onePass, hq]
  exact List.filter_sublist.subset

theorem onePass_waits (s : Store) :
    ∀ row ∈ (onePass now retention s).2.pending,
      Waits now retention (onePass now retention s).2.txns row := by
  obtain ⟨htxns, -⟩ := visits_rest now retention s.pending ({}, s)
  intro row hrow
  by_contra hnot
  rw [onePass, htxns] at hnot
  exact visits_remove (onePass_subset s hrow) hnot row hrow rfl

theorem onePass_again (s : Store) :
    onePass now retention (onePass now retention s).2 =
      ({ retained := (onePass now retention s).2.pending.length },
        (onePass now retention s).2) := by
  have hagain := visits_of_waits ({}, (onePass now retention s).2) (onePass_waits s)
  rw [Nat.zero_add] at hagain
  exact hagain

end Again

theorem sweep_visits_once {s : Store} (h : Ordered s) {size : UInt64}
    (hsize : size.toNat ≤ Store.maxVariables) :
    ((∀ row ∈ s.pending, row.Readable) →
      ∃ report s', run now retention size false s = (.ok report, s') ∧
        onePass now retention s = (report, s') ∧
        report.promoted + report.discarded + report.retained = s.pending.length ∧
        s.notes.Sublist s'.notes ∧ (∀ n ∈ s'.notes, n ∈ s.notes ∨ Brought s n) ∧
        (∀ row ∈ s.pending, ∀ t, s.txns.find? (·.commitment = row.commitment) = some t →
          ∃ n ∈ s'.notes, n.leaf = t.leaf) ∧
        run now retention size false s' = (.ok { retained := s'.pending.length }, s')) ∧
      ((∃ row ∈ s.pending, ¬ row.Readable) →
        ∃ e, (run now retention size false s).1 = .error e) := by
  refine ⟨fun hread => ?_, ?_⟩
  · have htotal := visits_total now retention s.pending ({}, s)
    have hnotes := visits_notes now retention s.pending ({}, s)
    have hbrought := visits_brought now retention (x := ({}, s)) (List.Subset.refl _) rfl
      (List.Subset.refl _) fun n hn => .inl hn
    have hread' : ∀ row ∈ (onePass now retention s).2.pending, row.Readable :=
      fun row hrow => hread row (onePass_subset s hrow)
    have hafter : Ordered (onePass now retention s).2 := Ordered.visits now retention h s.pending {}
    have hagain := run_ok now retention hafter hread' hsize
    rw [onePass_again] at hagain
    exact ⟨_, _, run_ok now retention h hread hsize, rfl, htotal.trans (Nat.zero_add _), hnotes,
      hbrought, fun row hrow t ht => visits_take now retention (x := ({}, s)) hrow ht, hagain⟩
  · rintro ⟨row, hrow, hunreadable⟩
    cases hrun : run now retention size false s with
    | mk r s' =>
      cases r with
      | error e => exact ⟨e, rfl⟩
      | ok report => exact absurd ((onePass_of_ok h hrun).1 row hrow) hunreadable

def mixed : Store where
  vault := ⟨Block.fill 32 9⟩
  pending :=
    [⟨2, List.replicate 32 1, [7], "A", 0⟩, ⟨3, List.replicate 32 2, [8], "B", 100⟩,
      ⟨5, List.replicate 32 1, [9], "C", 4000⟩, ⟨6, List.replicate 32 3, [10], "D", 4000⟩]
  lastId := 6
  txns := [⟨0, List.replicate 32 1, "A", 0, 5, 0, none⟩]

theorem sweep_visits_once_mixed :
    run 5000 3600 2 false mixed =
        (.ok ⟨2, 1, 1⟩, { mixed with
          notes := [⟨0, List.replicate 32 1, "A", [7]⟩]
          pending := [⟨6, List.replicate 32 3, [10], "D", 4000⟩] }) ∧
      ∃ report s', run 5000 3600 2 false mixed = (.ok report, s') ∧
        onePass 5000 3600 mixed = (report, s') ∧
        report.promoted + report.discarded + report.retained = mixed.pending.length ∧
        mixed.notes.Sublist s'.notes ∧ (∀ n ∈ s'.notes, n ∈ mixed.notes ∨ Brought mixed n) ∧
        (∀ row ∈ mixed.pending, ∀ t, mixed.txns.find? (·.commitment = row.commitment) = some t →
          ∃ n ∈ s'.notes, n.leaf = t.leaf) ∧
        run 5000 3600 2 false s' = (.ok { retained := s'.pending.length }, s') := by
  have hordered : Ordered mixed := by
    refine ⟨by decide, by decide, fun t ht => ⟨0, ?_⟩⟩
    rw [List.mem_singleton.mp ht]
    rfl
  have hread : ∀ row ∈ mixed.pending, row.commitment.length = 32 := by decide
  exact ⟨by decide, (sweep_visits_once 5000 3600 hordered (by decide)).1 hread⟩

end ShieldedPool.Sweep
