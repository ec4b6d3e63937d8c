import ShieldedPool.Proofs.Store.Promotion

namespace ShieldedPool.Store

inductive Operation where
  | register (n : Note) (now : UInt64) (source : Random.Source)
  | save (n : Note) (source : Random.Source)
  | delete (id : Int)
  | promote (r : UnconfirmedRecord) (leafIndex : UInt64)
  | deleteBatch (ids : List Int)
  | record (t : TxnRecord)
  | setRoot (root : Word) (leafCount : UInt64)

namespace Operation

def apply : Operation → Store → Store
  | .register n now source, s => (s.registerUnconfirmed n now source).2.1
  | .save n source, s => (s.saveNote n source).2.1
  | .delete id, s => s.deleteUnconfirmed id
  | .promote r leafIndex, s => s.promote r leafIndex
  | .deleteBatch ids, s => (s.deleteUnconfirmedBatch ids).2
  | .record t, s => (s.recordTxn t).2
  | .setRoot root leafCount, s => s.setRoot root leafCount

def given : Operation → Store → Option Int
  | .register n now source, s => (s.registerUnconfirmed n now source).1.toOption
  | _, _ => none

end Operation

def after : List Operation → Store → Store
  | [], s => s
  | op :: ops, s => after ops (op.apply s)

def numbers : List Operation → Store → List Int
  | [], _ => []
  | op :: ops, s => (op.given s).toList ++ numbers ops (op.apply s)

inductive Operates (op : Operation) (s : Store) : Prop
  | registers (n : Note) (now : UInt64) (source : Random.Source) (row : PendingRow)
    (hop : op = .register n now source) (hrow : Registers s n row) (hid : s.lastId < row.id)
    (hgiven : op.given s = some row.id) (h : op.apply s = s.enrol row)
  | quiet (hgiven : op.given s = none) (hid : (op.apply s).lastId = s.lastId)
    (hrows : (op.apply s).pending ⊆ s.pending)

theorem operates (op : Operation) (s : Store) : Operates op s := by
  cases op with
  | register n now source =>
    rcases registerUnconfirmed_cases n now s source with
      ⟨e, source', hr⟩ | ⟨row, source', hregisters, hid, hr⟩
    · refine .quiet ?_ ?_ ?_ <;> simp [Operation.given, Operation.apply, hr, Except.toOption]
    · have hlast : s.lastId < row.id := by
        rw [hid]
        exact lastId_lt_nextId s
      refine .registers n now source row rfl hregisters hlast ?_ ?_ <;>
        simp [Operation.given, Operation.apply, hr, Except.toOption]
  | save n source =>
    rcases saveNote_cases n s source with ⟨e, source', hr⟩ | ⟨row, source', -, hr⟩ <;>
      refine .quiet rfl ?_ ?_ <;> simp [Operation.apply, hr, Store.record]
  | delete id => exact .quiet rfl rfl List.filter_sublist.subset
  | promote r leafIndex =>
    refine .quiet rfl ?_ ?_
    · simp [Operation.apply, promote_eq]
    · rw [Operation.apply, promote_eq]
      exact List.filter_sublist.subset
  | deleteBatch ids =>
    refine .quiet rfl ?_ ?_
    · simp only [Operation.apply, deleteUnconfirmedBatch]
      split <;> rfl
    · simp only [Operation.apply, deleteUnconfirmedBatch]
      split
      · exact List.Subset.refl _
      · exact List.filter_sublist.subset
  | record t =>
    rcases recordTxn_cases t s with ⟨e, hr⟩ | ⟨-, hr⟩ <;>
      refine .quiet rfl ?_ ?_ <;> simp [Operation.apply, hr, post]
  | setRoot root leafCount => exact .quiet rfl rfl (List.Subset.refl _)

theorem after_append (before ops : List Operation) (s : Store) :
    after (before ++ ops) s = after ops (after before s) := by
  induction before generalizing s with
  | nil => rfl
  | cons op before ih => exact ih _

section Runs

variable {s : Store} {op : Operation} {id : Int} {row : PendingRow}

theorem lastId_le_apply (op : Operation) (s : Store) : s.lastId ≤ (op.apply s).lastId := by
  cases operates op s with
  | registers n now source row _ _ hid _ h =>
    rw [h]
    exact Int.le_of_lt hid
  | quiet _ hid _ => exact Int.le_of_eq hid.symm

theorem given_eq_some (h : op.given s = some id) :
    ∃ n now source row, op = .register n now source ∧ row.id = id ∧ Registers s n row ∧
      s.lastId < id ∧ op.apply s = s.enrol row := by
  cases operates op s with
  | registers n now source row hop hrow hid hgiven happly =>
    rw [hgiven] at h
    cases h
    exact ⟨n, now, source, row, hop, rfl, hrow, hid, happly⟩
  | quiet hgiven =>
    rw [hgiven] at h
    cases h

theorem lastId_lt_numbers (ops : List Operation) (s : Store) :
    ∀ id ∈ numbers ops s, s.lastId < id := by
  induction ops generalizing s with
  | nil => simp [numbers]
  | cons op ops ih =>
    intro id hid
    rcases List.mem_append.mp hid with hid | hid
    · obtain ⟨n, now, source, row, -, -, -, hlt, -⟩ := given_eq_some (Option.mem_toList.mp hid)
      exact hlt
    · exact Int.lt_of_le_of_lt (lastId_le_apply op s) (ih _ id hid)

theorem numbers_ascending (ops : List Operation) (s : Store) :
    (numbers ops s).Pairwise (· < ·) := by
  induction ops generalizing s with
  | nil => exact .nil
  | cons op ops ih =>
    refine List.pairwise_append.mpr ⟨?_, ih _, ?_⟩
    · cases op.given s <;> simp
    · intro id hid later hlater
      obtain ⟨n, now, source, row, -, rfl, -, -, happly⟩ := given_eq_some (Option.mem_toList.mp hid)
      have hlt := lastId_lt_numbers ops _ later hlater
      rwa [happly] at hlt

theorem mem_after {ops : List Operation} (h : row ∈ (after ops s).pending) :
    row ∈ s.pending ∨ s.lastId < row.id := by
  induction ops generalizing s with
  | nil => exact .inl h
  | cons op ops ih =>
    have hle := lastId_le_apply op s
    rcases ih h with hmem | hlt
    · cases operates op s with
      | registers n now source other _ _ hid _ happly =>
        rw [happly] at hmem
        rcases List.mem_append.mp hmem with hmem | hmem
        · exact .inl hmem
        · rw [List.mem_singleton.mp hmem]
          exact .inr hid
      | quiet _ _ hrows => exact .inl (hrows hmem)
    · exact .inr (Int.lt_of_le_of_lt hle hlt)

theorem eq_of_mem_after {n : Note} {other : PendingRow} (h : Registers s n row)
    {ops : List Operation} (hmem : other ∈ (after ops (s.enrol row)).pending)
    (hid : other.id = row.id) : other = row := by
  -- Rows from before have lower numbers, rows from later higher ones.
  rcases mem_after hmem with hmem | hlt
  · rcases List.mem_append.mp hmem with hmem | hmem
    · have := h.fresh other hmem
      omega
    · exact List.mem_singleton.mp hmem
  · have hlast : (s.enrol row).lastId = row.id := rfl
    omega

theorem deleteUnconfirmed_after {n : Note} (h : Registers s n row) (ops : List Operation) :
    (after ops (s.enrol row)).deleteUnconfirmed row.id =
      { after ops (s.enrol row) with
        pending := (after ops (s.enrol row)).pending.filter (· ≠ row) } := by
  unfold deleteUnconfirmed
  congr 1
  refine List.filter_congr fun other hmem => ?_
  by_cases heq : other = row
  · simp [heq]
  · have hid : other.id ≠ row.id := fun hid => heq (eq_of_mem_after h hmem hid)
    simp [heq, hid]

end Runs

end ShieldedPool.Store
