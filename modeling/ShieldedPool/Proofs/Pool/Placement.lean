import ShieldedPool.Proofs.Pool.Scene

namespace ShieldedPool

namespace Store

def held (leaf : UInt64) (s : Store) : List NoteRow := s.notes.filter (·.leaf = signed leaf)

def Gone (id : Int) (s : Store) : Prop := ∀ row ∈ s.pending, row.id ≠ id

def Placed (n : Note) (leaf : UInt64) (s : Store) : Prop :=
  ∃ row, held leaf s = [row] ∧ row.commitment = n.commitment.bytes ∧ Seals s.vault n row.nullifier

theorem filter_inserted {row : NoteRow} {leaf : Int} (h : row.leaf ≠ leaf)
    (rows : List NoteRow) :
    (rows.orderedInsert (·.leaf ≤ ·.leaf) row).filter (·.leaf = leaf) =
      rows.filter (·.leaf = leaf) := by
  rw [List.orderedInsert_eq_take_drop, List.filter_append,
    List.filter_cons_of_neg (by simpa using h), ← List.filter_append,
    List.takeWhile_append_dropWhile]

theorem filter_inserted_self {row : NoteRow} {leaf : Int} (hrow : row.leaf = leaf)
    {rows : List NoteRow} (h : rows.filter (·.leaf = leaf) = []) :
    (rows.orderedInsert (·.leaf ≤ ·.leaf) row).filter (·.leaf = leaf) = [row] := by
  have hperm := (List.perm_orderedInsert (·.leaf ≤ ·.leaf) row rows).filter (·.leaf = leaf)
  rw [List.filter_cons, if_pos (decide_eq_true hrow), h] at hperm
  exact List.perm_singleton.mp hperm

theorem filter_offer {row : NoteRow} {leaf : Int} (h : row.leaf ≠ leaf) (rows : List NoteRow) :
    (offer row rows).filter (·.leaf = leaf) = rows.filter (·.leaf = leaf) := by
  unfold offer
  split
  · rfl
  · exact filter_inserted h rows

theorem filter_offer_self {row : NoteRow} (leaf : Int) (hrow : row.leaf = leaf)
    {rows : List NoteRow} (h : rows.filter (·.leaf = leaf) = []) :
    (offer row rows).filter (·.leaf = leaf) = [row] := by
  have hfree : ∀ other ∈ rows, other.leaf ≠ row.leaf := by
    intro other ho heq
    exact List.filter_eq_nil_iff.mp h other ho (decide_eq_true (heq.trans hrow))
  rw [offer, if_neg (not_any_iff.mpr hfree)]
  exact filter_inserted_self hrow h

theorem offer_of_taken {row other : NoteRow} {rows : List NoteRow} (ho : other ∈ rows)
    (h : other.leaf = row.leaf) : offer row rows = rows := by
  rw [offer, if_pos (List.any_eq_true.mpr ⟨other, ho, decide_eq_true h⟩)]

end Store

namespace Pool

open Store (PendingRow NoteRow Registers Saves Seals Reads Placed Gone held signed)

variable {α : Type}

structure OfNote (key : Vault.PublicKey) (n : Note) (r : UnconfirmedRecord) : Prop where
  commitment : r.commitment = n.commitment
  nullifier : Seals key n r.nullifier

section Others

variable {n : Note} {leaf : UInt64} {id : Int} {own : Prop} {s s' : Store}

def Standing (own : Prop) (n : Note) (leaf : UInt64) (id : Int) (s : Store) : Prop :=
  held leaf s = [] ∨ Placed n leaf s ∧ (own → Gone id s)

theorem gone_of_subset (hgone : Gone id s) (h : s'.pending ⊆ s.pending) : Gone id s' :=
  fun row hrow => hgone row (h hrow)

theorem gone_promote (r : UnconfirmedRecord) (leaf : UInt64) (s : Store) :
    Gone r.id (s.promote r leaf) := by
  rw [Store.promote_eq]
  intro row hrow
  exact of_decide_eq_true (List.mem_filter.mp hrow).2

theorem gone_deleteUnconfirmed (id : Int) (s : Store) : Gone id (s.deleteUnconfirmed id) :=
  fun _ hrow => of_decide_eq_true (List.mem_filter.mp hrow).2

theorem held_promote {r : UnconfirmedRecord} {target : UInt64} (h : target ≠ leaf) (s : Store) :
    held leaf (s.promote r target) = held leaf s := by
  rw [Store.promote_eq]
  exact Store.filter_offer (Store.signed_ne h) s.notes

theorem placed_promote_of_free {r : UnconfirmedRecord} (h : OfNote s.vault n r)
    (hfree : held leaf s = []) : Placed n leaf (s.promote r leaf) := by
  rw [Store.promote_eq]
  refine ⟨⟨signed leaf, r.commitment.bytes, r.txnId, r.nullifier⟩, ?_, ?_, h.nullifier⟩
  · exact Store.filter_offer_self (signed leaf) rfl hfree
  · rw [h.commitment]

theorem placed_promote (h : Placed n leaf s) (r : UnconfirmedRecord) :
    Placed n leaf (s.promote r leaf) := by
  obtain ⟨x, hx, hc, hseals⟩ := h
  have hmem : x ∈ held leaf s := by rw [hx]; exact List.mem_singleton.mpr rfl
  obtain ⟨hin, hleaf⟩ := List.mem_filter.mp hmem
  rw [Store.promote_eq]
  refine ⟨x, ?_, hc, hseals⟩
  rw [held, Store.offer_of_taken hin (of_decide_eq_true hleaf)]
  exact hx

theorem held_eq_nil {row : NoteRow} (h : Saves s n row) :
    held n.leafIndex s = [] := by
  refine List.filter_eq_nil_iff.mpr fun other ho heq => h.free other ho ?_
  rw [h.leaf]
  exact of_decide_eq_true heq

theorem placed_record {row : NoteRow} (h : Saves s n row) :
    Placed n n.leafIndex (s.record row) := by
  refine ⟨row, ?_, h.commitment, h.nullifier⟩
  exact Store.filter_inserted_self h.leaf (held_eq_nil h)

structure Steady (P : UnconfirmedRecord → Prop) (n : Note) (leaf : UInt64) (s s' : Store) :
    Prop where
  placed : Placed n leaf s → Placed n leaf s'
  free : held leaf s = [] → held leaf s' = [] ∨ Placed n leaf s' ∧ ∃ r, P r ∧ Gone r.id s'

theorem Steady.of_held {P : UnconfirmedRecord → Prop} (hheld : held leaf s' = held leaf s)
    (hvault : s'.vault = s.vault) : Steady P n leaf s s' where
  placed h := by
    obtain ⟨row, hrow, hc, hseals⟩ := h
    exact ⟨row, hheld.trans hrow, hc, by rwa [hvault]⟩
  free h := .inl (hheld.trans h)

theorem Tended.steady {P : PendingRow → Prop} {v : Scene α} {turn : Turn} (hv : Tended P v)
    (hother : ¬ turn.IsRequest)
    (hnote : ∀ r row, P row → Reads row r → Promotes v turn r leaf →
      OfNote v.state.store.vault n r) :
    Steady (fun r => (∃ row, P row ∧ Reads row r) ∧ Promotes v turn r leaf) n leaf v.state.store
      (v.next turn).state.store := by
  cases hv.affects hother with
  | keeps h => exact .of_held (by rw [held, h]; rfl) (hv.shrinks hother).vault
  | promotes r target row hrow hread hturn h =>
    by_cases htarget : target = leaf
    case neg => exact .of_held (by rw [h, held_promote htarget]) (hv.shrinks hother).vault
    case pos =>
      subst htarget
      rw [h]
      refine ⟨fun hplaced => placed_promote hplaced r, fun hfree => .inr ?_⟩
      have hplaced := placed_promote_of_free (hnote r row hrow hread hturn) hfree
      exact ⟨hplaced, r, ⟨⟨row, hrow, hread⟩, hturn⟩, gone_promote r target _⟩

end Others

end Pool

end ShieldedPool
