import Mathlib.Data.List.Sort
import ShieldedPool.Proofs.Result
import ShieldedPool.Proofs.Vault.Opening
import ShieldedPool.Store.Basic

namespace ShieldedPool.Store

def Seals (key : Vault.PublicKey) (n : Note) (blob : Bytes) : Prop :=
  ∃ ephemeral nonce, blob = Vault.sealWith key ephemeral nonce n.nullifier.bytes

def Opens (key : Vault.PublicKey) (n : Note) (blob : Bytes) : Prop :=
  ∃ ephemeral nonce, blob = Vault.sealWith key ephemeral nonce n.nullifier.bytes ∧
    ∀ secret, Vault.Agree secret key ephemeral → Vault.decrypt secret blob = .ok n.nullifier.bytes

theorem Seals.opens {key : Vault.PublicKey} {n : Note} {blob : Bytes} (h : Seals key n blob) :
    Opens key n blob := by
  obtain ⟨ephemeral, nonce, rfl⟩ := h
  exact ⟨ephemeral, nonce, rfl, fun _ hagree => Vault.decrypt_sealWith hagree nonce _⟩

structure Registers (s : Store) (n : Note) (row : PendingRow) : Prop where
  fresh : ∀ other ∈ s.pending, other.id < row.id
  commitment : row.commitment = n.commitment.bytes
  txnId : n.txnId = some row.txnId
  nullifier : Seals s.vault n row.nullifier

structure Saves (s : Store) (n : Note) (row : NoteRow) : Prop where
  free : ∀ other ∈ s.notes, other.leaf ≠ row.leaf
  leaf : row.leaf = signed n.leafIndex
  commitment : row.commitment = n.commitment.bytes
  txnId : n.txnId = some row.txnId
  nullifier : Seals s.vault n row.nullifier

theorem not_any_iff {α β : Type} [DecidableEq β] {column : α → β} {rows : List α} {key : β} :
    ¬ rows.any (column · = key) = true ↔ ∀ row ∈ rows, column row ≠ key := by
  simp

theorem signed_ne {a b : UInt64} (h : a ≠ b) : signed a ≠ signed b := by
  intro heq
  rw [← unsigned_signed a, heq, unsigned_signed] at h
  exact h rfl

def enrol (row : PendingRow) (s : Store) : Store :=
  { s with pending := s.pending ++ [row], lastId := row.id }

theorem insertBy_eq {α : Type} (key : α → Int) (row : α) (rows : List α) :
    insertBy key row rows = rows.orderedInsert (key · ≤ key ·) row := by
  simp only [insertBy, List.orderedInsert_eq_take_drop, Int.not_le]

def record (row : NoteRow) (s : Store) : Store :=
  { s with notes := s.notes.orderedInsert (·.leaf ≤ ·.leaf) row }

def renumber (id : Int) (s : Store) : Store := { s with lastId := id }

theorem addNote_of {s : Store} {row : NoteRow} (h : ∀ other ∈ s.notes, other.leaf ≠ row.leaf) :
    s.addNote row = (.ok (), s.record row) := by
  unfold addNote
  rw [if_neg (not_any_iff.mpr h), insertBy_eq]
  rfl

theorem le_foldl_max (rows : List PendingRow) (start : Int) :
    start ≤ rows.foldl (fun id row => max id row.id) start := by
  induction rows generalizing start with
  | nil => exact Int.le_refl start
  | cons row rows ih => exact Int.le_trans (Int.le_max_left start row.id) (ih _)

theorem id_le_foldl_max {rows : List PendingRow} {row : PendingRow} (h : row ∈ rows)
    (start : Int) : row.id ≤ rows.foldl (fun id row => max id row.id) start := by
  induction rows generalizing start with
  | nil => cases h
  | cons other rows ih =>
    rcases List.mem_cons.mp h with rfl | h
    · exact Int.le_trans (Int.le_max_right start row.id) (le_foldl_max rows _)
    · exact ih h _

theorem id_lt_nextId {s : Store} {row : PendingRow} (h : row ∈ s.pending) :
    row.id < s.nextId := by
  have := id_le_foldl_max h s.lastId
  unfold nextId
  omega

theorem lastId_lt_nextId (s : Store) : s.lastId < s.nextId := by
  have := le_foldl_max s.pending s.lastId
  unfold nextId
  omega

theorem sealNullifier_ok {s : Store} {n : Note} {source source' : Random.Source} {blob : Bytes}
    (h : s.sealNullifier n source = (.ok blob, source')) : Seals s.vault n blob := by
  unfold sealNullifier at h
  split at h
  · cases h
  · rename_i hencrypt
    cases h
    exact Vault.encrypt_eq_ok hencrypt

theorem registerUnconfirmed_cases (n : Note) (now : UInt64) (s : Store) (source : Random.Source) :
    (∃ e source', s.registerUnconfirmed n now source = (.error e, s, source')) ∨
      ∃ row source', Registers s n row ∧ row.id = s.nextId ∧
        s.registerUnconfirmed n now source = (.ok row.id, s.enrol row, source') := by
  unfold registerUnconfirmed
  cases ht : n.txnId with
  | none => exact .inl ⟨_, _, rfl⟩
  | some txnId =>
    dsimp only
    cases hb : s.sealNullifier n source with
    | mk blob? source' =>
      cases blob? with
      | error e => exact .inl ⟨_, _, rfl⟩
      | ok blob =>
        dsimp only
        unfold addPending
        dsimp only
        split
        · exact .inl ⟨_, _, rfl⟩
        · exact .inr ⟨⟨s.nextId, n.commitment.bytes, blob, txnId, signed now⟩, source',
            ⟨fun other ho => id_lt_nextId ho, rfl, ht, sealNullifier_ok hb⟩, rfl, rfl⟩

section Registering

variable {s s' : Store} {n : Note} {now : UInt64} {source source' : Random.Source}

theorem registerUnconfirmed_ok {id : Int}
    (h : s.registerUnconfirmed n now source = (.ok id, s', source')) :
    ∃ row, row.id = id ∧ Registers s n row ∧ s' = s.enrol row := by
  rcases registerUnconfirmed_cases n now s source with
    ⟨e, source₁, hr⟩ | ⟨row, source₁, hregisters, -, hr⟩
  · rw [h] at hr
    cases hr
  · rw [h] at hr
    cases hr
    exact ⟨row, rfl, hregisters, rfl⟩

theorem registerUnconfirmed_error {e : StoreError}
    (h : s.registerUnconfirmed n now source = (.error e, s', source')) : s' = s := by
  rcases registerUnconfirmed_cases n now s source with ⟨e, source₁, hr⟩ | ⟨row, source₁, -, -, hr⟩
  · rw [h] at hr
    cases hr
    rfl
  · rw [h] at hr
    cases hr

end Registering

theorem sealNullifier_of (s : Store) (n : Note) {source : Random.Source}
    (h : ∀ i, source.fails i = false) :
    ∃ blob source', s.sealNullifier n source = (.ok blob, source') := by
  obtain ⟨blob, source', hencrypt⟩ := Vault.encrypt_of s.vault n.nullifier.bytes h
  refine ⟨blob, source', ?_⟩
  unfold sealNullifier
  rw [hencrypt]

theorem draw_fails (source : Random.Source) (n : Nat) :
    (source.draw n).2.fails = source.fails := by
  unfold Random.Source.draw
  split <;> rfl

theorem sealNullifier_fails (s : Store) (n : Note) (source : Random.Source) :
    (s.sealNullifier n source).2.fails = source.fails := by
  have hephemeral := draw_fails source 32
  have hnonce := draw_fails (source.draw 32).2 24
  unfold sealNullifier Vault.encrypt
  grind

theorem registerUnconfirmed_fails (s : Store) (n : Note) (now : UInt64) (source : Random.Source) :
    (s.registerUnconfirmed n now source).2.2.fails = source.fails := by
  have hseal := sealNullifier_fails s n source
  unfold registerUnconfirmed
  grind

theorem registerUnconfirmed_of {s : Store} {n : Note} {txnId : String} (now : UInt64)
    {source : Random.Source} (ht : n.txnId = some txnId) (hroom : s.nextId < signedLimit)
    (hsource : ∀ i, source.fails i = false) :
    ∃ s' source', s.registerUnconfirmed n now source = (.ok s.nextId, s', source') := by
  obtain ⟨blob, source', hseal⟩ := sealNullifier_of s n hsource
  unfold registerUnconfirmed
  rw [ht]
  dsimp only
  rw [hseal]
  dsimp only
  unfold addPending
  rw [if_neg (Int.not_le.mpr hroom)]
  exact ⟨_, _, rfl⟩

theorem position_eq_some {n : Note} {leaf : UInt64} (h : n.position = some leaf) :
    leaf = n.leafIndex := by
  unfold Note.position at h
  split at h
  · cases h
  · cases h; rfl

theorem saveNote_cases (n : Note) (s : Store) (source : Random.Source) :
    (∃ e source', s.saveNote n source = (.error e, s, source')) ∨
      ∃ row source', Saves s n row ∧ s.saveNote n source = (.ok (), s.record row, source') := by
  unfold saveNote
  split
  case h_2 => exact .inl ⟨_, _, rfl⟩
  case h_1 leaf txnId hp ht =>
    cases hb : s.sealNullifier n source with
    | mk blob? source' =>
      cases blob? with
      | error e => exact .inl ⟨_, _, rfl⟩
      | ok blob =>
        dsimp only
        by_cases hfree : ∀ other ∈ s.notes, other.leaf ≠ signed leaf
        case pos =>
          refine .inr ⟨⟨signed leaf, n.commitment.bytes, txnId, blob⟩, source',
            ⟨hfree, ?_, rfl, ht, sealNullifier_ok hb⟩, ?_⟩
          · rw [position_eq_some hp]
          · rw [addNote_of hfree]
        case neg =>
          unfold addNote
          rw [if_pos (Classical.not_not.mp (mt not_any_iff.mp hfree))]
          exact .inl ⟨_, _, rfl⟩

section Saving

variable {s s' : Store} {n : Note} {source source' : Random.Source}

theorem saveNote_ok (h : s.saveNote n source = (.ok (), s', source')) :
    ∃ row, Saves s n row ∧ s' = s.record row := by
  rcases saveNote_cases n s source with ⟨e, source₁, hr⟩ | ⟨row, source₁, hsaves, hr⟩
  · rw [h] at hr
    cases hr
  · rw [h] at hr
    cases hr
    exact ⟨row, hsaves, rfl⟩

theorem saveNote_error {e : StoreError} (h : s.saveNote n source = (.error e, s', source')) :
    s' = s := by
  rcases saveNote_cases n s source with ⟨e, source₁, hr⟩ | ⟨row, source₁, -, hr⟩
  · rw [h] at hr
    cases hr
    rfl
  · rw [h] at hr
    cases hr

end Saving

theorem saveNote_of {s : Store} {n : Note} {leaf : UInt64} {txnId : String} {source : Random.Source}
    (hp : n.position = some leaf) (ht : n.txnId = some txnId)
    (hfree : ∀ other ∈ s.notes, other.leaf ≠ signed leaf) (hsource : ∀ i, source.fails i = false) :
    ∃ s' source', s.saveNote n source = (.ok (), s', source') := by
  obtain ⟨blob, source', hseal⟩ := sealNullifier_of s n hsource
  unfold saveNote
  rw [hp, ht]
  dsimp only
  rw [hseal]
  dsimp only
  rw [addNote_of hfree]
  exact ⟨_, _, rfl⟩

theorem saveNote_fails (s : Store) (n : Note) (source : Random.Source) :
    (s.saveNote n source).2.2.fails = source.fails := by
  have hseal := sealNullifier_fails s n source
  unfold saveNote
  grind

variable {s : Store} {n : Note} {row : PendingRow}

theorem Registers.filter_eq (h : Registers s n row) :
    (s.pending ++ [row]).filter (·.id ≠ row.id) = s.pending := by
  rw [List.filter_append, List.filter_eq_self.mpr, List.filter_eq_nil_iff.mpr, List.append_nil]
  · intro other ho
    simp [List.mem_singleton.mp ho]
  · intro other ho
    have := h.fresh other ho
    exact decide_eq_true (by omega)

theorem Registers.deleteUnconfirmed_enrol (h : Registers s n row) :
    (s.enrol row).deleteUnconfirmed row.id = s.renumber row.id := by
  simp only [enrol, deleteUnconfirmed, renumber, h.filter_eq]

theorem Registers.deleteUnconfirmed_record (h : Registers s n row) (saved : NoteRow) :
    ((s.enrol row).record saved).deleteUnconfirmed row.id = (s.renumber row.id).record saved := by
  simp only [enrol, record, deleteUnconfirmed, renumber, h.filter_eq]

theorem toWord_bytes (w : Word) : toWord w.bytes = .ok w := by
  have h : Block.ofBytes? 32 w.bytes = some w := Block.ofBytes?_eq_some_iff.mpr rfl
  simp only [toWord, h]

theorem toWord_eq_ok {bs : Bytes} {c : Word} : toWord bs = .ok c ↔ bs = c.bytes := by
  constructor
  · intro h
    unfold toWord at h
    split at h
    · cases h
    case h_2 hbytes =>
      cases h
      exact Block.ofBytes?_eq_some_iff.mp hbytes
  · rintro rfl
    exact toWord_bytes c

theorem commitments_eq_ok {s : Store} {ws : List Word} :
    s.commitments = .ok ws ↔ List.Forall₂ (fun row c => row.commitment = c.bytes) s.txns ws := by
  simp only [commitments, mapM_eq_ok_iff, toWord_eq_ok]

theorem mem_enrol (s : Store) (row : PendingRow) : row ∈ (s.enrol row).pending :=
  List.mem_append_right s.pending (List.mem_singleton.mpr rfl)

end ShieldedPool.Store
