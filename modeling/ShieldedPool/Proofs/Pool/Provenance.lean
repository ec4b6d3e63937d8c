import ShieldedPool.Proofs.Pool.Scene
import ShieldedPool.Proofs.Store.Promotion
import ShieldedPool.Proofs.Vault.Opening

namespace ShieldedPool.Pool

open Store (PendingRow Opens)

inductive Change where
  | register (n : Note) (now : UInt64) (source : Random.Source)
  | save (n : Note) (source : Random.Source)
  | record (t : TxnRecord)
  | setRoot (root : Word) (leafCount : UInt64)
  | delete (id : Int)
  | begin (now retention size : UInt64) (allowed : Nat)
  | sweep (i : Nat)

namespace Change

def note? : Change → Option Note
  | .register n _ _ => some n
  | .save n _ => some n
  | _ => none

-- A sweep that fails or is cancelled takes no further steps.
def apply (v : Scene Unit) : Change → Scene Unit
  | .register n now source => v.withStore (v.state.store.registerUnconfirmed n now source).2.1
  | .save n source => v.withStore (v.state.store.saveNote n source).2.1
  | .record t => v.next (.record t)
  | .setRoot root leafCount => v.withStore (v.state.store.setRoot root leafCount)
  | .delete id => v.withStore (v.state.store.deleteUnconfirmed id)
  | .begin now retention size allowed => v.next (.begin now retention size allowed)
  | .sweep i => v.next (.sweep i)

end Change

def follow (changes : List Change) (v : Scene Unit) : Scene Unit := changes.foldl Change.apply v

def passed (changes : List Change) : List Note := changes.filterMap Change.note?

def fresh (vault : Vault.PublicKey) (state : State) : Scene Unit :=
  .start { state with store := { vault } } (.done (.ok ()))

structure Belongs (key : Vault.PublicKey) (n : Note) (commitment : Bytes) (txnId : String)
    (nullifier : Bytes) : Prop where
  commitment : commitment = n.commitment.bytes
  txnId : n.txnId = some txnId
  nullifier : Opens key n nullifier

def FromNotes (key : Vault.PublicKey) (ns : List Note) (commitment : Bytes) (txnId : String)
    (nullifier : Bytes) : Prop := ∃ n ∈ ns, Belongs key n commitment txnId nullifier

structure Traced (key : Vault.PublicKey) (ns : List Note) (v : Scene Unit) : Prop extends
    Tended (fun row => FromNotes key ns row.commitment row.txnId row.nullifier) v where
  vault : v.state.store.vault = key
  saved : ∀ row ∈ v.state.store.notes, FromNotes key ns row.commitment row.txnId row.nullifier

section Origins

variable {key : Vault.PublicKey} {ns : List Note} {v : Scene Unit} {changes : List Change}

theorem traced_fresh (key : Vault.PublicKey) (ns : List Note) (state : State) :
    Traced key ns (fresh key state) where
  rows := by simp [fresh, Scene.start]
  sweeps := by simp [fresh, Scene.start]
  vault := rfl
  saved := by simp [fresh, Scene.start]

theorem Traced.turn (h : Traced key ns v) (turn : Turn) (hturn : ¬ turn.IsRequest) :
    Traced key ns (v.next turn) := by
  refine ⟨h.toTended.next hturn, (h.toTended.shrinks hturn).vault.trans h.vault, ?_⟩
  cases h.toTended.affects hturn with
  | keeps hnotes => simpa only [hnotes] using h.saved
  | promotes r leaf row hrow hread _ hstore =>
    -- The promoted row has the columns of the row that the sweep read.
    intro saved hsaved
    simp only [hstore, Store.promote_eq] at hsaved
    rcases Store.mem_offer hsaved with hold | ⟨rfl, -⟩
    · exact h.saved saved hold
    · simpa only [hread.commitment, hread.txnId, hread.nullifier] using hrow

theorem Traced.register (h : Traced key ns v) {n : Note} (hn : n ∈ ns) (now : UInt64)
    (source : Random.Source) : Traced key ns (Change.apply v (.register n now source)) := by
  rcases Store.registerUnconfirmed_cases n now v.state.store source with
    ⟨e, source', hr⟩ | ⟨row, source', hregisters, -, hr⟩
  · simp only [Change.apply, hr]
    exact h
  · have hrow : Belongs key n row.commitment row.txnId row.nullifier :=
      ⟨hregisters.commitment, hregisters.txnId, h.vault ▸ hregisters.nullifier.opens⟩
    simp only [Change.apply, hr]
    refine ⟨⟨fun other hother => ?_, h.sweeps⟩, h.vault, h.saved⟩
    rcases List.mem_append.mp hother with hother | hother
    · exact h.rows other hother
    · rw [List.mem_singleton.mp hother]
      exact ⟨n, hn, hrow⟩

theorem Traced.save (h : Traced key ns v) {n : Note} (hn : n ∈ ns) (source : Random.Source) :
    Traced key ns (Change.apply v (.save n source)) := by
  rcases Store.saveNote_cases n v.state.store source with
    ⟨e, source', hr⟩ | ⟨row, source', hsaves, hr⟩
  · simp only [Change.apply, hr]
    exact h
  · have hrow : Belongs key n row.commitment row.txnId row.nullifier :=
      ⟨hsaves.commitment, hsaves.txnId, h.vault ▸ hsaves.nullifier.opens⟩
    simp only [Change.apply, hr]
    refine ⟨⟨h.rows, h.sweeps⟩, h.vault, fun other hother => ?_⟩
    simp only [Scene.withStore, Store.record, List.mem_orderedInsert] at hother
    rcases hother with rfl | hother
    · exact ⟨n, hn, hrow⟩
    · exact h.saved other hother

theorem Traced.apply (h : Traced key ns v) {change : Change}
    (hnote : ∀ n, change.note? = some n → n ∈ ns) : Traced key ns (change.apply v) := by
  cases change with
  | register n now source => exact h.register (hnote n rfl) now source
  | save n source => exact h.save (hnote n rfl) source
  | record t => exact h.turn (.record t) id
  | setRoot root leafCount => exact ⟨⟨h.rows, h.sweeps⟩, h.vault, h.saved⟩
  | delete id =>
    refine ⟨⟨fun row hrow => ?_, h.sweeps⟩, h.vault, h.saved⟩
    exact h.rows row (List.mem_filter.mp hrow).1
  | begin now retention size allowed => exact h.turn (.begin now retention size allowed) id
  | sweep i => exact h.turn (.sweep i) id

theorem Traced.follow (h : Traced key ns v) (hnotes : passed changes ⊆ ns) :
    Traced key ns (follow changes v) := by
  induction changes generalizing v with
  | nil => exact h
  | cons change changes ih =>
    have hparts : passed (change :: changes) = change.note?.toList ++ passed changes := by
      cases hnote : change.note? <;> simp [passed, hnote]
    obtain ⟨hfirst, hlater⟩ := List.append_subset.mp (hparts ▸ hnotes)
    apply ih (h.apply ?_) hlater
    intro n hn
    exact hfirst (Option.mem_toList.mpr hn)

theorem Tended.keeps_notes {P : PendingRow → Prop} (h : Tended P v) {turn : Turn}
    (hturn : ¬ turn.IsRequest) :
    v.state.store.notes.Sublist (v.next turn).state.store.notes := by
  cases h.affects hturn with
  | keeps hnotes => rw [hnotes]
  | promotes r leaf row _ _ _ hstore =>
    rw [hstore, Store.promote_eq]
    exact Store.sublist_offer _ _

theorem Traced.keeps_notes (h : Traced key ns v) (change : Change) :
    v.state.store.notes.Sublist (change.apply v).state.store.notes := by
  cases change with
  | register n now source =>
    rcases Store.registerUnconfirmed_cases n now v.state.store source with
      ⟨e, source', hr⟩ | ⟨row, source', -, -, hr⟩ <;> simp only [Change.apply, hr] <;> exact .refl _
  | save n source =>
    rcases Store.saveNote_cases n v.state.store source with ⟨e, source', hr⟩ | ⟨row, source', -, hr⟩
    · simp only [Change.apply, hr]
      exact .refl _
    · simpa only [Change.apply, hr, Scene.withStore, Store.record] using
        List.sublist_orderedInsert row v.state.store.notes
  | record t => exact h.toTended.keeps_notes id
  | setRoot root leafCount => exact .refl _
  | delete id => exact .refl _
  | begin now retention size allowed => exact h.toTended.keeps_notes id
  | sweep i => exact h.toTended.keeps_notes id

theorem follow_steps {i : Nat} {turns : List Turn} (h : ∀ turn ∈ turns, turn = .sweep i)
    (v : Scene Unit) : follow (turns.map fun _ => .sweep i) v = v.play turns := by
  induction turns generalizing v with
  | nil => rfl
  | cons turn turns ih =>
    obtain ⟨rfl, hturns⟩ := List.forall_mem_cons.mp h
    exact ih hturns (v.next (.sweep i))

theorem Traced.whole_sweep (h : Traced key ns v) (now retention size : UInt64) (allowed : Nat) :
    ∃ steps, passed steps = [] ∧ (Pool.follow steps v).state.store =
      ((Sweep.batches now retention size allowed 0 {}).run .offline v.state.store ()).2.1 := by
  have hbegun := h.turn (.begin now retention size allowed) id
  have hget : (v.next (.begin now retention size allowed)).sweeps[v.sweeps.length]? =
      some (Sweep.batches now retention size allowed 0 {}) := by
    simp [Scene.next]
  obtain ⟨turns, hturns, hplay⟩ :=
    sweep_alone (batches_works now retention size allowed 0 {}) hget hbegun.toTended
  refine ⟨.begin now retention size allowed :: turns.map fun _ => .sweep v.sweeps.length, ?_, ?_⟩
  · simp [passed, Change.note?]
  · change (Pool.follow _ (v.next (.begin now retention size allowed))).state.store = _
    rw [follow_steps hturns, hplay]
    rfl

end Origins

theorem rows_belong (vault : Vault.PublicKey) (state : State) (changes : List Change) :
    let v := follow changes (fresh vault state)
    (∀ row ∈ v.state.store.pending,
        FromNotes vault (passed changes) row.commitment row.txnId row.nullifier) ∧
      (∀ row ∈ v.state.store.notes,
        FromNotes vault (passed changes) row.commitment row.txnId row.nullifier) ∧
      (∀ change : Change, v.state.store.notes.Sublist (change.apply v).state.store.notes) ∧
      ∀ now retention size allowed, ∃ steps, passed steps = [] ∧
        (follow (changes ++ steps) (fresh vault state)).state.store =
          ((Sweep.batches now retention size allowed 0 {}).run .offline v.state.store ()).2.1 := by
  have h : Traced vault (passed changes) (follow changes (fresh vault state)) :=
    (traced_fresh vault _ state).follow (List.Subset.refl _)
  refine ⟨h.rows, h.saved, h.keeps_notes, fun now retention size allowed => ?_⟩
  obtain ⟨steps, hnone, hstore⟩ := h.whole_sweep now retention size allowed
  refine ⟨steps, hnone, ?_⟩
  rw [← hstore, follow, List.foldl_append]
  rfl

end ShieldedPool.Pool
