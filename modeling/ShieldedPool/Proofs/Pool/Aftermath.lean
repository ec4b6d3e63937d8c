import ShieldedPool.Proofs.Pool.Requests

namespace ShieldedPool.Pool

open ShieldedPool.Flow (Asked Submission)
open Ledger (Confirmation Outcome SignedTransaction encodeGroup)
open Ledger.Confirmation (Confirms)
open Store (PendingRow NoteRow Registers Saves)

variable {α σ : Type}

/-- What the life of a submitted note makes of a database: `row` is what was registered, `s'`
the state at the submission. -/
inductive Aftermath (s : Store) (s' : State) (note : Note) (row : PendingRow) :
    Except Outcome Confirmation → Store → Prop where
  | timedOut (o : Outcome) (ho : o.isWaitTimeout = true) :
    Aftermath s s' note row (.error o) (s.enrol row)
  | failed (o : Outcome) (ho : o.isWaitTimeout = false) :
    Aftermath s s' note row (.error o) (s.renumber row.id)
  | unsaved (confirmed : Confirmation) (e : StoreError)
    (he : (s'.saveNote { note with leafIndex := confirmed.leafIndex }).1 = .error e) :
    Aftermath s s' note row (.ok confirmed) (s.enrol row)
  | saved (confirmed : Confirmation) (saved : NoteRow) (after : Store)
    (hok : (s'.saveNote { note with leafIndex := confirmed.leafIndex }).1 = .ok ())
    (hsaves : Saves s { note with leafIndex := confirmed.leafIndex } saved)
    (hnotes : after.notes.Perm (saved :: s.notes))
    (hafter : after = (s.renumber row.id).record saved) :
    Aftermath s s' note row (.ok confirmed) after

theorem Aftermath.error {s : Store} {s' : State} {note : Note} {row : PendingRow} {o : Outcome}
    {after : Store} (h : Aftermath s s' note row (.error o) after) :
    after = if o.isWaitTimeout then s.enrol row else s.renumber row.id := by
  cases h with
  | timedOut _ ho => rw [ho, if_pos rfl]
  | failed _ ho => rw [ho, if_neg Bool.false_ne_true]

/-- A run with one submission, made while the note is registered as `row`; afterwards the
database differs by that note only. -/
structure Settles (client : Ledger.Client σ) (rounds : UInt64) (p : Action α) (s : State) (l : σ)
    (note : Note) (watch : String) (group : List SignedTransaction) (row : PendingRow)
    (sub : Submission State σ) (outcome : Except Outcome Confirmation) : Prop where
  once : p.submissions client s l = [sub]
  encoded : sub.group = encodeGroup group
  registers : Registers s.store note row
  registered : sub.state.store = s.store.enrol row
  ended : outcome =
    ((Confirmation.send group watch rounds).run client sub.state sub.ledger).1
  aftermath : Aftermath s.store sub.state note row outcome (p.run client s l).2.1.store
  leaf : ∀ confirmed, outcome = .ok confirmed →
    confirmed.txnId = watch ∧ ∃ e ∈ p.asked client s l, Confirms confirmed e
  result : Tells outcome (p.run client s l).1

theorem settled_timedOut (note : Note) (id : Int) {o : Outcome} (s : State)
    (ho : o.isWaitTimeout = true) : settled note id (.error o) s = s := by
  simp [settled, released, shouldDelete, ho]

theorem settled_failed (note : Note) (id : Int) {o : Outcome} (s : State)
    (ho : o.isWaitTimeout = false) :
    (settled note id (.error o) s).store = s.store.deleteUnconfirmed id := by
  simp [settled, released, shouldDelete, ho, State.deleteUnconfirmed]

theorem settled_unsaved {note : Note} {confirmed : Confirmation} {e : StoreError}
    {s s' : State} (id : Int)
    (h : s.saveNote { note with leafIndex := confirmed.leafIndex } = (.error e, s')) :
    settled note id (.ok confirmed) s = s' := by
  rw [settled, h]
  rfl

theorem settled_saved {note : Note} {confirmed : Confirmation} {s s' : State} (id : Int)
    (h : s.saveNote { note with leafIndex := confirmed.leafIndex } = (.ok (), s')) :
    (settled note id (.ok confirmed) s).store = s'.store.deleteUnconfirmed id := by
  rw [settled, h]
  rfl

theorem saveNote_store {n : Note} {s : State} {r : Except StoreError Unit} {s' : State}
    (h : s.saveNote n = (r, s')) :
    ∃ source, s.store.saveNote n s.source = (r, s'.store, source) := by
  cases hsave : s.store.saveNote n s.source with
  | mk r' rest =>
    unfold State.saveNote at h
    rw [hsave] at h
    cases h
    exact ⟨_, rfl⟩

theorem settled_aftermath {s : Store} {s' : State} {note : Note} {row : PendingRow}
    (hr : Registers s note row) (hs : s'.store = s.enrol row)
    (outcome : Except Outcome Confirmation) :
    Aftermath s s' note row outcome (settled note row.id outcome s').store := by
  cases outcome with
  | error o =>
    cases ho : o.isWaitTimeout with
    | true =>
      rw [settled_timedOut note row.id s' ho, hs]
      exact .timedOut o ho
    | false =>
      rw [settled_failed note row.id s' ho, hs, hr.deleteUnconfirmed_enrol]
      exact .failed o ho
  | ok confirmed =>
    cases hsave : s'.saveNote { note with leafIndex := confirmed.leafIndex } with
    | mk r final =>
      obtain ⟨source, hstore⟩ := saveNote_store hsave
      have hfirst := congrArg Prod.fst hsave
      cases r with
      | error e =>
        rw [settled_unsaved row.id hsave, Store.saveNote_error hstore, hs]
        exact .unsaved confirmed e hfirst
      | ok =>
        obtain ⟨saved, hsaves, heq⟩ := Store.saveNote_ok hstore
        rw [hs] at hsaves
        rw [settled_saved row.id hsave, heq, hs, hr.deleteUnconfirmed_record]
        refine .saved confirmed saved _ hfirst
          ⟨hsaves.free, hsaves.leaf, hsaves.commitment, hsaves.txnId, hsaves.nullifier⟩ ?_ rfl
        exact List.perm_orderedInsert _ saved s.notes

section Submits

variable {client : Ledger.Client σ} {rounds : UInt64} {p : Action α} {s s' : State} {l l' : σ}
  {note : Note} {watch : String} {group : List SignedTransaction} {row : PendingRow}

def submissionOf (client : Ledger.Client σ) (group : List SignedTransaction) (s' : State)
    (l' : σ) : Submission State σ :=
  ⟨encodeGroup group, (client.answer (.submit (encodeGroup group)) l').1, s', l'⟩

theorem submissions_of_enquires {es : List (Asked State σ)} (h : ∀ e ∈ es, Enquires _ e.query) :
    es.filterMap Asked.submission? = [] :=
  List.filterMap_eq_nil_iff.mpr fun e he => Flow.submission?_eq_none (isSubmit_of_enquires (h e he))

theorem Refuses.submissions (h : Refuses client p s l) : p.submissions client s l = [] :=
  submissions_of_enquires h.asked

theorem Submits.submissions (h : Submits client rounds p s l note watch group row s' l') :
    p.submissions client s l = [submissionOf client group s' l'] := by
  obtain ⟨before, rest, hasked, hall⟩ := h.asked
  obtain ⟨waits, hsend, hwaits⟩ := Confirmation.send_asked client watch group rounds s' l'
  have hbefore := submissions_of_enquires fun e he => hall e (List.mem_append_left rest he)
  have hrest := submissions_of_enquires fun e he => hall e (List.mem_append_right before he)
  have hwaiting : waits.filterMap Asked.submission? = [] :=
    List.filterMap_eq_nil_iff.mpr fun e he =>
      Flow.submission?_eq_none (Confirmation.isSubmit_of_watches watch (hwaits e he))
  rw [Flow.submissions, hasked, List.filterMap_append, List.filterMap_append, hbefore, hrest,
    hsend, List.filterMap_cons, hwaiting]
  rfl

theorem Refuses.not_submits (h : Refuses client p s l) :
    ¬ Submits client rounds p s l note watch group row s' l' := by
  intro hsubmits
  have hnone := h.submissions
  rw [hsubmits.submissions] at hnone
  cases hnone

theorem Submits.settles (h : Submits client rounds p s l note watch group row s' l') :
    Settles client rounds p s l note watch group row (submissionOf client group s' l')
      ((Confirmation.send group watch rounds).run client s' l').1 := by
  refine ⟨h.submissions, rfl, h.registers, h.store, rfl, ?_, ?_, h.result⟩
  · rw [h.final]
    exact settled_aftermath h.registers h.store _
  · intro confirmed hc
    obtain ⟨ht, e, he, hconf⟩ := Confirmation.send_confirmed client hc
    obtain ⟨before, rest, hasked, -⟩ := h.asked
    refine ⟨ht, e, ?_, hconf⟩
    rw [hasked]
    exact List.mem_append_left _ (List.mem_append_right _ he)

end Submits

end ShieldedPool.Pool
