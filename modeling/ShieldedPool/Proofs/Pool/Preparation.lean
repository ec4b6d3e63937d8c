import ShieldedPool.Proofs.Note.Text
import ShieldedPool.Proofs.Pool.NoteLoss

namespace ShieldedPool

def PoolError.blamesNotes : PoolError → Bool
  | .validation _ | .invalidNote | .noteTooSmall _ | .build .zeroAmount => true
  | _ => false

namespace Pool

variable {σ τ : Type} {client : Ledger.Client σ} {c : Settings} {s : State} {l : σ}
  {w : Withdrawal} {e : PoolError}

def Clears (w : Withdrawal) (e : PoolError) : Prop :=
  e.blamesNotes = false ∧ (e = .build .missingLeafIndex → w.fromNote.position = none)

structure Passes (c : Settings) (form : WithdrawalForm) (store : Store) (w : Withdrawal) :
    Prop where
  positive : form.amount ≠ 0
  found : confirmedNote form.noteText store = .ok w.fromNote
  balanced : withdrawalOf c form w.fromNote = .ok w

theorem clears_verifiedRoot {store : Store} (h : verifiedRoot store = .error e) : Clears w e := by
  obtain ⟨cause, rfl⟩ | ⟨fault, rfl⟩ := verifiedRoot_error h
  · exact ⟨rfl, nofun⟩
  · exact ⟨rfl, nofun⟩

theorem clears_build {root : Word} {proof : Bytes} {params : Ledger.ChainParams}
    {fault : Ledger.BuildError} (hamount : w.amount.units ≠ 0)
    (h : c.builder.withdrawal w root proof params = .error fault) : Clears w (.build fault) := by
  obtain ⟨hzero, hmissing⟩ := Ledger.Builder.withdrawal_error h
  refine ⟨?_, fun heq => hmissing (PoolError.build.inj heq)⟩
  have hne : fault ≠ .zeroAmount := fun heq => hamount (hzero heq)
  cases fault <;> first | rfl | exact absurd rfl hne

def FailsOnly {α : Type} (kind : PoolError → Prop) (client : Ledger.Client σ) (p : Action α)
    (s : State) (l : σ) : Prop := ∀ e, (p.run client s l).1 = .error e → kind e

namespace FailsOnly

variable {α β : Type} {kind : PoolError → Prop}

theorem refuse {e : PoolError} (h : kind e) :
    FailsOnly kind client (.done (.error e) : Action α) s l := by
  intro e' he
  cases he
  exact h

theorem act {step : State → β × State} {next : β → Action α}
    (h : FailsOnly kind client (next (step s).1) (step s).2 l) :
    FailsOnly kind client (.act step next) s l := h

theorem ask {q : Ledger.Query β} {next : β → Action α}
    (h : FailsOnly kind client (next (client.answer q l).1) s (client.answer q l).2) :
    FailsOnly kind client (.ask q next) s l := h

theorem of_tells {p : Action α} {outcome : Except Ledger.Outcome Ledger.Confirmation}
    (h : Tells outcome (p.run client s l).1) (hkind : ∀ o max, kind (.confirmation o max)) :
    FailsOnly kind client p s l := by
  intro e he
  cases outcome with
  | error o =>
    obtain ⟨max, hr⟩ := h
    cases hr.symm.trans he
    exact hkind o max
  | ok confirmed =>
    obtain ⟨receipt, hr⟩ := h
    cases hr.symm.trans he

end FailsOnly

theorem Passes.clears {form : WithdrawalForm} (h : Passes c form s.store w) :
    FailsOnly (Clears w) client (confirmWithdrawal c form) s l := by
  have hamount : w.amount.units ≠ 0 := by
    obtain ⟨change, -, -, hw⟩ := withdrawalOf_ok h.balanced
    rw [hw]
    exact h.positive
  unfold confirmWithdrawal
  rw [if_neg h.positive]
  refine .act ?_
  dsimp only
  rw [h.found]
  dsimp only
  rw [h.balanced]
  refine .act ?_
  dsimp only
  cases hroot : verifiedRoot s.store with
  | error e => exact .refuse (clears_verifiedRoot hroot)
  | ok root =>
    refine .ask ?_
    cases (client.answer .params l).1 with
    | error e => exact .refuse ⟨rfl, nofun⟩
    | ok params =>
      dsimp only
      cases hgroup : c.builder.withdrawal w root form.proof params with
      | error fault => exact .refuse (clears_build hamount hgroup)
      | ok g =>
        refine .act ?_
        cases (s.register { w.changeNote with txnId := some g.watch }).1 with
        | error e => exact .refuse ⟨rfl, nofun⟩
        | ok id =>
          dsimp only
          rw [submitWithdrawal_eq]
          exact .of_tells (submission_result ..) fun _ _ => ⟨rfl, nofun⟩

theorem prepareWithdrawal_eq_ok_iff {amount : UInt64} {address : Address} {noteText : String} :
    ((prepareWithdrawal c amount address noteText).run client s l).1 = .ok w ↔
      amount ≠ 0 ∧ ∃ note, confirmedNote noteText s.store = .ok note ∧
        (Withdrawal.prepare amount address note c.feePolicy s.source).1 = .ok w := by
  change _ ↔ amount ≠ 0 ∧ ∃ note, confirmedNote noteText s.store = .ok note ∧
    (s.prepareWithdrawal amount address note c.feePolicy).1 = .ok w
  unfold prepareWithdrawal
  constructor
  · intro h
    split at h
    case isTrue => cases h
    case isFalse hpositive =>
      rw [Flow.run_act] at h
      dsimp only at h
      cases hfound : confirmedNote noteText s.store with
      | error e => rw [hfound] at h; cases h
      | ok note =>
        rw [hfound] at h
        dsimp only at h
        rw [Flow.run_act] at h
        refine ⟨hpositive, note, rfl, ?_⟩
        cases hprepared : (s.prepareWithdrawal amount address note c.feePolicy).1 with
        | error e => rw [hprepared] at h; cases h
        | ok w' => rw [hprepared] at h; cases h; rfl
  · rintro ⟨hpositive, note, hfound, hprepared⟩
    rw [if_neg hpositive, Flow.run_act]
    dsimp only
    rw [hfound]
    dsimp only
    rw [Flow.run_act, hprepared]
    rfl

theorem prepared_passes {amount : UInt64} {address : Address} {noteText : String}
    (h : ((prepareWithdrawal c amount address noteText).run client s l).1 = .ok w)
    (proof : Bytes) : Passes c ⟨amount, address, noteText, w.changeNote.text, proof⟩ s.store w := by
  obtain ⟨hpositive, note, hfound, hprepared⟩ := prepareWithdrawal_eq_ok_iff.mp h
  obtain ⟨rest, k, r, hchange, rfl⟩ := Withdrawal.prepare_ok hprepared
  exact ⟨hpositive, hfound,
    withdrawalOf_of (Note.parse_text _) (Withdrawal.change_eq_ok_iff.mp hchange)⟩

theorem withdrawal_accounts_agree (client : Ledger.Client σ) (client' : Ledger.Client τ)
    (c : Settings) (amount : UInt64) (address : Address) (fromNote : Note)
    {source : Random.Source} (hsource : source.ServesNote) :
    ((∃ w, (Withdrawal.prepare amount address fromNote c.feePolicy source).1 = .ok w) ↔
        amount.toNat + (c.feePolicy.fee amount).toNat ≤ fromNote.amount.toNat) ∧
      (∀ w, (Withdrawal.prepare amount address fromNote c.feePolicy source).1 = .ok w →
        amount.toNat + (c.feePolicy.fee amount).toNat + w.changeNote.amount.toNat =
          fromNote.amount.toNat) ∧
      (∀ change, (∃ w, Withdrawal.withChange amount address fromNote change c.feePolicy = .ok w) ↔
        amount.toNat + (c.feePolicy.fee amount).toNat + change.amount.toNat =
          fromNote.amount.toNat) ∧
      (∀ rest, (Withdrawal.preview c.feePolicy fromNote.amount amount).change = some rest ↔
        ∃ w, (Withdrawal.prepare amount address fromNote c.feePolicy source).1 = .ok w ∧
          w.changeNote.amount = rest) ∧
      ∀ noteText s l w,
        ((prepareWithdrawal c amount address noteText).run client s l).1 = .ok w →
        ∀ proof s' l', s'.store = s.store →
          Passes c ⟨amount, address, noteText, w.changeNote.text, proof⟩ s'.store w ∧
            ∀ e, ((confirmWithdrawal c ⟨amount, address, noteText, w.changeNote.text, proof⟩).run
              client' s' l').1 = .error e → Clears w e := by
  refine ⟨?_, fun w hw => (Withdrawal.prepare_change_iff address hsource).mp ⟨w, hw, rfl⟩,
    fun change => ?_, fun rest => ?_, fun noteText s l w hw proof s' l' hstore => ?_⟩
  · rw [← Withdrawal.exists_rest_iff]
    simp only [← Withdrawal.prepare_change_iff address hsource]
    exact ⟨fun ⟨w, hw⟩ => ⟨_, w, hw, rfl⟩, fun ⟨_, w, hw, _⟩ => ⟨w, hw⟩⟩
  · simp only [Withdrawal.withChange_eq_ok_iff, exists_and_left, exists_eq, and_true]
  · rw [Withdrawal.preview_change_iff, Withdrawal.prepare_change_iff address hsource]
  · have hpasses := prepared_passes hw proof
    rw [← hstore] at hpasses
    exact ⟨hpasses, hpasses.clears⟩

namespace PartWithdrawn

open MuteNode (recorded find_recorded)

def note : Note := { amount := 200000, k := Block.zero 31, r := Block.zero 31 }

def state : State := recorded note.commitment (Block.zero 32)

theorem confirmedNote_state : confirmedNote note.text state.store =
    .ok { note with leafIndex := Store.unsigned 0, txnId := some "T" } :=
  confirmedNote_of (Note.parse_text note) (find_recorded _ _)

theorem part_withdrawn : ∃ w,
    ((prepareWithdrawal MuteNode.settings 100000 ⟨Block.zero 32⟩ note.text).run .offline state
      ()).1 = .ok w ∧
    w.changeNote.amount = 24700 ∧
    Passes MuteNode.settings ⟨100000, ⟨Block.zero 32⟩, note.text, w.changeNote.text, []⟩
      state.store w := by
  have hsource : state.source.ServesNote := ⟨rfl, rfl⟩
  obtain ⟨-, -, -, hpreview, htaken⟩ := withdrawal_accounts_agree .offline .offline
    MuteNode.settings 100000 ⟨Block.zero 32⟩
    { note with leafIndex := Store.unsigned 0, txnId := some "T" } hsource
  obtain ⟨w, hw, hchange⟩ := (hpreview 24700).mp (by decide)
  have hrun : ((prepareWithdrawal MuteNode.settings 100000 ⟨Block.zero 32⟩ note.text).run .offline
      state ()).1 = .ok w :=
    prepareWithdrawal_eq_ok_iff.mpr ⟨by decide, _, confirmedNote_state, hw⟩
  exact ⟨w, hrun, hchange, (htaken note.text state () w hrun [] state () rfl).1⟩

end PartWithdrawn

end Pool

end ShieldedPool
