import ShieldedPool.Proofs.Ledger.Builder
import ShieldedPool.Proofs.Pool.Aftermath
import ShieldedPool.Proofs.Withdrawal

namespace ShieldedPool.Pool

open Ledger (ChainParams WithdrawalGroup encodeGroup)
open Ledger.Builder (publicInputs recipientWord CallsWith)

variable {σ : Type} {client : Ledger.Client σ} {s : State} {l : σ}

theorem confirmedNote_ok {text : String} {store : Store} {n : Note}
    (h : confirmedNote text store = .ok n) :
    ∃ spent row, Note.parse text = .ok spent ∧ row ∈ store.txns ∧
      row.commitment = spent.commitment.bytes ∧
      n = { spent with leafIndex := Store.unsigned row.leaf, txnId := some row.txnId } := by
  unfold confirmedNote at h
  split at h
  · cases h
  case h_2 spent hparse =>
    unfold Store.txnOf at h
    cases hfind : store.txns.find? (·.commitment = spent.commitment.bytes) with
    | none => rw [hfind] at h; cases h
    | some row =>
      rw [hfind] at h
      cases h
      have hcommitment := List.find?_some hfind
      exact ⟨spent, row, hparse, List.mem_of_find?_eq_some hfind, of_decide_eq_true hcommitment,
        rfl⟩

theorem confirmedNote_of {text : String} {store : Store} {spent : Note} {row : Store.TxnRow}
    (hparse : Note.parse text = .ok spent)
    (hrow : store.txns.find? (·.commitment = spent.commitment.bytes) = some row) :
    confirmedNote text store =
      .ok { spent with leafIndex := Store.unsigned row.leaf, txnId := some row.txnId } := by
  unfold confirmedNote
  rw [hparse]
  dsimp only
  rw [Store.txnOf, hrow]

theorem withdrawalOf_ok {c : Settings} {form : WithdrawalForm} {fromNote : Note} {w : Withdrawal}
    (h : withdrawalOf c form fromNote = .ok w) :
    ∃ change, Note.parse form.changeNoteText = .ok change ∧
      form.amount.toNat + (c.feePolicy.fee form.amount).toNat + change.amount.toNat =
        fromNote.amount.toNat ∧
      w = Withdrawal.assemble form.amount form.address fromNote change c.feePolicy := by
  unfold withdrawalOf at h
  split at h
  · cases h
  case h_2 change hparse =>
    cases hw : Withdrawal.withChange form.amount form.address fromNote change c.feePolicy with
    | error e => rw [hw] at h; cases h
    | ok w =>
      rw [hw] at h
      cases h
      obtain ⟨hbalance, rfl⟩ := Withdrawal.withChange_eq_ok_iff.mp hw
      exact ⟨change, hparse, hbalance, rfl⟩

theorem withdrawalOf_of {c : Settings} {form : WithdrawalForm} {fromNote change : Note}
    (hparse : Note.parse form.changeNoteText = .ok change)
    (hbalance : form.amount.toNat + (c.feePolicy.fee form.amount).toNat + change.amount.toNat =
      fromNote.amount.toNat) :
    withdrawalOf c form fromNote =
      .ok (Withdrawal.assemble form.amount form.address fromNote change c.feePolicy) := by
  have hwith : Withdrawal.withChange form.amount form.address fromNote change c.feePolicy =
      .ok (Withdrawal.assemble form.amount form.address fromNote change c.feePolicy) :=
    Withdrawal.withChange_eq_ok_iff.mpr ⟨hbalance, rfl⟩
  unfold withdrawalOf
  rw [hparse]
  dsimp only
  rw [hwith]

theorem verifiedRoot_ok {store : Store} {root : Word} (h : verifiedRoot store = .ok root) :
    ∃ ws, store.commitments = .ok ws ∧ root = (Tree.ofCommitments ws).rootWord ∧
      store.currentRoot = .ok (root, UInt64.ofNat ws.length) := by
  unfold verifiedRoot at h
  cases hws : store.commitments with
  | error e => rw [hws] at h; cases h
  | ok ws =>
    rw [hws] at h
    dsimp only at h
    split at h
    · cases h
    · cases h
    case h_3 stored leafCount hroot =>
      split at h
      case isFalse => cases h
      case isTrue hsame =>
        cases h
        obtain ⟨hstored, hcount⟩ := hsame
        exact ⟨ws, rfl, rfl, by rw [hroot, hstored, hcount]⟩

theorem verifiedRoot_of {store : Store} {ws : List Word} (hws : store.commitments = .ok ws)
    (hroot : store.currentRoot =
      .ok ((Tree.ofCommitments ws).rootWord, UInt64.ofNat ws.length)) :
    verifiedRoot store = .ok (Tree.ofCommitments ws).rootWord := by
  unfold verifiedRoot
  rw [hws]
  dsimp only
  rw [hroot]
  dsimp only
  rw [if_pos ⟨rfl, rfl⟩]

structure Backed (c : Settings) (form : WithdrawalForm) (store : Store)
    (params : ChainParams) (spent change : Note) (root : Word) (group : Bytes) : Prop where
  positive : 0 < form.amount.toNat
  parsed : Note.parse form.noteText = .ok spent
  recorded : ∃ row ∈ store.txns, row.commitment = spent.commitment.bytes
  changed : Note.parse form.changeNoteText = .ok change
  balanced : form.amount.toNat + (c.feePolicy.fee form.amount).toNat + change.amount.toNat =
    spent.amount.toNat
  rebuilt : ∃ ws, store.commitments = .ok ws ∧ root = (Tree.ofCommitments ws).rootWord ∧
    store.currentRoot = .ok (root, UInt64.ofNat ws.length)
  funded : c.builder.config.withdrawalFeeMultiplier.toNat * params.minFee.toNat +
    c.builder.config.nullifierDeposit.toNat ≤ (c.feePolicy.fee form.amount).toNat
  called : ∃ txns, group = encodeGroup (c.builder.authorizeProgram txns) ∧
    c.builder.CallsWith form.address
      [recipientWord form.address, Note.amountWord form.amount,
        Note.amountWord (c.feePolicy.fee form.amount), change.commitment, spent.nullifier,
        root] txns

theorem Spends.backed {c : Settings} {form : WithdrawalForm} {params : ChainParams}
    {fromNote : Note} {w : Withdrawal} {root : Word} {g : WithdrawalGroup}
    (h : Spends c form s params fromNote w root g) :
    ∃ spent change, Backed c form s.store params spent change root
      (encodeGroup (c.builder.authorizeProgram g.txns)) := by
  obtain ⟨spent, row, hparse, hrow, hcommitment, rfl⟩ := confirmedNote_ok h.found
  obtain ⟨change, hchange, hbalance, rfl⟩ := withdrawalOf_ok h.balanced
  obtain ⟨hfunded, hcalled⟩ := Ledger.Builder.withdrawal_ok h.built
  have hpositive : 0 < form.amount.toNat :=
    Nat.pos_of_ne_zero fun hzero => h.positive (UInt64.toNat_inj.mp hzero)
  exact ⟨spent, change, hpositive, hparse, ⟨row, hrow, hcommitment⟩, hchange, hbalance,
    verifiedRoot_ok h.verified, hfunded, g.txns, rfl, hcalled⟩

theorem exists_spends {c : Settings} {form : WithdrawalForm} {params : ChainParams}
    {spent change : Note} {row : Store.TxnRow} {ws words : List Word} {callFee required : UInt64}
    (hamount : form.amount ≠ 0) (hspent : Note.parse form.noteText = .ok spent)
    (hrow : s.store.txns.find? (·.commitment = spent.commitment.bytes) = some row)
    (hleaf : Store.unsigned row.leaf ≠ Protocol.emptyLeafIndex)
    (hchange : Note.parse form.changeNoteText = .ok change)
    (hbalance : form.amount.toNat + (c.feePolicy.fee form.amount).toNat + change.amount.toNat =
      spent.amount.toNat)
    (hws : s.store.commitments = .ok ws)
    (hroot : s.store.currentRoot = .ok ((Tree.ofCommitments ws).rootWord, UInt64.ofNat ws.length))
    (hsize : Protocol.paymentIndex < c.builder.config.groupSize)
    (hbudget : c.builder.withdrawalBudget params = some (callFee, required))
    (hfee : required ≤ c.feePolicy.fee form.amount)
    (hwords : Ledger.Abi.proofWords form.proof = .ok words) (hcount : words.length < 65536) :
    ∃ fromNote w root g, Spends c form s params fromNote w root g ∧ w.changeNote = change := by
  let fromNote : Note :=
    { spent with leafIndex := Store.unsigned row.leaf, txnId := some row.txnId }
  let w := Withdrawal.assemble form.amount form.address fromNote change c.feePolicy
  have hcheck : c.builder.checkWithdrawal w = .ok () := by
    have hposition : w.fromNote.position ≠ none := by
      change (if fromNote.leafIndex = Protocol.emptyLeafIndex then none
        else some fromNote.leafIndex) ≠ none
      rw [if_neg hleaf]
      exact Option.some_ne_none _
    have hunits : w.amount.units ≠ 0 := hamount
    unfold Ledger.Builder.checkWithdrawal Ledger.Builder.checkGroupSize
    rw [if_neg hposition, if_neg hunits, if_neg (Nat.not_le.mpr hsize)]
  obtain ⟨g, hg⟩ := Ledger.Builder.withdrawal_of w (Tree.ofCommitments ws).rootWord hcheck hbudget
    hfee hwords hcount
  exact ⟨fromNote, w, _, g, ⟨hamount, confirmedNote_of hspent hrow,
    withdrawalOf_of hchange hbalance, verifiedRoot_of hws hroot, hg⟩, rfl⟩

def registeringChange (c : Settings) (w : Withdrawal) (g : WithdrawalGroup) (change : Note) :
    Action WithdrawalReceipt :=
  .act (State.register change) fun registered =>
    match registered with
    | .error e => .done (.error (.store e))
    | .ok id => submitWithdrawal c w g change id

theorem confirmWithdrawal_of {P : Action WithdrawalReceipt → Prop} (c : Settings)
    (form : WithdrawalForm) (hdone : ∀ r, P (.done r))
    (hread : ∀ {β : Type} (f : State → β) (next : β → Action WithdrawalReceipt),
      (∀ b, P (next b)) → P (.act (fun s => (f s, s)) next))
    (hask : ∀ next, (∀ reply, P (next reply)) → P (.ask .params next))
    (hregister : ∀ w g change, P (registeringChange c w g change)) :
    P (confirmWithdrawal c form) := by
  unfold confirmWithdrawal
  split
  · exact hdone _
  · refine hread _ _ fun found => ?_
    cases found with
    | error e => exact hdone _
    | ok fromNote =>
      dsimp only
      cases withdrawalOf c form fromNote with
      | error e => exact hdone _
      | ok w =>
        refine hread _ _ fun checked => ?_
        cases checked with
        | error e => exact hdone _
        | ok root =>
          refine hask _ fun reply => ?_
          cases reply with
          | error e => exact hdone _
          | ok params =>
            dsimp only
            cases c.builder.withdrawal w root form.proof params with
            | error e => exact hdone _
            | ok g => exact hregister w g _

theorem confirmWithdrawal_every (c : Settings) (form : WithdrawalForm) :
    (confirmWithdrawal c form).Every KeepsSessions fun _ _ => True := by
  apply confirmWithdrawal_of (P := fun p => p.Every KeepsSessions fun _ _ => True)
  · exact fun _ => trivial
  · exact fun _ _ h => ⟨fun _ => rfl, h⟩
  · exact fun _ h => ⟨trivial, h⟩
  · intro w g change
    refine ⟨fun _ => rfl, fun registered => ?_⟩
    cases registered with
    | error e => trivial
    | ok id =>
      dsimp only
      rw [submitWithdrawal_eq]
      exact submission_every _ _ _ _ _ _ (fun _ => rfl) (fun _ _ => rfl) fun _ => trivial

end ShieldedPool.Pool
