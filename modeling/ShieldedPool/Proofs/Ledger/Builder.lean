import ShieldedPool.Ledger.Builder
import ShieldedPool.Proofs.Arithmetic
import ShieldedPool.Proofs.Result

namespace ShieldedPool.Ledger

namespace Builder

theorem withdrawalBudget_eq_some {b : Builder} {params : ChainParams} {callFee required : UInt64}
    (h : b.withdrawalBudget params = some (callFee, required)) :
    callFee.toNat = b.config.withdrawalFeeMultiplier.toNat * params.minFee.toNat ∧
      required.toNat = callFee.toNat + b.config.nullifierDeposit.toNat := by
  unfold withdrawalBudget at h
  cases hmul : checkedMul b.config.withdrawalFeeMultiplier params.minFee with
  | none => rw [hmul] at h; cases h
  | some fee =>
    cases hadd : checkedAdd fee b.config.nullifierDeposit with
    | none => simp [hmul, hadd] at h
    | some sum =>
      simp only [hmul, hadd, Option.bind_eq_bind, Option.bind_some, Option.pure_def,
        Option.some.injEq, Prod.mk.injEq] at h
      obtain ⟨rfl, rfl⟩ := h
      exact ⟨checkedMul_eq_some hmul, checkedAdd_eq_some hadd⟩

def CallsWith (b : Builder) (recipient : Address) (inputs : List Word)
    (txns : List Transaction) : Prop :=
  ∃ call rest selector proof encoded more, txns = call :: rest ∧
    call.kind = .appCall b.pool.appId (selector :: proof :: encoded :: more) [recipient] ∧
    Abi.wordArray inputs = .ok encoded

theorem withdrawalArgs_eq_ok {w : Withdrawal} {root : Word} {proof : Bytes} {args : List Bytes}
    (h : withdrawalArgs w root proof = .ok args) :
    ∃ words encodedProof encoded, Abi.proofWords proof = .ok words ∧
      Abi.wordArray words = .ok encodedProof ∧
      Abi.wordArray (publicInputs w root) = .ok encoded ∧
      args = [Abi.selector Protocol.withdrawalSignature, encodedProof, encoded, Abi.account 0,
        Abi.account 1, Abi.boolean (w.changeNote.amount == 0)] := by
  unfold withdrawalArgs at h
  obtain ⟨words, hwords, h⟩ := bind_ok h
  obtain ⟨encodedProof, hproof, h⟩ := bind_ok h
  obtain ⟨encoded, hinputs, h⟩ := bind_ok h
  cases h
  exact ⟨words, encodedProof, encoded, hwords, hproof, hinputs, rfl⟩

def withdrawalGroup (b : Builder) (params : ChainParams) (callFee : UInt64) (args : List Bytes)
    (recipient : Address) : WithdrawalGroup :=
  let (groupId, txns) := assignGroup (b.call params callFee args [recipient] [] :: b.noops params 1)
  ⟨txns, groupId, watchOf txns⟩

theorem withdrawal_eq_ok_iff {b : Builder} {w : Withdrawal} {root : Word} {proof : Bytes}
    {params : ChainParams} {g : WithdrawalGroup} :
    b.withdrawal w root proof params = .ok g ↔
      ∃ callFee required args, b.checkWithdrawal w = .ok () ∧
        b.withdrawalBudget params = some (callFee, required) ∧ required ≤ w.fee.units ∧
        withdrawalArgs w root proof = .ok args ∧
        g = b.withdrawalGroup params callFee args w.address := by
  constructor
  · intro h
    unfold withdrawal at h
    obtain ⟨_, hcheck, h⟩ := bind_ok h
    cases hbudget : b.withdrawalBudget params with
    | none => rw [hbudget] at h; cases h
    | some budget =>
      obtain ⟨callFee, required⟩ := budget
      rw [hbudget] at h
      dsimp only at h
      split at h
      case isTrue => cases h
      case isFalse hcovered =>
        obtain ⟨args, hargs, h⟩ := bind_ok h
        cases h
        exact ⟨callFee, required, args, hcheck, rfl, UInt64.not_lt.mp hcovered, hargs, rfl⟩
  · rintro ⟨callFee, required, args, hcheck, hbudget, hfee, hargs, rfl⟩
    unfold withdrawal
    rw [hcheck, hbudget]
    dsimp only [bind, Except.bind]
    rw [if_neg (UInt64.not_lt.mpr hfee), hargs]
    rfl

theorem withdrawal_ok {b : Builder} {w : Withdrawal} {root : Word} {proof : Bytes}
    {params : ChainParams} {g : WithdrawalGroup} (h : b.withdrawal w root proof params = .ok g) :
    b.config.withdrawalFeeMultiplier.toNat * params.minFee.toNat +
        b.config.nullifierDeposit.toNat ≤ w.fee.units.toNat ∧
      b.CallsWith w.address (publicInputs w root) g.txns := by
  obtain ⟨callFee, required, args, -, hbudget, hfee, hargs, rfl⟩ := withdrawal_eq_ok_iff.mp h
  obtain ⟨words, encodedProof, encoded, -, -, hinputs, rfl⟩ := withdrawalArgs_eq_ok hargs
  refine ⟨?_, _, _, _, encodedProof, encoded, _, rfl, rfl, hinputs⟩
  obtain ⟨hcallFee, hrequired⟩ := withdrawalBudget_eq_some hbudget
  rw [← hcallFee, ← hrequired]
  exact hfee

theorem proofWords_error {proof : Bytes} {e : BuildError}
    (h : Abi.proofWords proof = .error e) : ∃ n, e = .malformedProof n := by
  unfold Abi.proofWords at h
  split at h
  · cases h
  · cases h; exact ⟨_, rfl⟩

theorem wordArray_error {ws : List Word} {e : BuildError} (h : Abi.wordArray ws = .error e) :
    ∃ n, e = .tooManyWords n := by
  unfold Abi.wordArray at h
  split at h
  · cases h
  · cases h; exact ⟨_, rfl⟩

theorem withdrawalArgs_error {w : Withdrawal} {root : Word} {proof : Bytes} {e : BuildError}
    (h : withdrawalArgs w root proof = .error e) :
    (∃ n, e = .malformedProof n) ∨ ∃ n, e = .tooManyWords n := by
  unfold withdrawalArgs at h
  obtain hwords | ⟨words, -, h⟩ := bind_error h
  · exact .inl (proofWords_error hwords)
  obtain hproof | ⟨encodedProof, -, h⟩ := bind_error h
  · exact .inr (wordArray_error hproof)
  obtain hinputs | ⟨encoded, -, h⟩ := bind_error h
  · exact .inr (wordArray_error hinputs)
  · cases h

theorem checkWithdrawal_error {b : Builder} {w : Withdrawal} {e : BuildError}
    (h : b.checkWithdrawal w = .error e) :
    (e = .zeroAmount → w.amount.units = 0) ∧
      (e = .missingLeafIndex → w.fromNote.position = none) := by
  unfold checkWithdrawal checkGroupSize at h
  split at h
  case isTrue hnone => cases h; exact ⟨nofun, fun _ => hnone⟩
  case isFalse =>
    split at h
    case isTrue hzero => cases h; exact ⟨fun _ => hzero, nofun⟩
    case isFalse =>
      split at h
      · cases h; exact ⟨nofun, nofun⟩
      · cases h

theorem withdrawal_error {b : Builder} {w : Withdrawal} {root : Word} {proof : Bytes}
    {params : ChainParams} {e : BuildError} (h : b.withdrawal w root proof params = .error e) :
    (e = .zeroAmount → w.amount.units = 0) ∧
      (e = .missingLeafIndex → w.fromNote.position = none) := by
  unfold withdrawal at h
  obtain hcheck | ⟨_, -, h⟩ := bind_error h
  · exact checkWithdrawal_error hcheck
  split at h
  · cases h; exact ⟨nofun, nofun⟩
  · dsimp only at h
    split at h
    · cases h; exact ⟨nofun, nofun⟩
    obtain hargs | ⟨args, -, h⟩ := bind_error h
    · rcases withdrawalArgs_error hargs with ⟨n, rfl⟩ | ⟨n, rfl⟩ <;> exact ⟨nofun, nofun⟩
    · cases h

theorem withdrawalArgs_of (w : Withdrawal) (root : Word) {proof : Bytes} {words : List Word}
    (hwords : Abi.proofWords proof = .ok words) (hcount : words.length < 65536) :
    ∃ args, withdrawalArgs w root proof = .ok args := by
  have hproof : Abi.wordArray words =
      .ok (Bytes.natBE 2 words.length ++ words.flatMap Block.bytes) := if_pos hcount
  unfold withdrawalArgs
  rw [hwords]
  dsimp only [bind, Except.bind]
  rw [hproof]
  exact ⟨_, rfl⟩

theorem withdrawal_of {b : Builder} (w : Withdrawal) (root : Word) {proof : Bytes}
    {words : List Word} {params : ChainParams} {callFee required : UInt64}
    (hcheck : b.checkWithdrawal w = .ok ())
    (hbudget : b.withdrawalBudget params = some (callFee, required))
    (hfee : required ≤ w.fee.units) (hwords : Abi.proofWords proof = .ok words)
    (hcount : words.length < 65536) : ∃ g, b.withdrawal w root proof params = .ok g := by
  obtain ⟨args, hargs⟩ := withdrawalArgs_of w root hwords hcount
  exact ⟨_, withdrawal_eq_ok_iff.mpr ⟨callFee, required, args, hcheck, hbudget, hfee, hargs, rfl⟩⟩

theorem assignGroup_group (txns : List Transaction) :
    ∀ t ∈ (assignGroup txns).2, t.group = some (assignGroup txns).1 := by
  intro t ht
  obtain ⟨t', -, rfl⟩ := List.mem_map.mp ht
  rfl

theorem deposit_eq_ok {b : Builder} {amount : UInt64} {depositor : Address} {note : Note}
    {params : ChainParams} {g : DepositGroup}
    (h : b.deposit amount depositor note params = .ok g) :
    b.checkDeposit amount note = .ok () ∧
      ∃ fee args, checkedMul b.config.depositFeeMultiplier params.minFee = some fee ∧
        depositArgs amount depositor note = .ok args ∧
        g.groupId = (assignGroup (b.depositTxns params depositor fee amount args)).1 ∧
        g.txns = (assignGroup (b.depositTxns params depositor fee amount args)).2 ∧
        g.watch = watchOf g.txns := by
  unfold deposit at h
  obtain ⟨_, hcheck, h⟩ := bind_ok h
  cases hfee : checkedMul b.config.depositFeeMultiplier params.minFee with
  | none => rw [hfee] at h; cases h
  | some fee =>
    rw [hfee] at h
    obtain ⟨args, hargs, h⟩ := bind_ok h
    cases h
    exact ⟨hcheck, fee, args, rfl, hargs, rfl, rfl, rfl⟩

theorem deposit_ok {b : Builder} {amount : UInt64} {depositor : Address} {note : Note}
    {params : ChainParams} {g : DepositGroup}
    (h : b.deposit amount depositor note params = .ok g) :
    ∀ t ∈ g.txns, t.group = some g.groupId := by
  obtain ⟨-, fee, args, -, -, hid, htxns, -⟩ := deposit_eq_ok h
  rw [hid, htxns]
  exact assignGroup_group _

theorem depositArgs_of (amount : UInt64) (depositor : Address) (note : Note) :
    ∃ args, depositArgs amount depositor note = .ok args := ⟨_, rfl⟩

theorem deposit_of {b : Builder} {amount : UInt64} (depositor : Address) {note : Note}
    {params : ChainParams} {fee : UInt64} (hcheck : b.checkDeposit amount note = .ok ())
    (hfee : checkedMul b.config.depositFeeMultiplier params.minFee = some fee) :
    ∃ g, b.deposit amount depositor note params = .ok g := by
  obtain ⟨args, hargs⟩ := depositArgs_of amount depositor note
  unfold deposit
  rw [hcheck, hfee]
  dsimp only [bind, Except.bind]
  rw [hargs]
  exact ⟨_, rfl⟩

structure Authorizes (b : Builder) (txns : List Transaction) (place : Nat) (sig : Bytes)
    (group : List SignedTransaction) : Prop where
  members : group.map SignedTransaction.txn = txns
  signed : ∃ member, group[place]? = some member ∧ member.auth = .signature sig
  approved : ∀ i member, i ≠ place → group[i]? = some member →
    member.auth = .program b.pool.verifierProgram

theorem isSigned_iff {s : SignedTransaction} :
    isSigned s = true ↔ ∃ sig, s.auth = .signature sig ∧ sig ≠ [] := by
  unfold isSigned
  cases s.auth with
  | signature sig => cases sig <;> simp
  | program program => simp

theorem authorizeDeposit_ok {b : Builder} {txns : List Transaction} {signed : SignedTransaction}
    {group : List SignedTransaction} (h : b.authorizeDeposit txns signed = .ok group) :
    txns[Protocol.paymentIndex]? = some signed.txn ∧
      ∃ sig, signed.auth = .signature sig ∧
        b.Authorizes txns Protocol.paymentIndex sig group := by
  unfold authorizeDeposit at h
  cases hget : txns[Protocol.paymentIndex]? with
  | none => rw [hget] at h; cases h
  | some expected =>
    rw [hget] at h
    dsimp only at h
    split at h
    case isFalse => cases h
    case isTrue hsigned =>
      cases h
      obtain ⟨rfl, hauth⟩ := hsigned
      obtain ⟨sig, hsig, -⟩ := isSigned_iff.mp hauth
      obtain ⟨hlt, hmember⟩ := List.getElem?_eq_some_iff.mp hget
      have hlength : Protocol.paymentIndex < (b.authorizeProgram txns).length := by
        simpa [authorizeProgram] using hlt
      have hmembers : (b.authorizeProgram txns).map SignedTransaction.txn = txns := by
        simp [authorizeProgram, Function.comp_def]
      refine ⟨rfl, sig, hsig, ?_, ⟨signed, ?_, hsig⟩, ?_⟩
      · rw [List.map_set, hmembers, ← hmember]
        exact List.set_getElem_self hlt
      · exact List.getElem?_set_self hlength
      · intro i member hne hi
        rw [List.getElem?_set_ne (Ne.symm hne)] at hi
        simp only [authorizeProgram, List.getElem?_map, Option.map_eq_some_iff] at hi
        obtain ⟨txn, -, rfl⟩ := hi
        rfl

theorem authorizeDeposit_of (b : Builder) {txns : List Transaction} {payment : Transaction}
    (h : txns[Protocol.paymentIndex]? = some payment) {sig : Bytes} (hsig : sig ≠ []) :
    b.authorizeDeposit txns ⟨payment, .signature sig⟩ =
      .ok ((b.authorizeProgram txns).set Protocol.paymentIndex ⟨payment, .signature sig⟩) := by
  unfold authorizeDeposit
  rw [h]
  exact if_pos ⟨rfl, isSigned_iff.mpr ⟨sig, rfl, hsig⟩⟩

end Builder

end ShieldedPool.Ledger
