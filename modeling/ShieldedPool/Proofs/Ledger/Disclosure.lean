import ShieldedPool.Proofs.Ledger.Members
import ShieldedPool.Proofs.Ledger.Signed
import ShieldedPool.Proofs.Note.Binding

namespace ShieldedPool

structure Revealed where
  recipient : Address
  amount : UInt64
  fee : UInt64
  change : Word
  nullifier : Word
  noChange : Bool
  root : Word
  proof : Bytes

def Withdrawal.revealed (w : Withdrawal) (root : Word) (proof : Bytes) : Revealed :=
  ⟨w.address, w.amount.units, w.fee.units, w.changeNote.commitment, w.fromNote.nullifier,
    w.changeNote.amount == 0, root, proof⟩

def Withdrawal.relinked (w : Withdrawal) (leaf : UInt64) (txnId : Option String) (r : Nonce)
    (changeLeaf : UInt64) (changeTxnId : Option String) : Withdrawal :=
  { w with
    fromNote := { w.fromNote with leafIndex := leaf, txnId, r }
    changeNote := { w.changeNote with leafIndex := changeLeaf, txnId := changeTxnId } }

namespace Ledger

namespace Transaction

open MessagePack (sizeLimit)

theorem keys_injective {as bs : List Address}
    (h : as.map (·.key.bytes) = bs.map (·.key.bytes)) : as = bs := by
  refine (List.map_inj_right fun a b hkey => ?_).mp h
  obtain ⟨a⟩ := a
  obtain ⟨b⟩ := b
  exact congrArg Address.mk (Block.eq_of_bytes_eq hkey)

theorem blobs_recovers {items : List Bytes} (h : ArgsFit items) :
    MessagePack.Recovers readBlobsField FieldValue.write (.blobs items) := by
  have hfits : (FieldValue.blobs items).Fits := h
  exact FieldValue.reader_recovers hfits

theorem keys_fit (a : Address) : ArgsFit ([a].map (·.key.bytes)) := by
  refine ⟨(by decide : 1 < sizeLimit), fun bs hbs => ?_⟩
  rw [List.mem_singleton.mp hbs]
  exact key_lt a.key

theorem appCall_append_inj {t u : Transaction} {appId appId' : UInt64} {args args' : List Bytes}
    {a a' : Address} (ht : t.kind = .appCall appId args [a])
    (hu : u.kind = .appCall appId' args' [a']) (hne : args ≠ []) (hne' : args' ≠ [])
    (hargs : ArgsFit args) (hargs' : ArgsFit args') {x y : Bytes}
    (h : t.encode ++ x = u.encode ++ y) : args = args' ∧ a = a' := by
  obtain ⟨_, htargs, htaccounts⟩ := fields_appCall ht hne
  obtain ⟨_, huargs, huaccounts⟩ := fields_appCall hu hne'
  obtain ⟨_, rfl⟩ := htaccounts (List.cons_ne_nil _ _)
  obtain ⟨_, rfl⟩ := huaccounts (List.cons_ne_nil _ _)
  have hentries := entries_cons_append_inj htargs huargs h
  rw [List.flatMap_cons, List.flatMap_cons, List.append_assoc, List.append_assoc] at hentries
  obtain ⟨hsame, hafter⟩ := MessagePack.entryBytes_append_inj (blobs_recovers hargs)
    (blobs_recovers hargs') "apaa" hentries
  obtain ⟨haccounts, -⟩ := MessagePack.entryBytes_append_inj (blobs_recovers (keys_fit a))
    (blobs_recovers (keys_fit a')) "apat" hafter
  have hlist := keys_injective (FieldValue.blobs.inj haccounts)
  exact ⟨FieldValue.blobs.inj hsame, (List.cons_eq_cons.mp hlist).1⟩

end Transaction

theorem program_append_inj {t u : Transaction} {program x y : Bytes}
    (h : (SignedTransaction.mk t (.program program)).encode ++ x =
      (SignedTransaction.mk u (.program program)).encode ++ y) :
    t.encode ++ x = u.encode ++ y := by
  simp only [SignedTransaction.encode, MessagePack.record, List.length_cons, List.length_nil,
    List.flatMap_cons, List.flatMap_nil, List.append_assoc, List.nil_append,
    List.append_cancel_left_eq] at h
  exact h

namespace Builder

section Groups

variable {b : Builder} {params : ChainParams} {w w' : Withdrawal} {root root' : Word}
  {proof proof' : Bytes} {g g' : WithdrawalGroup}

theorem checkWithdrawal_ok_iff : b.checkWithdrawal w = .ok () ↔
    w.fromNote.position ≠ none ∧ w.amount.units ≠ 0 ∧ b.checkGroupSize = .ok () := by
  unfold checkWithdrawal
  split
  · simp [*]
  · split <;> simp [*]

theorem withdrawalArgs_congr (h : w.revealed root proof = w'.revealed root' proof') :
    withdrawalArgs w root proof = withdrawalArgs w' root' proof' := by
  obtain ⟨hrecipient, hamount, hfee, hchange, hnullifier, hnone, rfl, rfl⟩ := Revealed.mk.inj h
  have hinputs : publicInputs w root = publicInputs w' root := by
    rw [publicInputs, hrecipient, hamount, hfee, hchange, hnullifier]
    rfl
  rw [withdrawalArgs, hinputs, hnone]
  rfl

theorem withdrawal_congr (h : b.withdrawal w root proof params = .ok g)
    (heq : w.revealed root proof = w'.revealed root' proof')
    (hposition : w'.fromNote.position ≠ none) :
    b.withdrawal w' root' proof' params = .ok g := by
  obtain ⟨callFee, required, args, hcheck, hbudget, hfee, hargs, rfl⟩ := withdrawal_eq_ok_iff.mp h
  rw [withdrawalArgs_congr heq] at hargs
  obtain ⟨hrecipient, hamount, hsame, -⟩ := Revealed.mk.inj heq
  obtain ⟨-, hpositive, hsize⟩ := checkWithdrawal_ok_iff.mp hcheck
  refine withdrawal_eq_ok_iff.mpr ⟨callFee, required, args, ?_, hbudget, ?_, hargs, ?_⟩
  · exact checkWithdrawal_ok_iff.mpr ⟨hposition, hamount ▸ hpositive, hsize⟩
  · exact hsame ▸ hfee
  · rw [hrecipient]

theorem revealed_of_args {args : List Bytes} (h : withdrawalArgs w root proof = .ok args)
    (h' : withdrawalArgs w' root' proof' = .ok args) (haddress : w.address = w'.address) :
    w.revealed root proof = w'.revealed root' proof' := by
  obtain ⟨words, encodedProof, encoded, hwords, hproof, hinputs, rfl⟩ := withdrawalArgs_eq_ok h
  obtain ⟨words', _, _, hwords', hproof', hinputs', heq⟩ := withdrawalArgs_eq_ok h'
  simp only [List.cons.injEq, and_true, true_and] at heq
  obtain ⟨rfl, rfl, hnone⟩ := heq
  obtain rfl := Abi.wordArray_injective hproof hproof'
  have hsame := Abi.wordArray_injective hinputs hinputs'
  simp only [publicInputs, List.cons.injEq, and_true] at hsame
  obtain ⟨-, hamount, hfee, hchange, hnullifier, hroot⟩ := hsame
  rw [Withdrawal.revealed, Withdrawal.revealed, haddress, Note.amountWord_injective hamount,
    Note.amountWord_injective hfee, hchange, hnullifier, Abi.boolean_injective hnone, hroot,
    ← Abi.proofWords_eq_ok hwords, ← Abi.proofWords_eq_ok hwords']

theorem withdrawal_first (h : b.withdrawal w root proof params = .ok g) :
    ∃ first rest args, g.txns = first :: rest ∧
      first.kind = .appCall b.pool.appId args [w.address] ∧
      withdrawalArgs w root proof = .ok args := by
  obtain ⟨callFee, required, args, -, -, -, hargs, rfl⟩ := withdrawal_eq_ok_iff.mp h
  exact ⟨_, _, args, rfl, rfl, hargs⟩

theorem revealed_of_first {first first' : Transaction} {rest rest' : List Transaction}
    (h : b.withdrawal w root proof params = .ok g)
    (h' : b.withdrawal w' root' proof' params = .ok g') (hg : g.txns = first :: rest)
    (hg' : g'.txns = first' :: rest') {x y : Bytes} (heq : first.encode ++ x = first'.encode ++ y) :
    w.revealed root proof = w'.revealed root' proof' := by
  obtain ⟨_, _, args, htxns, hkind, hargs⟩ := withdrawal_first h
  obtain ⟨_, _, args', htxns', hkind', hargs'⟩ := withdrawal_first h'
  obtain ⟨rfl, -⟩ := List.cons_eq_cons.mp (hg.symm.trans htxns)
  obtain ⟨rfl, -⟩ := List.cons_eq_cons.mp (hg'.symm.trans htxns')
  have hne {w : Withdrawal} {root : Word} {proof : Bytes} {args : List Bytes}
      (hargs : withdrawalArgs w root proof = .ok args) : args ≠ [] := by
    obtain ⟨_, _, _, -, -, -, rfl⟩ := withdrawalArgs_eq_ok hargs
    exact List.cons_ne_nil _ _
  obtain ⟨rfl, haddress⟩ := Transaction.appCall_append_inj hkind hkind' (hne hargs) (hne hargs')
    (withdrawalArgs_fit hargs) (withdrawalArgs_fit hargs') heq
  exact revealed_of_args hargs hargs' haddress

theorem withdrawal_position (h : b.withdrawal w root proof params = .ok g) :
    w.fromNote.position ≠ none := by
  obtain ⟨_, _, _, hcheck, -⟩ := withdrawal_eq_ok_iff.mp h
  exact (checkWithdrawal_ok_iff.mp hcheck).1

theorem withdrawal_discloses (h : b.withdrawal w root proof params = .ok g)
    (h' : b.withdrawal w' root' proof' params = .ok g') :
    (g.txns.map Transaction.encode = g'.txns.map Transaction.encode ↔
        w.revealed root proof = w'.revealed root' proof') ∧
      (encodeGroup (b.authorizeProgram g.txns) = encodeGroup (b.authorizeProgram g'.txns) ↔
        w.revealed root proof = w'.revealed root' proof') ∧
      ∀ leaf txnId r changeLeaf changeTxnId, leaf ≠ Protocol.emptyLeafIndex →
        b.withdrawal (w.relinked leaf txnId r changeLeaf changeTxnId) root proof params =
          .ok g := by
  have hsame (heq : w.revealed root proof = w'.revealed root' proof') : g = g' := by
    have hbuilt := withdrawal_congr h heq (withdrawal_position h')
    rw [h'] at hbuilt
    exact (Except.ok.inj hbuilt).symm
  obtain ⟨first, rest, args, htxns, -⟩ := withdrawal_first h
  obtain ⟨first', rest', args', htxns', -⟩ := withdrawal_first h'
  refine ⟨⟨fun heq => ?_, fun heq => by rw [hsame heq]⟩,
    ⟨fun heq => ?_, fun heq => by rw [hsame heq]⟩, ?_⟩
  · rw [htxns, htxns'] at heq
    have hfirst : first.encode = first'.encode := (List.cons_eq_cons.mp heq).1
    exact revealed_of_first h h' htxns htxns' (congrArg (· ++ []) hfirst)
  · rw [htxns, htxns', authorizeProgram, authorizeProgram, List.map_cons, List.map_cons,
      encodeGroup_cons, encodeGroup_cons] at heq
    exact revealed_of_first h h' htxns htxns' (program_append_inj heq)
  · intro leaf txnId r changeLeaf changeTxnId hleaf
    refine withdrawal_congr h rfl ?_
    simp [Withdrawal.relinked, Note.position, hleaf]

end Groups

namespace Twins

def builder : Builder := { pool := ⟨1, ⟨Block.zero 32⟩, ⟨Block.zero 32⟩, [6, 129, 1]⟩ }

def params : ChainParams := ⟨0, 1000, 1, 1001, "", Block.zero 32⟩

def spend (amount leaf : UInt64) : Withdrawal :=
  ⟨Amount.ofUnits amount, Amount.ofUnits 75300, ⟨Block.zero 32⟩,
    { amount := 200000, k := Block.zero 31, r := Block.zero 31, leafIndex := leaf },
    { amount := 24700, k := Block.zero 31, r := Block.zero 31 }⟩

theorem exists_built (amount leaf : UInt64)
    (hcheck : builder.checkWithdrawal (spend amount leaf) = .ok ()) :
    ∃ g, builder.withdrawal (spend amount leaf) (Block.zero 32) [] params = .ok g := by
  have hbudget : builder.withdrawalBudget params = some (60000, 75300) := by decide
  have hwords : Abi.proofWords [] = .ok [] := by
    unfold Abi.proofWords
    simp [groups]
  exact withdrawal_of (spend amount leaf) (Block.zero 32) hcheck hbudget (UInt64.le_refl 75300)
    hwords (by decide)

theorem spends_disclose : ∃ g g' g'',
    builder.withdrawal (spend 100000 0) (Block.zero 32) [] params = .ok g ∧
      builder.withdrawal (spend 100000 7) (Block.zero 32) [] params = .ok g' ∧
      builder.withdrawal (spend 90000 0) (Block.zero 32) [] params = .ok g'' ∧
      encodeGroup (builder.authorizeProgram g.txns) =
        encodeGroup (builder.authorizeProgram g'.txns) ∧
      g.txns.map Transaction.encode ≠ g''.txns.map Transaction.encode := by
  obtain ⟨g, hg⟩ := exists_built 100000 0 rfl
  obtain ⟨g', hg'⟩ := exists_built 100000 7 rfl
  obtain ⟨g'', hg''⟩ := exists_built 90000 0 rfl
  refine ⟨g, g', g'', hg, hg', hg'', (withdrawal_discloses hg hg').2.1.mpr rfl, fun heq => ?_⟩
  have hsame := (withdrawal_discloses hg hg'').1.mp heq
  have hamount : (100000 : UInt64) = 90000 := (Revealed.mk.inj hsame).2.1
  exact absurd hamount (by decide)

end Twins

end Builder

end Ledger

end ShieldedPool
