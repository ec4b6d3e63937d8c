import ShieldedPool.Proofs.Ledger.Abi
import ShieldedPool.Proofs.Ledger.Builder
import ShieldedPool.Proofs.Ledger.Transaction

namespace ShieldedPool.Ledger

open MessagePack (sizeLimit)

theorem Transaction.Fits.withGroup {t : Transaction} (h : t.Fits) (g : Option GroupId) :
    { t with group := g }.Fits := ⟨h.genesisId, h.note, h.call⟩

def ArgsFit (args : List Bytes) : Prop :=
  args.length < sizeLimit ∧ ∀ bs ∈ args, bs.length < sizeLimit

namespace Builder

variable {b : Builder} {params : ChainParams}

theorem depositArgs_fit {amount : UInt64} {depositor : Address} {note : Note}
    {args : List Bytes} (h : depositArgs amount depositor note = .ok args) : ArgsFit args := by
  unfold depositArgs at h
  obtain ⟨proof, hproof, h⟩ := bind_ok h
  obtain ⟨inputs, hinputs, h⟩ := bind_ok h
  cases h
  have haddress : (Abi.address depositor).length < sizeLimit := Transaction.key_lt depositor.key
  have hselector := Abi.length_selector Protocol.depositSignature
  refine ⟨(by decide : 4 < sizeLimit), ?_⟩
  simp only [List.mem_cons, List.not_mem_nil, or_false, forall_eq_or_imp, forall_eq]
  exact ⟨hselector, Abi.length_wordArray hproof, Abi.length_wordArray hinputs, haddress⟩

theorem withdrawalArgs_fit {w : Withdrawal} {root : Word} {proof : Bytes} {args : List Bytes}
    (h : withdrawalArgs w root proof = .ok args) : ArgsFit args := by
  obtain ⟨words, encodedProof, encoded, -, hproof, hinputs, rfl⟩ := withdrawalArgs_eq_ok h
  have hone : 1 < sizeLimit := by decide
  have hselector := Abi.length_selector Protocol.withdrawalSignature
  refine ⟨(by decide : 6 < sizeLimit), ?_⟩
  simp only [List.mem_cons, List.not_mem_nil, or_false, forall_eq_or_imp, forall_eq]
  exact ⟨hselector, Abi.length_wordArray hproof, Abi.length_wordArray hinputs, hone, hone, hone⟩

theorem call_fits (hgenesis : (Text.utf8 params.genesisId).length < sizeLimit) (fee : UInt64)
    {args : List Bytes} (hargs : ArgsFit args) {note : Bytes} (hnote : note.length < sizeLimit) :
    (b.call params fee args [] note).Fits := by
  refine ⟨hgenesis, hnote, fun appId args' accounts hkind => ?_⟩
  cases hkind
  exact ⟨hargs.1, hargs.2, Transaction.size_pos⟩

theorem depositTxns_fit (hgenesis : (Text.utf8 params.genesisId).length < sizeLimit)
    (depositor : Address) (fee amount : UInt64) {args : List Bytes} (hargs : ArgsFit args) :
    ∀ t ∈ b.depositTxns params depositor fee amount args, t.Fits := by
  have hempty : ([] : Bytes).length < sizeLimit := Transaction.size_pos
  intro t ht
  rcases List.mem_cons.mp ht with rfl | ht
  · exact call_fits hgenesis 0 hargs hempty
  rcases List.mem_cons.mp ht with rfl | ht
  · exact ⟨hgenesis, hempty, fun _ _ _ hkind => by cases hkind⟩
  · obtain ⟨i, -, rfl⟩ := List.mem_map.mp ht
    have hnoop : [Abi.selector Protocol.noopSignature].length < sizeLimit :=
      (by decide : 1 < sizeLimit)
    have hselector := Abi.length_selector Protocol.noopSignature
    refine call_fits hgenesis 0 ⟨hnoop, fun bs hbs => ?_⟩ ?_
    · rw [List.mem_singleton.mp hbs]
      exact hselector
    · rw [Bytes.length_natBE]
      decide

theorem deposit_members {amount : UInt64} {depositor : Address} {note : Note} {g : DepositGroup}
    (h : b.deposit amount depositor note params = .ok g)
    (hgenesis : (Text.utf8 params.genesisId).length < sizeLimit) (hid : g.groupId ≠ .zero) :
    (∃ call payment rest, g.txns = call :: payment :: rest ∧ g.watch = call.id) ∧
      ∀ t ∈ g.txns, t.Readable := by
  have hgroup := deposit_ok h
  obtain ⟨-, fee, args, -, hargs, -, htxns, hwatch⟩ := deposit_eq_ok h
  refine ⟨⟨_, _, _, htxns, by rw [hwatch, htxns]; rfl⟩, fun t ht => ?_⟩
  have hsome := hgroup t ht
  rw [htxns] at ht
  obtain ⟨t', ht', rfl⟩ := List.mem_map.mp ht
  have hfits := depositTxns_fit hgenesis depositor fee amount (depositArgs_fit hargs) t' ht'
  refine ⟨hfits.withGroup _, ?_⟩
  rw [hsome]
  exact fun hzero => hid (Option.some.inj hzero)

end Builder

end ShieldedPool.Ledger
