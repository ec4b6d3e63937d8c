import ShieldedPool.Proofs.Funds.Chain
import ShieldedPool.Proofs.Funds.History
import ShieldedPool.Proofs.Result
import ShieldedPool.Proofs.Store.Written

namespace ShieldedPool.Funds

section Open

variable {β : Type}

theorem lookup_of_mem {entries : List (UInt64 × β)} {k : UInt64} {v : β}
    (h : entries.Pairwise (·.1 < ·.1)) (hmem : (k, v) ∈ entries) : entries.lookup k = some v := by
  obtain ⟨before, after, rfl⟩ := List.append_of_mem hmem
  refine List.lookup_eq_some_iff.mpr ⟨before, after, rfl, fun p hp => ?_⟩
  have hlt := (List.pairwise_append.mp h).2.2 p hp (k, v) (List.mem_cons_self ..)
  exact bne_iff_ne.mpr (UInt64.ne_of_lt hlt).symm

theorem latest_eq {blobs : List (UInt64 × Bytes)} (h : blobs.Pairwise (·.1 < ·.1)) :
    latest blobs = blobs := by
  induction h with
  | nil => rfl
  | @cons b blobs hb _ ih =>
    have hnext : ¬ (blobs.head?.any fun next => next.1 = b.1) = true := by
      cases blobs with
      | nil => exact Bool.false_ne_true
      | cons next blobs =>
        intro heq
        exact UInt64.ne_of_lt (hb next (List.mem_cons_self ..)) (of_decide_eq_true heq).symm
    rw [latest, if_neg hnext, ih]

theorem openAll_eq (secret : Vault.Secret) {blobs : List (UInt64 × Bytes)}
    (h : blobs.Pairwise (·.1 < ·.1)) :
    openAll secret blobs = blobs.map fun b => (b.1, (Vault.decrypt secret b.2).toOption) := by
  have hsorted : blobs.Pairwise fun a b => decide (a.1 ≤ b.1) = true :=
    h.imp fun hlt => decide_eq_true (UInt64.le_of_lt hlt)
  rw [openAll, List.mergeSort_of_pairwise hsorted, latest_eq h]

end Open

def endOf (e : Step) : ChainEnd :=
  if e.isDeposit = false ∧ e.note.amount = 0 then .exhausted
  else .unspent e.record.leafIndex e.note.amount

def ChainEnd.held : ChainEnd → Nat
  | .unspent _ amount => amount.toNat
  | _ => 0

theorem held_endOf (e : Step) : (endOf e).held = e.note.amount.toNat := by
  unfold endOf
  split
  case isTrue h =>
    rw [h.2]
    rfl
  case isFalse => rfl

theorem Step.Draws.rest_eq {w e : Step} (h : w.Draws e) :
    rest e.note.amount (cost w.record) = w.note.amount := by
  have hbalance := h.balance
  refine UInt64.toNat_inj.mp ?_
  rw [toNat_rest, cost]
  omega

theorem History.ascending {h : List Step} (hh : History h) :
    h.Pairwise fun e w => e.record.leafIndex < w.record.leafIndex := by
  have hleaves : (h.map (·.record.leafIndex.toNat)).Pairwise (· < ·) := by
    rw [hh.leaves]
    exact List.pairwise_lt_range
  exact (List.pairwise_map.mp hleaves).imp UInt64.lt_iff_toNat_lt.mpr

def Records (h : List Step) (s : Store) : Prop :=
  ∃ ts ns, Store.Written ts ns s ∧ ts.Perm (h.map Step.record) ∧ ns.Perm (h.map Step.note)

structure Account (h : List Step) (secret : Vault.Secret) (s : Store) : Prop where
  history : History h
  distinct : Distinct h
  records : Records h s
  opens : ∀ e ∈ h, ∀ row ∈ s.notes, row.leaf = Store.signed e.record.leafIndex →
    Vault.decrypt secret row.nullifier = .ok e.note.nullifier.bytes
  deposited : total "total_deposits" h < Store.signedLimit
  noted : h.length < Store.signedLimit

namespace Account

variable {h : List Step} {secret : Vault.Secret} {s : Store} {e w : Step}

theorem signed_leaf (ha : Account h secret s) (he : e ∈ h) :
    Store.signed e.record.leafIndex = e.record.leafIndex.toNat := by
  have := ha.history.leaf_lt he
  have := ha.noted
  rw [Store.signed, if_pos (by omega)]

theorem signed_ascending (ha : Account h secret s) :
    h.Pairwise fun e w => Store.signed e.record.leafIndex < Store.signed w.record.leafIndex := by
  refine ha.history.ascending.imp_of_mem fun he hw hlt => ?_
  rw [ha.signed_leaf he, ha.signed_leaf hw]
  exact Int.ofNat_lt.mpr hlt

theorem txns_eq (ha : Account h secret s) : s.txns = h.map fun e => Store.rowOf e.record := by
  obtain ⟨ts, ns, hwritten, hts, -⟩ := ha.records
  rw [hwritten.txns_eq hts (List.pairwise_map.mpr ha.signed_ascending), List.map_map]
  rfl

theorem leaves_eq (ha : Account h secret s) :
    s.notes.map Store.NoteRow.leaf = h.map fun e => Store.signed e.record.leafIndex := by
  obtain ⟨ts, ns, hwritten, -, hns⟩ := ha.records
  have hleaves : (fun e : Step => Store.signed e.note.leafIndex) =
      fun e => Store.signed e.record.leafIndex := by
    funext e
    rw [e.leaf]
  have hsorted : (h.map Step.note).Pairwise fun n m =>
      Store.signed n.leafIndex < Store.signed m.leafIndex := by
    refine List.pairwise_map.mpr ?_
    simp only [Step.leaf]
    exact ha.signed_ascending
  rw [hwritten.leaves_eq hns hsorted, List.map_map, ← hleaves]
  rfl

theorem keys_eq (ha : Account h secret s) :
    s.sealedNullifiers.map Prod.fst = h.map (·.record.leafIndex) := by
  have hkeys := congrArg (List.map Store.unsigned) ha.leaves_eq
  rw [List.map_map, List.map_map] at hkeys
  simp only [Function.comp_def, Store.unsigned_signed] at hkeys
  rw [Store.sealedNullifiers, List.map_map, ← hkeys]
  rfl

theorem lookup_eq (ha : Account h secret s) (he : e ∈ h) :
    (openAll secret s.sealedNullifiers).lookup e.record.leafIndex =
      some (some e.note.nullifier.bytes) := by
  have hsorted : s.sealedNullifiers.Pairwise (·.1 < ·.1) := by
    refine List.pairwise_map.mp ?_
    rw [ha.keys_eq]
    exact List.pairwise_map.mpr ha.history.ascending
  have hleaf : Store.signed e.record.leafIndex ∈ s.notes.map Store.NoteRow.leaf := by
    rw [ha.leaves_eq]
    exact List.mem_map_of_mem he
  obtain ⟨row, hrow, hleaf⟩ := List.mem_map.mp hleaf
  rw [openAll_eq secret hsorted]
  refine lookup_of_mem (List.pairwise_map.mpr hsorted) (List.mem_map.mpr
    ⟨(Store.unsigned row.leaf, row.nullifier), List.mem_map_of_mem hrow, ?_⟩)
  rw [hleaf, Store.unsigned_signed, ha.opens e he row hrow hleaf]
  rfl

theorem spends_iff {w e : Step} :
    ((Store.rowOf w.record).txnType = 1 ∧
      (Store.rowOf w.record).fromNullifier = some e.note.nullifier.bytes) ↔ w.Spends e :=
  Store.rowOf_spends_iff

theorem toRecord_eq (ha : Account h secret s) (he : e ∈ h) :
    (Store.rowOf e.record).toRecord = .ok e.record := by
  have := ha.history.leaf_lt he
  have := ha.noted
  exact Store.toRecord_rowOf (by omega)

theorem spentBy_eq_none (ha : Account h secret s) (hunspent : Unspent h e) :
    s.spentBy e.note.nullifier.bytes = .ok none := by
  have hnone : (s.txns.find? fun row =>
      row.txnType = 1 ∧ row.fromNullifier = some e.note.nullifier.bytes) = none := by
    rw [ha.txns_eq]
    refine List.find?_eq_none.mpr fun row hrow hspends => ?_
    obtain ⟨w, hw, rfl⟩ := List.mem_map.mp hrow
    exact hunspent w hw (spends_iff.mp (of_decide_eq_true hspends))
  rw [Store.spentBy, hnone]

theorem spentBy_eq_some (ha : Account h secret s) (hw : w ∈ h) (hs : w.Spends e) :
    s.spentBy e.note.nullifier.bytes = .ok (some w.record) := by
  have hsome : (s.txns.find? fun row =>
      row.txnType = 1 ∧ row.fromNullifier = some e.note.nullifier.bytes) =
        some (Store.rowOf w.record) := by
    rw [ha.txns_eq]
    refine Store.find?_of_unique (List.mem_map_of_mem hw) (decide_eq_true (spends_iff.mpr hs)) ?_
    intro row hrow hspends
    obtain ⟨w', hw', rfl⟩ := List.mem_map.mp hrow
    rw [ha.history.spender_unique hw' hw (spends_iff.mp (of_decide_eq_true hspends)) hs]
  rw [Store.spentBy, hsome]
  dsimp only
  rw [ha.toRecord_eq hw]
  rfl

theorem deposits_eq (ha : Account h secret s) :
    s.deposits = .ok ((h.filter Step.isDeposit).map Step.record) := by
  have hrows : s.txns.filter (·.txnType = 0) =
      (h.filter Step.isDeposit).map fun e => Store.rowOf e.record := by
    rw [ha.txns_eq, List.filter_map]
    congr 1
    exact List.filter_congr fun e _ => decide_eq_decide.mpr Store.rowOf_deposit_iff
  rw [Store.deposits, hrows]
  refine mapM_eq_ok_iff.mpr (List.forall₂_map_left_iff.mpr (List.forall₂_map_right_iff.mpr
    (List.forall₂_same.mpr fun e he => ?_)))
  exact ha.toRecord_eq (List.mem_filter.mp he).1

theorem reads_none (ha : Account h secret s) (he : e ∈ h) (hunspent : Unspent h e) :
    Reads s.snapshot (openAll secret s.sealedNullifiers) e.record.leafIndex (.ok none) :=
  ⟨_, ha.lookup_eq he, ha.spentBy_eq_none hunspent⟩

theorem continues (ha : Account h secret s) (hw : w ∈ h) (he : e ∈ h) (hs : w.Spends e) :
    Continues s.snapshot (openAll secret s.sealedNullifiers) e.record.leafIndex
      e.note.amount.toNat w.record := by
  obtain ⟨hdraws, hlater⟩ := ha.history.draws ha.distinct hw he hs
  have hbalance := hdraws.balance
  refine ⟨⟨_, ha.lookup_eq he, ha.spentBy_eq_some hw hs⟩, UInt64.lt_iff_toNat_lt.mpr hlater, ?_⟩
  rw [cost]
  omega

theorem follow_eq (ha : Account h secret s) {last : Step} (hl : Leads h e last) (he : e ∈ h)
    (hunspent : Unspent h last) (hvalue : e.isDeposit ∨ e.note.amount ≠ 0) :
    follow s.snapshot (openAll secret s.sealedNullifiers) e.record.leafIndex e.note.amount =
      .ok (endOf last) := by
  induction hl using Relation.ReflTransGen.head_induction_on with
  | refl =>
    rw [(Stops.unspent (ha.reads_none he hunspent)).follow_eq, endOf, if_neg]
    rintro ⟨hdeposit, hnone⟩
    rcases hvalue with hvalue | hvalue
    · rw [hdeposit] at hvalue
      cases hvalue
    · exact hvalue hnone
  | @head e w hstep hrest ih =>
    obtain ⟨hw, hs⟩ := hstep
    obtain ⟨hdraws, -⟩ := ha.history.draws ha.distinct hw he hs
    have hcontinues := ha.continues hw he hs
    have hchange := rest_eq_zero_iff hcontinues.covered
    rw [hdraws.rest_eq] at hchange
    rw [hcontinues.follow_eq, hdraws.rest_eq]
    split
    case isFalse hleft => exact ih hw (.inr fun hnone => hleft (hchange.mp hnone))
    case isTrue hall =>
      -- Nothing can be drawn from a note without value, so the chain ends here.
      have hnone := hchange.mpr hall
      have hlast : w = last := by
        rcases Relation.ReflTransGen.cases_head hrest with hsame | ⟨w', ⟨hw', hs'⟩, -⟩
        · exact hsame
        · have hdraws' := (ha.history.draws ha.distinct hw' hw hs').1
          have hpositive := hdraws'.positive
          have hbalance := hdraws'.balance
          rw [hnone, UInt64.toNat_zero] at hbalance
          omega
      rw [← hlast, endOf, if_pos ⟨hs.isDeposit_eq, hnone⟩]

theorem ends_eq (ha : Account h secret s) {cs : List (Step × Step)} (hcs : Chains h cs) :
    Funds.ends s.snapshot (openAll secret s.sealedNullifiers) =
      .ok (cs.map fun c => (c.1.record.leafIndex, endOf c.2)) := by
  have hdeposits : s.snapshot.deposits = .ok (cs.map fun c => c.1.record) := by
    rw [show s.snapshot.deposits = s.deposits from rfl, ha.deposits_eq, ← hcs.deposits,
      List.map_map]
    rfl
  unfold Funds.ends
  rw [hdeposits]
  refine mapM_eq_ok_iff.mpr (List.forall₂_map_left_iff.mpr (List.forall₂_map_right_iff.mpr
    (List.forall₂_same.mpr fun c hc => ?_)))
  have hfirst : c.1 ∈ h.filter Step.isDeposit := by
    rw [← hcs.deposits]
    exact List.mem_map_of_mem hc
  obtain ⟨hmem, hdeposit⟩ := List.mem_filter.mp hfirst
  have hunspent := ((hcs.lasts c.2).mp (List.mem_map_of_mem hc)).2
  have hfollow := ha.follow_eq (hcs.leads c hc) hmem hunspent (.inl hdeposit)
  rw [← ha.history.amount hmem hdeposit, hfollow]
  rfl

end Account

end ShieldedPool.Funds
