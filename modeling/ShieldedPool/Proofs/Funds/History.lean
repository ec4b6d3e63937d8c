import ShieldedPool.Funds
import ShieldedPool.Proofs.Store.Totals

namespace ShieldedPool.Funds

structure Step where
  record : TxnRecord
  note : Note
  leaf : note.leafIndex = record.leafIndex

namespace Step

def isDeposit (e : Step) : Bool := e.record.txnType = .deposit

def Spends (w e : Step) : Prop :=
  w.record.txnType = .withdrawal ∧ w.record.fromNullifier = some e.note.nullifier.bytes

structure Draws (w e : Step) : Prop where
  spends : w.Spends e
  positive : 0 < w.record.amount.toNat
  balance : w.record.amount.toNat + w.record.fee.toNat + w.note.amount.toNat = e.note.amount.toNat

theorem Spends.isDeposit_eq {w e : Step} (h : w.Spends e) : w.isDeposit = false := by
  rw [isDeposit, h.1]
  rfl

theorem Spends.bytes_eq {w e e' : Step} (h : w.Spends e) (h' : w.Spends e') :
    e.note.nullifier.bytes = e'.note.nullifier.bytes :=
  Option.some.inj (h.2.symm.trans h'.2)

end Step

def Unspent (h : List Step) (e : Step) : Prop := ∀ w ∈ h, ¬ w.Spends e

inductive Follows (h : List Step) (e : Step) : Prop
  | deposit : e.record.txnType = .deposit → e.note.amount = e.record.amount → Follows h e
  | withdrawal {source : Step} : source ∈ h → Unspent h source → e.Draws source → Follows h e

inductive History : List Step → Prop
  | start : History []
  | step {h : List Step} {e : Step} :
      History h → e.record.leafIndex.toNat = h.length → Follows h e → History (h ++ [e])

def Distinct (h : List Step) : Prop := (h.map fun e => e.note.nullifier).Nodup

def Leads (h : List Step) : Step → Step → Prop :=
  Relation.ReflTransGen fun e w => w ∈ h ∧ w.Spends e

def total (key : String) (h : List Step) : Nat := (h.map fun e => Store.share key e.record).sum

section Append

variable {h : List Step} {e w : Step}

theorem unspent_append : Unspent (h ++ [e]) w ↔ Unspent h w ∧ ¬ e.Spends w := by
  rw [Unspent, List.forall_mem_append, List.forall_mem_singleton, Unspent]

theorem Leads.append (hl : Leads h e w) (e' : Step) : Leads (h ++ [e']) e w :=
  Relation.ReflTransGen.mono (fun _ _ hs => ⟨List.mem_append_left _ hs.1, hs.2⟩) _ _ hl

theorem total_append (key : String) :
    total key (h ++ [e]) = total key h + Store.share key e.record := by
  rw [total, List.map_append, List.sum_append, List.map_singleton, List.sum_singleton, total]

theorem Distinct.eq (hd : Distinct h) (he : e ∈ h) (hw : w ∈ h)
    (heq : e.note.nullifier.bytes = w.note.nullifier.bytes) : e = w :=
  List.inj_on_of_nodup_map hd he hw (Block.eq_of_bytes_eq heq)

theorem Distinct.spends_iff {e' : Step} (hd : Distinct h) (he : e ∈ h) (he' : e' ∈ h)
    (hs : w.Spends e) : w.Spends e' ↔ e' = e := by
  constructor
  · intro hs'
    exact hd.eq he' he (hs'.bytes_eq hs)
  · rintro rfl
    exact hs

theorem Distinct.of_append (hd : Distinct (h ++ [e])) : Distinct h := by
  rw [Distinct, List.map_append] at hd
  exact hd.of_append_left

theorem Distinct.not_mem (hd : Distinct (h ++ [e])) : e ∉ h := by
  intro he
  rw [Distinct, List.map_append] at hd
  exact List.disjoint_of_nodup_append hd (List.mem_map_of_mem he) (List.mem_singleton.mpr rfl)

end Append

theorem Follows.unspent {h : List Step} {w e : Step} (hf : Follows h w) (hs : w.Spends e) :
    Unspent h e := by
  cases hf with
  | deposit hdeposit _ =>
    rw [hs.1] at hdeposit
    cases hdeposit
  | withdrawal _ hunspent hdraws =>
    intro w' hw' hs'
    refine hunspent w' hw' ⟨hs'.1, ?_⟩
    rw [hdraws.spends.bytes_eq hs]
    exact hs'.2

namespace History

variable {h : List Step} {e w w' : Step}

theorem leaves (hh : History h) : h.map (·.record.leafIndex.toNat) = List.range h.length := by
  induction hh with
  | start => rfl
  | step _ hleaf _ ih =>
    rw [List.map_append, ih, List.length_append, List.length_singleton, List.range_succ, ← hleaf]
    rfl

theorem leaf_lt (hh : History h) (he : e ∈ h) : e.record.leafIndex.toNat < h.length := by
  have hmem := List.mem_map_of_mem (f := (·.record.leafIndex.toNat)) he
  rw [hh.leaves] at hmem
  exact List.mem_range.mp hmem

theorem amount (hh : History h) (he : e ∈ h) (hdeposit : e.isDeposit) :
    e.note.amount = e.record.amount := by
  induction hh with
  | start => cases he
  | step _ _ hf ih =>
    rcases List.mem_append.mp he with he | he
    · exact ih he
    · cases List.mem_singleton.mp he
      cases hf with
      | deposit _ hamount => exact hamount
      | withdrawal _ _ hdraws =>
        rw [hdraws.spends.isDeposit_eq] at hdeposit
        cases hdeposit

theorem source (hh : History h) (hw : w ∈ h) (htype : w.record.txnType = .withdrawal) :
    ∃ source ∈ h, w.Draws source ∧ source.record.leafIndex.toNat < w.record.leafIndex.toNat := by
  induction hh with
  | start => cases hw
  | step hh hleaf hf ih =>
    rcases List.mem_append.mp hw with hw | hw
    · obtain ⟨source, hs, hdraws⟩ := ih hw
      exact ⟨source, List.mem_append_left _ hs, hdraws⟩
    · cases List.mem_singleton.mp hw
      cases hf with
      | deposit hdeposit _ =>
        rw [hdeposit] at htype
        cases htype
      | withdrawal hs _ hdraws =>
        refine ⟨_, List.mem_append_left _ hs, hdraws, ?_⟩
        rw [hleaf]
        exact hh.leaf_lt hs

theorem draws (hh : History h) (hd : Distinct h) (hw : w ∈ h) (he : e ∈ h) (hs : w.Spends e) :
    w.Draws e ∧ e.record.leafIndex.toNat < w.record.leafIndex.toNat := by
  obtain ⟨source, hsource, hdraws, hlt⟩ := hh.source hw hs.1
  have hsame : source = e := hd.eq hsource he (hdraws.spends.bytes_eq hs)
  rw [← hsame]
  exact ⟨hdraws, hlt⟩

theorem spender_unique (hh : History h) (hw : w ∈ h) (hw' : w' ∈ h) (hs : w.Spends e)
    (hs' : w'.Spends e) : w = w' := by
  induction hh with
  | start => cases hw
  | step _ _ hf ih =>
    rw [List.mem_append, List.mem_singleton] at hw hw'
    rcases hw with hw | rfl
    · rcases hw' with hw' | rfl
      · exact ih hw hw'
      · exact absurd hs (hf.unspent hs' w hw)
    · rcases hw' with hw' | rfl
      · exact absurd hs' (hf.unspent hs w' hw')
      · rfl

theorem unspent_new (hh : History h) (hd : Distinct (h ++ [e])) : Unspent h e := by
  intro w hw hs
  obtain ⟨source, hsource, hdraws, -⟩ := hh.source hw hs.1
  have hsame : source = e :=
    hd.eq (List.mem_append_left _ hsource) List.mem_concat_self
      (hdraws.spends.bytes_eq hs)
  exact hd.not_mem (hsame ▸ hsource)

end History

structure Chains (h : List Step) (cs : List (Step × Step)) : Prop where
  deposits : cs.map Prod.fst = h.filter Step.isDeposit
  leads : ∀ c ∈ cs, Leads h c.1 c.2
  lasts : ∀ e, e ∈ cs.map Prod.snd ↔ e ∈ h ∧ Unspent h e
  nodup : (cs.map Prod.snd).Nodup
  balance : (cs.map fun c => c.2.note.amount.toNat).sum + total "total_withdrawals" h +
    total "total_fees" h = total "total_deposits" h

namespace Chains

variable {h : List Step} {cs : List (Step × Step)} {e : Step}

theorem start : Chains [] [] where
  deposits := rfl
  leads := by intro c hc; cases hc
  lasts := by simp
  nodup := .nil
  balance := rfl

theorem deposit (hcs : Chains h cs) (hh : History h) (hd : Distinct (h ++ [e]))
    (htype : e.record.txnType = .deposit) (hamount : e.note.amount = e.record.amount) :
    Chains (h ++ [e]) (cs ++ [(e, e)]) where
  deposits := by
    have he : [e].filter Step.isDeposit = [e] := by simp [Step.isDeposit, htype]
    rw [List.map_append, hcs.deposits, List.filter_append, he]
    rfl
  leads := by
    rw [List.forall_mem_append, List.forall_mem_singleton]
    exact ⟨fun c hc => (hcs.leads c hc).append e, Relation.ReflTransGen.refl⟩
  lasts := by
    intro x
    have hspends : ¬ e.Spends x := by
      rintro ⟨hwithdrawal, -⟩
      rw [htype] at hwithdrawal
      cases hwithdrawal
    have hnew := hh.unspent_new hd
    rw [List.map_append, List.mem_append, hcs.lasts, unspent_append, List.mem_append,
      List.map_singleton, List.mem_singleton]
    constructor
    · rintro (⟨hx, hunspent⟩ | rfl)
      · exact ⟨.inl hx, hunspent, hspends⟩
      · exact ⟨.inr rfl, hnew, hspends⟩
    · rintro ⟨hx | rfl, hunspent, -⟩
      · exact .inl ⟨hx, hunspent⟩
      · exact .inr rfl
  nodup := by
    rw [List.map_append]
    refine List.nodup_append.mpr ⟨hcs.nodup, List.nodup_singleton e, ?_⟩
    rintro x hx y hy rfl
    cases List.mem_singleton.mp hy
    exact hd.not_mem ((hcs.lasts _).mp hx).1
  balance := by
    have hbalance := hcs.balance
    have hshare : Store.share "total_withdrawals" e.record = 0 ∧
        Store.share "total_fees" e.record = 0 ∧
        Store.share "total_deposits" e.record = e.note.amount.toNat := by
      simp [Store.share, htype, hamount]
    rw [List.map_append, List.sum_append, total_append, total_append, total_append, hshare.1,
      hshare.2.1, hshare.2.2]
    simp only [List.map_singleton, List.sum_singleton]
    omega

theorem perm_lasts (before after : List (Step × Step)) (d e : Step) :
    ((before ++ (d, e) :: after).map Prod.snd).Perm (e :: (before ++ after).map Prod.snd) :=
  List.perm_middle.map Prod.snd

theorem mem_others {before after : List (Step × Step)} {d source x : Step}
    (hcs : Chains h (before ++ (d, source) :: after)) :
    x ∈ (before ++ after).map Prod.snd ↔ (x ∈ h ∧ Unspent h x) ∧ x ≠ source := by
  have hperm := perm_lasts before after d source
  have hfresh : source ∉ (before ++ after).map Prod.snd :=
    (List.nodup_cons.mp (hperm.nodup_iff.mp hcs.nodup)).1
  rw [← hcs.lasts, hperm.mem_iff, List.mem_cons]
  constructor
  · intro hx
    exact ⟨.inr hx, fun heq => hfresh (heq ▸ hx)⟩
  · rintro ⟨heq | hx, hne⟩
    · exact absurd heq hne
    · exact hx

theorem withdrawal {before after : List (Step × Step)} {d source : Step}
    (hcs : Chains h (before ++ (d, source) :: after)) (hh : History h) (hd : Distinct (h ++ [e]))
    (hs : source ∈ h) (hdraws : e.Draws source) :
    Chains (h ++ [e]) (before ++ (d, e) :: after) where
  deposits := by
    have he : [e].filter Step.isDeposit = [] := by simp [hdraws.spends.isDeposit_eq]
    rw [List.filter_append, he, List.append_nil, ← hcs.deposits, List.map_append, List.map_append]
    rfl
  leads := by
    have hold : ∀ c ∈ before ++ (d, source) :: after, Leads (h ++ [e]) c.1 c.2 :=
      fun c hc => (hcs.leads c hc).append e
    rw [List.forall_mem_append, List.forall_mem_cons] at hold ⊢
    have hlast : e ∈ h ++ [e] := List.mem_concat_self
    exact ⟨hold.1, hold.2.1.tail ⟨hlast, hdraws.spends⟩, hold.2.2⟩
  lasts := by
    intro x
    have hspends {y : Step} (hy : y ∈ h ++ [e]) : e.Spends y ↔ y = source :=
      hd.spends_iff (List.mem_append_left _ hs) hy hdraws.spends
    have hnew : e ≠ source := fun heq => hd.not_mem (heq ▸ hs)
    rw [(perm_lasts before after d e).mem_iff, List.mem_cons, hcs.mem_others, unspent_append,
      List.mem_append, List.mem_singleton]
    constructor
    · rintro (rfl | ⟨⟨hx, hunspent⟩, hne⟩)
      · exact ⟨.inr rfl, hh.unspent_new hd, fun hsx => hnew ((hspends List.mem_concat_self).mp hsx)⟩
      · exact ⟨.inl hx, hunspent, fun hsx => hne ((hspends (List.mem_append_left _ hx)).mp hsx)⟩
    · rintro ⟨hx | rfl, hunspent, hkept⟩
      · exact .inr ⟨⟨hx, hunspent⟩, fun heq =>
          hkept ((hspends (List.mem_append_left _ hx)).mpr heq)⟩
      · exact .inl rfl
  nodup := by
    have hold := (perm_lasts before after d source).nodup_iff.mp hcs.nodup
    have hnew : e ∉ (before ++ after).map Prod.snd := by
      intro he
      exact hd.not_mem (hcs.mem_others.mp he).1.1
    exact (perm_lasts before after d e).nodup_iff.mpr
      (List.nodup_cons.mpr ⟨hnew, (List.nodup_cons.mp hold).2⟩)
  balance := by
    have hbalance := hcs.balance
    have hvalue := hdraws.balance
    have hshare : Store.share "total_deposits" e.record = 0 ∧
        Store.share "total_withdrawals" e.record = e.record.amount.toNat ∧
        Store.share "total_fees" e.record = e.record.fee.toNat := by
      simp [Store.share, hdraws.spends.1]
    rw [total_append, total_append, total_append, hshare.1, hshare.2.1, hshare.2.2]
    simp only [List.map_append, List.map_cons, List.sum_append, List.sum_cons] at hbalance ⊢
    omega

end Chains

theorem History.chains {h : List Step} (hh : History h) (hd : Distinct h) : ∃ cs, Chains h cs := by
  induction hh with
  | start => exact ⟨[], Chains.start⟩
  | step hh _ hf ih =>
    obtain ⟨cs, hcs⟩ := ih hd.of_append
    cases hf with
    | deposit htype hamount => exact ⟨_, hcs.deposit hh hd htype hamount⟩
    | @withdrawal source hs hunspent hdraws =>
      obtain ⟨c, hc, rfl⟩ := List.mem_map.mp ((hcs.lasts source).mpr ⟨hs, hunspent⟩)
      obtain ⟨before, after, rfl⟩ := List.append_of_mem hc
      exact ⟨_, hcs.withdrawal hh hd hs hdraws⟩

end ShieldedPool.Funds
