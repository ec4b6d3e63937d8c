import ShieldedPool.Funds

namespace ShieldedPool.Funds

def cost (w : TxnRecord) : Nat := w.amount.toNat + w.fee.toNat

def spent : List TxnRecord → Nat
  | [] => 0
  | w :: ws => cost w + spent ws

def lastLeaf (leaf : UInt64) : List TxnRecord → UInt64
  | [] => leaf
  | w :: ws => lastLeaf w.leafIndex ws

section Chain

variable (s : Store.Snapshot) (opened : Opened)

def Reads (leaf : UInt64) (answer : Except StoreError (Option TxnRecord)) : Prop :=
  ∃ nullifier, opened.lookup leaf = some (some nullifier) ∧ s.spentBy nullifier = answer

structure Continues (leaf : UInt64) (value : Nat) (w : TxnRecord) : Prop where
  spends : Reads s opened leaf (.ok (some w))
  later : leaf < w.leafIndex
  covered : cost w ≤ value

def Linked : UInt64 → Nat → List TxnRecord → Prop
  | _, _, [] => True
  | leaf, value, w :: ws =>
    Continues s opened leaf value w ∧ (ws ≠ [] → cost w ≠ value) ∧
      Linked w.leafIndex (value - cost w) ws

structure Maximal (leaf : UInt64) (value : Nat) (ws : List TxnRecord) : Prop where
  linked : Linked s opened leaf value ws
  stops : ∀ w, ¬ Linked s opened leaf value (ws ++ [w])

def Breaks (leaf : UInt64) (value : Nat) : ChainFault → Prop
  | .unreadable => ∀ nullifier, opened.lookup leaf ≠ some (some nullifier)
  | .precedes => ∃ w, Reads s opened leaf (.ok (some w)) ∧ w.leafIndex ≤ leaf
  | .exceeds => ∃ w, Reads s opened leaf (.ok (some w)) ∧ leaf < w.leafIndex ∧ value < cost w

inductive Stops (leaf amount : UInt64) : Except StoreError ChainEnd → Prop
  | failed {e : StoreError} : Reads s opened leaf (.error e) → Stops leaf amount (.error e)
  | unspent : Reads s opened leaf (.ok none) → Stops leaf amount (.ok (.unspent leaf amount))
  | broken (fault : ChainFault) :
    Breaks s opened leaf amount.toNat fault → Stops leaf amount (.ok (.broken leaf fault))

end Chain

variable {s : Store.Snapshot} {opened : Opened} {leaf amount : UInt64} {value : Nat}
  {w : TxnRecord} {ws : List TxnRecord}

section Follow

def rest (amount : UInt64) (taken : Nat) : UInt64 := UInt64.ofNat (amount.toNat - taken)

theorem toNat_rest (amount : UInt64) (taken : Nat) :
    (rest amount taken).toNat = amount.toNat - taken := by
  have hsize := amount.toNat_lt_size
  exact UInt64.toNat_ofNat_of_lt' (by omega)

theorem rest_eq_zero_iff {taken : Nat} (h : taken ≤ amount.toNat) :
    rest amount taken = 0 ↔ taken = amount.toNat := by
  rw [← UInt64.toNat_inj, toNat_rest, UInt64.toNat_zero]
  omega

theorem rest_rest (amount : UInt64) (a b : Nat) : rest (rest amount a) b = rest amount (a + b) := by
  rw [rest, toNat_rest, Nat.sub_sub, ← rest]

theorem remainder_eq (amount : UInt64) (w : TxnRecord) : remainder amount w =
    if cost w ≤ amount.toNat then some (rest amount (cost w)) else none := rfl

def answered (s : Store.Snapshot) (opened : Opened) (leaf amount : UInt64) :
    Except StoreError (Option TxnRecord) → Except StoreError ChainEnd
  | .error e => .error e
  | .ok none => .ok (.unspent leaf amount)
  | .ok (some w) =>
    if w.leafIndex ≤ leaf then .ok (.broken leaf .precedes)
    else
      match remainder amount w with
      | none => .ok (.broken leaf .exceeds)
      | some change =>
        if change = 0 then .ok .exhausted else follow s opened w.leafIndex change

theorem Reads.unique {a b : Except StoreError (Option TxnRecord)} (ha : Reads s opened leaf a)
    (hb : Reads s opened leaf b) : a = b := by
  obtain ⟨n, hn, rfl⟩ := ha
  obtain ⟨m, hm, rfl⟩ := hb
  rw [hn] at hm
  cases hm
  rfl

theorem follow_of_reads {answer : Except StoreError (Option TxnRecord)}
    (h : Reads s opened leaf answer) :
    follow s opened leaf amount = answered s opened leaf amount answer := by
  obtain ⟨nullifier, hopen, rfl⟩ := h
  unfold follow answered
  rw [hopen]
  dsimp only
  cases s.spentBy nullifier with
  | error e => rfl
  | ok found => cases found <;> rfl

theorem Stops.follow_eq {r : Except StoreError ChainEnd} (h : Stops s opened leaf amount r) :
    follow s opened leaf amount = r := by
  cases h with
  | failed h => exact follow_of_reads h
  | unspent h => exact follow_of_reads h
  | broken fault h =>
    cases fault with
    | unreadable =>
      unfold follow
      split
      case h_1 nullifier hopen => exact absurd hopen (h nullifier)
      case h_2 => rfl
    | precedes =>
      obtain ⟨w, hw, hle⟩ := h
      rw [follow_of_reads hw, answered, if_pos hle]
    | exceeds =>
      obtain ⟨w, hw, hlater, hless⟩ := h
      rw [follow_of_reads hw, answered, if_neg (UInt64.not_le.mpr hlater), remainder_eq,
        if_neg (Nat.not_le.mpr hless)]

theorem Continues.follow_eq (h : Continues s opened leaf amount.toNat w) :
    follow s opened leaf amount =
      if cost w = amount.toNat then .ok .exhausted
      else follow s opened w.leafIndex (rest amount (cost w)) := by
  rw [follow_of_reads h.spends, answered, if_neg (UInt64.not_le.mpr h.later), remainder_eq,
    if_pos h.covered]
  simp only [rest_eq_zero_iff h.covered]

theorem Continues.unique {u : TxnRecord} (hw : Continues s opened leaf value w)
    (hu : Continues s opened leaf value u) : w = u := by
  cases hw.spends.unique hu.spends
  rfl

theorem continues_or_stops (s : Store.Snapshot) (opened : Opened) (leaf amount : UInt64) :
    (∃ w, Continues s opened leaf amount.toNat w) ∨ ∃ r, Stops s opened leaf amount r := by
  by_cases hopen : ∃ nullifier, opened.lookup leaf = some (some nullifier)
  case neg => exact .inr ⟨_, .broken .unreadable fun n hn => hopen ⟨n, hn⟩⟩
  case pos =>
    obtain ⟨nullifier, hopen⟩ := hopen
    cases hread : s.spentBy nullifier with
    | error e => exact .inr ⟨_, .failed ⟨nullifier, hopen, hread⟩⟩
    | ok found =>
      have hreads : Reads s opened leaf (.ok found) := ⟨nullifier, hopen, hread⟩
      cases found with
      | none => exact .inr ⟨_, .unspent hreads⟩
      | some w =>
        rcases UInt64.le_or_lt w.leafIndex leaf with hle | hlater
        · exact .inr ⟨_, .broken .precedes ⟨w, hreads, hle⟩⟩
        · rcases Nat.lt_or_ge amount.toNat (cost w) with hless | hcovered
          · exact .inr ⟨_, .broken .exceeds ⟨w, hreads, hlater, hless⟩⟩
          · exact .inl ⟨w, hreads, hlater, hcovered⟩

end Follow

section Maximal

theorem maximal_nil : Maximal s opened leaf value [] ↔ ∀ w, ¬ Continues s opened leaf value w := by
  constructor
  · intro h w hw
    exact h.stops w ⟨hw, fun hne => absurd rfl hne, trivial⟩
  · intro h
    exact ⟨trivial, fun w hw => h w hw.1⟩

theorem maximal_cons : Maximal s opened leaf value (w :: ws) ↔
    Continues s opened leaf value w ∧
      if cost w = value then ws = [] else Maximal s opened w.leafIndex (value - cost w) ws := by
  constructor
  · rintro ⟨⟨hw, hvalue, hlinked⟩, hstops⟩
    refine ⟨hw, ?_⟩
    split
    case isTrue hspent => exact Decidable.not_not.mp fun hne => hvalue hne hspent
    case isFalse hleft => exact ⟨hlinked, fun u hu => hstops u ⟨hw, fun _ => hleft, hu⟩⟩
  · rintro ⟨hw, hrest⟩
    split at hrest
    case isTrue hspent =>
      subst hrest
      exact ⟨⟨hw, fun hne => absurd rfl hne, trivial⟩, fun u hu =>
        hu.2.1 (List.cons_ne_nil u []) hspent⟩
    case isFalse hleft =>
      exact ⟨⟨hw, fun _ => hleft, hrest.linked⟩, fun u hu => hrest.stops u hu.2.2⟩

theorem exists_maximal (s : Store.Snapshot) (opened : Opened) (leaf : UInt64) (value : Nat) :
    ∃ ws, Maximal s opened leaf value ws := by
  -- The leaves rise, so there is a last one.
  induction hn : UInt64.size - leaf.toNat using Nat.strongRecOn generalizing leaf value with
  | ind n ih =>
    by_cases hnext : ∃ w, Continues s opened leaf value w
    case neg => exact ⟨[], maximal_nil.mpr fun w hw => hnext ⟨w, hw⟩⟩
    case pos =>
      obtain ⟨w, hw⟩ := hnext
      by_cases hspent : cost w = value
      case pos => exact ⟨[w], maximal_cons.mpr ⟨hw, by rw [if_pos hspent]⟩⟩
      case neg =>
        have hcloser := above_measure (UInt64.not_le.mpr hw.later)
        obtain ⟨ws, hws⟩ := ih _ (hn ▸ hcloser) w.leafIndex (value - cost w) rfl
        exact ⟨w :: ws, maximal_cons.mpr ⟨hw, by rwa [if_neg hspent]⟩⟩

theorem Maximal.unique {us : List TxnRecord} (hw : Maximal s opened leaf value ws)
    (hu : Maximal s opened leaf value us) : ws = us := by
  induction ws generalizing leaf value us with
  | nil =>
    cases us with
    | nil => rfl
    | cons u us => exact absurd (maximal_cons.mp hu).1 (maximal_nil.mp hw u)
  | cons w ws ih =>
    cases us with
    | nil => exact absurd (maximal_cons.mp hw).1 (maximal_nil.mp hu w)
    | cons u us =>
      obtain ⟨hwc, hwrest⟩ := maximal_cons.mp hw
      obtain ⟨huc, hurest⟩ := maximal_cons.mp hu
      cases hwc.unique huc
      split at hwrest
      case isTrue hspent =>
        rw [if_pos hspent] at hurest
        rw [hwrest, hurest]
      case isFalse hleft =>
        rw [if_neg hleft] at hurest
        rw [ih hwrest hurest]

theorem Linked.spent_le (h : Linked s opened leaf value ws) : spent ws ≤ value := by
  induction ws generalizing leaf value with
  | nil => exact Nat.zero_le _
  | cons w ws ih =>
    obtain ⟨hw, -, hrest⟩ := h
    have hcovered := hw.covered
    have hle := ih hrest
    rw [spent]
    omega

theorem Linked.ascending (h : Linked s opened leaf value ws) :
    (leaf :: ws.map (·.leafIndex)).Pairwise (· < ·) := by
  induction ws generalizing leaf value with
  | nil => exact List.pairwise_singleton ..
  | cons w ws ih =>
    obtain ⟨hw, -, hrest⟩ := h
    have hlater := ih hrest
    refine List.pairwise_cons.mpr ⟨?_, hlater⟩
    intro next hnext
    rcases List.mem_cons.mp hnext with rfl | hnext
    · exact hw.later
    · exact UInt64.lt_trans hw.later ((List.pairwise_cons.mp hlater).1 next hnext)

theorem Maximal.follow_eq (h : Maximal s opened leaf amount.toNat ws) :
    (ws ≠ [] ∧ spent ws = amount.toNat ∧ follow s opened leaf amount = .ok .exhausted) ∨
      (ws ≠ [] → spent ws ≠ amount.toNat) ∧
        Stops s opened (lastLeaf leaf ws) (rest amount (spent ws))
          (follow s opened leaf amount) := by
  induction ws generalizing leaf amount with
  | nil =>
    rcases continues_or_stops s opened leaf amount with ⟨w, hw⟩ | ⟨r, hr⟩
    · exact absurd hw (maximal_nil.mp h w)
    · have hall : rest amount (spent []) = amount := UInt64.ofNat_toNat
      rw [hr.follow_eq, hall]
      exact .inr ⟨fun hne => absurd rfl hne, hr⟩
  | cons w ws ih =>
    obtain ⟨hw, hrest⟩ := maximal_cons.mp h
    have hcovered := hw.covered
    rw [hw.follow_eq, spent]
    split at hrest
    case isTrue hspent =>
      subst hrest
      rw [if_pos hspent]
      exact .inl ⟨List.cons_ne_nil w [], hspent, rfl⟩
    case isFalse hleft =>
      rw [← toNat_rest] at hrest
      rw [if_neg hleft, ← rest_rest]
      rcases ih hrest with ⟨hne, hall, hfollow⟩ | ⟨hsome, hstops⟩
      · rw [toNat_rest] at hall
        exact .inl ⟨List.cons_ne_nil w ws, by omega, hfollow⟩
      · refine .inr ⟨fun _ hall => ?_, hstops⟩
        rw [toNat_rest] at hsome
        by_cases hws : ws = []
        case pos =>
          subst hws
          exact hleft hall
        case neg => exact hsome hws (by omega)

theorem Maximal.answer_iff (h : Maximal s opened leaf amount.toNat ws)
    (r : Except StoreError ChainEnd) : follow s opened leaf amount = r ↔
      (r = .ok .exhausted ∧ ws ≠ [] ∧ spent ws = amount.toNat) ∨
        (ws ≠ [] → spent ws ≠ amount.toNat) ∧
          Stops s opened (lastLeaf leaf ws) (rest amount (spent ws)) r := by
  constructor
  · rintro rfl
    rcases h.follow_eq with ⟨hne, hall, hfollow⟩ | hstops
    · exact .inl ⟨hfollow, hne, hall⟩
    · exact .inr hstops
  · rintro (⟨rfl, hne, hall⟩ | ⟨hsome, hstops⟩)
    · rcases h.follow_eq with ⟨-, -, hfollow⟩ | ⟨hsome, -⟩
      · exact hfollow
      · exact absurd hall (hsome hne)
    · rcases h.follow_eq with ⟨hne, hall, -⟩ | ⟨-, hstops'⟩
      · exact absurd hall (hsome hne)
      · exact hstops'.follow_eq.symm.trans hstops.follow_eq

theorem Maximal.unspent_iff (h : Maximal s opened leaf amount.toNat ws) (l u : UInt64) :
    follow s opened leaf amount = .ok (.unspent l u) ↔
      l = lastLeaf leaf ws ∧ u.toNat + spent ws = amount.toNat ∧ (ws ≠ [] → u ≠ 0) ∧
        Reads s opened l (.ok none) := by
  have hle := h.linked.spent_le
  rw [h.answer_iff]
  constructor
  · rintro (⟨hend, -⟩ | ⟨hsome, hstops⟩)
    · cases hend
    · cases hstops with
      | unspent hreads =>
        refine ⟨rfl, ?_, fun hne hzero => hsome hne ((rest_eq_zero_iff hle).mp hzero), hreads⟩
        rw [toNat_rest]
        exact Nat.sub_add_cancel hle
  · rintro ⟨rfl, hsum, hsome, hreads⟩
    have hrest : u = rest amount (spent ws) := UInt64.toNat_inj.mp (by rw [toNat_rest]; omega)
    rw [hrest] at hsome ⊢
    exact .inr ⟨fun hne hall => hsome hne ((rest_eq_zero_iff hle).mpr hall), .unspent hreads⟩

theorem Maximal.exhausted_iff (h : Maximal s opened leaf amount.toNat ws) :
    follow s opened leaf amount = .ok .exhausted ↔ ws ≠ [] ∧ spent ws = amount.toNat := by
  rw [h.answer_iff]
  constructor
  · rintro (⟨-, hall⟩ | ⟨-, hstops⟩)
    · exact hall
    · cases hstops
  · exact fun hall => .inl ⟨rfl, hall⟩

theorem Maximal.broken_iff (h : Maximal s opened leaf amount.toNat ws) (l : UInt64)
    (fault : ChainFault) : follow s opened leaf amount = .ok (.broken l fault) ↔
      l = lastLeaf leaf ws ∧ (ws ≠ [] → spent ws ≠ amount.toNat) ∧
        Breaks s opened l (amount.toNat - spent ws) fault := by
  rw [h.answer_iff, ← toNat_rest]
  constructor
  · rintro (⟨hend, -⟩ | ⟨hsome, hstops⟩)
    · cases hend
    · cases hstops with
      | broken fault hbreaks => exact ⟨rfl, hsome, hbreaks⟩
  · rintro ⟨rfl, hsome, hbreaks⟩
    exact .inr ⟨hsome, .broken fault hbreaks⟩

theorem Maximal.failed_iff (h : Maximal s opened leaf amount.toNat ws) (e : StoreError) :
    follow s opened leaf amount = .error e ↔
      (ws ≠ [] → spent ws ≠ amount.toNat) ∧ Reads s opened (lastLeaf leaf ws) (.error e) := by
  rw [h.answer_iff]
  constructor
  · rintro (⟨hend, -⟩ | ⟨hsome, hstops⟩)
    · cases hend
    · cases hstops with
      | failed hreads => exact ⟨hsome, hreads⟩
  · rintro ⟨hsome, hreads⟩
    exact .inr ⟨hsome, .failed hreads⟩

end Maximal

theorem Store.spentBy_eq_none_iff (t : Store) (nullifier : Bytes) :
    t.snapshot.spentBy nullifier = .ok none ↔
      ∀ row ∈ t.txns, ¬ (row.txnType = 1 ∧ row.fromNullifier = some nullifier) := by
  change t.spentBy nullifier = .ok none ↔ _
  unfold Store.spentBy
  cases hfound : t.txns.find? fun row => row.txnType = 1 ∧ row.fromNullifier = some nullifier with
  | none => simpa using hfound
  | some row =>
    have hspends : row.txnType = 1 ∧ row.fromNullifier = some nullifier := by
      simpa using List.find?_some hfound
    have hmem := List.mem_of_find?_eq_some hfound
    constructor
    · intro h
      cases hread : row.toRecord <;> simp [hread, Except.map] at h
    · intro h
      exact absurd hspends (h row hmem)

theorem follow_determined (s : Store.Snapshot) (opened : Opened) (d : TxnRecord) :
    (∃ ws, Maximal s opened d.leafIndex d.amount.toNat ws ∧
      (∀ us, Maximal s opened d.leafIndex d.amount.toNat us → us = ws) ∧
      (d.leafIndex :: ws.map (·.leafIndex)).Pairwise (· < ·) ∧ spent ws ≤ d.amount.toNat ∧
      (∀ leaf amount, follow s opened d.leafIndex d.amount = .ok (.unspent leaf amount) ↔
        leaf = lastLeaf d.leafIndex ws ∧ amount.toNat + spent ws = d.amount.toNat ∧
          (ws ≠ [] → amount ≠ 0) ∧ Reads s opened leaf (.ok none)) ∧
      (follow s opened d.leafIndex d.amount = .ok .exhausted ↔
        ws ≠ [] ∧ spent ws = d.amount.toNat) ∧
      (∀ leaf fault, follow s opened d.leafIndex d.amount = .ok (.broken leaf fault) ↔
        leaf = lastLeaf d.leafIndex ws ∧ (ws ≠ [] → spent ws ≠ d.amount.toNat) ∧
          Breaks s opened leaf (d.amount.toNat - spent ws) fault) ∧
      ∀ e, follow s opened d.leafIndex d.amount = .error e ↔
        (ws ≠ [] → spent ws ≠ d.amount.toNat) ∧
          Reads s opened (lastLeaf d.leafIndex ws) (.error e)) ∧
    ∀ (t : Store) (nullifier : Bytes), t.snapshot.spentBy nullifier = .ok none ↔
      ∀ row ∈ t.txns, ¬ (row.txnType = 1 ∧ row.fromNullifier = some nullifier) := by
  obtain ⟨ws, hws⟩ := exists_maximal s opened d.leafIndex d.amount.toNat
  exact ⟨⟨ws, hws, fun us hus => hus.unique hws, hws.linked.ascending, hws.linked.spent_le,
    hws.unspent_iff, hws.exhausted_iff, hws.broken_iff, hws.failed_iff⟩,
    Store.spentBy_eq_none_iff⟩

end ShieldedPool.Funds
