import ShieldedPool.Withdrawal

namespace ShieldedPool

def Random.Source.ServesNote (source : Random.Source) : Prop :=
  source.fails source.draws = false ∧ source.fails (source.draws + 1) = false

theorem Note.generate_ok {amount : UInt64} {source : Random.Source} {n : Note}
    (h : (Note.generate amount source).1 = .ok n) : ∃ k r, n = { amount, k, r } := by
  unfold Note.generate at h
  split at h
  · cases h
  case h_2 k source' hk =>
    split at h
    · cases h
    case h_2 r source'' hr =>
      cases h
      exact ⟨k, r, rfl⟩

theorem Note.generate_of (amount : UInt64) {source : Random.Source} (h : source.ServesNote) :
    ∃ k r, (Note.generate amount source).1 = .ok { amount, k, r } := by
  obtain ⟨hfirst, hsecond⟩ := h
  simp [Note.generate, Random.Source.draw, hfirst, hsecond]

namespace Withdrawal

variable {p : FeePolicy} {amount rest : UInt64} {address : Address} {fromNote changeNote : Note}
  {source : Random.Source} {w : Withdrawal}

theorem deduction_eq (p : FeePolicy) (amount : UInt64) :
    deduction p amount = amount.toNat + (p.fee amount).toNat := rfl

theorem change_eq_ok_iff : change amount fromNote p = .ok rest ↔
    amount.toNat + (p.fee amount).toNat + rest.toNat = fromNote.amount.toNat := by
  have hnote := fromNote.amount.toNat_lt_size
  rw [← deduction_eq]
  by_cases hcovered : deduction p amount ≤ fromNote.amount.toNat
  case pos =>
    have htaken := UInt64.toNat_ofNat_of_lt' (Nat.lt_of_le_of_lt hcovered hnote)
    have hleft := UInt64.toNat_sub_of_le fromNote.amount (UInt64.ofNat (deduction p amount))
      (UInt64.le_iff_toNat_le.mpr (by rwa [htaken]))
    rw [htaken] at hleft
    simp only [change]
    rw [if_neg (by omega), if_neg (by omega), Except.ok.injEq, ← UInt64.toNat_inj, hleft]
    omega
  case neg =>
    have hnot : deduction p amount + rest.toNat ≠ fromNote.amount.toNat := by omega
    simp only [change, hnot, iff_false]
    intro h
    split at h
    · cases h
    · rw [if_pos (by omega)] at h
      cases h

theorem prepare_ok (h : (prepare amount address fromNote p source).1 = .ok w) :
    ∃ rest k r, change amount fromNote p = .ok rest ∧
      w = assemble amount address fromNote { amount := rest, k, r } p := by
  simp only [prepare, generateChange] at h
  cases hchange : change amount fromNote p with
  | error e => rw [hchange] at h; cases h
  | ok rest =>
    rw [hchange] at h
    dsimp only at h
    split at h
    · cases h
    case h_2 note source' hnote =>
      cases h
      obtain ⟨k, r, rfl⟩ := Note.generate_ok (congrArg Prod.fst hnote)
      exact ⟨rest, k, r, rfl, rfl⟩

theorem prepare_of (address : Address) (hsource : source.ServesNote)
    (hchange : change amount fromNote p = .ok rest) :
    ∃ k r, (prepare amount address fromNote p source).1 =
      .ok (assemble amount address fromNote { amount := rest, k, r } p) := by
  obtain ⟨k, r, hnote⟩ := Note.generate_of rest hsource
  refine ⟨k, r, ?_⟩
  simp only [prepare, generateChange, hchange]
  split
  case h_1 e source' he => rw [he] at hnote; cases hnote
  case h_2 note source' hn =>
    rw [hn] at hnote
    cases hnote
    rfl

theorem prepare_change_iff (address : Address) (hsource : source.ServesNote) :
    (∃ w, (prepare amount address fromNote p source).1 = .ok w ∧ w.changeNote.amount = rest) ↔
      amount.toNat + (p.fee amount).toNat + rest.toNat = fromNote.amount.toNat := by
  rw [← change_eq_ok_iff]
  constructor
  · rintro ⟨w, hw, rfl⟩
    obtain ⟨rest, k, r, hchange, rfl⟩ := prepare_ok hw
    exact hchange
  · intro hchange
    obtain ⟨k, r, hw⟩ := prepare_of address hsource hchange
    exact ⟨_, hw, rfl⟩

theorem exists_rest_iff : (∃ rest : UInt64,
    amount.toNat + (p.fee amount).toNat + rest.toNat = fromNote.amount.toNat) ↔
      amount.toNat + (p.fee amount).toNat ≤ fromNote.amount.toNat := by
  constructor
  · rintro ⟨rest, h⟩
    omega
  · intro h
    have hnote := fromNote.amount.toNat_lt_size
    refine ⟨UInt64.ofNat (fromNote.amount.toNat - (amount.toNat + (p.fee amount).toNat)), ?_⟩
    rw [UInt64.toNat_ofNat_of_lt' (by omega)]
    omega

theorem withChange_eq_ok_iff : withChange amount address fromNote changeNote p = .ok w ↔
    amount.toNat + (p.fee amount).toNat + changeNote.amount.toNat = fromNote.amount.toNat ∧
      w = assemble amount address fromNote changeNote p := by
  rw [← deduction_eq]
  simp only [withChange]
  constructor
  · intro h
    split at h
    · cases h
    · split at h
      · cases h
      case isFalse hbalanced =>
        cases h
        exact ⟨Decidable.not_not.mp hbalanced, rfl⟩
  · rintro ⟨hbalanced, rfl⟩
    have hnote := fromNote.amount.toNat_lt_size
    rw [hbalanced, if_neg (Nat.not_le.mpr hnote), if_neg (not_not_intro rfl)]

theorem subtract?_eq_some_iff {a b c : UInt64} :
    subtract? a b = some c ↔ b.toNat + c.toNat = a.toNat := by
  unfold subtract?
  split
  case isTrue hle =>
    have hdifference := UInt64.toNat_sub_of_le a b hle
    have hle := UInt64.le_iff_toNat_le.mp hle
    rw [Option.some.injEq, ← UInt64.toNat_inj]
    omega
  case isFalse hnot =>
    have hlt := UInt64.lt_iff_toNat_lt.mp (UInt64.not_le.mp hnot)
    constructor
    · intro h; cases h
    · intro h; omega

theorem preview_change_iff {noteAmount : UInt64} :
    (preview p noteAmount amount).change = some rest ↔
      amount.toNat + (p.fee amount).toNat + rest.toNat = noteAmount.toNat := by
  simp only [preview, Option.bind_eq_some_iff, subtract?_eq_some_iff]
  constructor
  · rintro ⟨left, hleft, hrest⟩
    omega
  · intro h
    have hnote := noteAmount.toNat_lt_size
    refine ⟨UInt64.ofNat ((p.fee amount).toNat + rest.toNat), ?_⟩
    rw [UInt64.toNat_ofNat_of_lt' (by omega)]
    omega

end Withdrawal

end ShieldedPool
