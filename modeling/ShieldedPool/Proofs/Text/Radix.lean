import ShieldedPool.Proofs.Text.Utf8
import ShieldedPool.Text.Radix

namespace ShieldedPool.Text

namespace Radix

section Bits

theorem length_bitsOf (k n : Nat) : (bitsOf k n).length = k := by
  induction k with
  | zero => rfl
  | succ k ih => rw [bitsOf, List.length_cons, ih]

theorem ofBits_snoc (bs : List Bool) (b : Bool) : ofBits (bs ++ [b]) = 2 * ofBits bs + b.toNat := by
  rw [ofBits, List.foldl_append]
  rfl

theorem bitsOf_snoc (k n : Nat) : bitsOf (k + 1) n = bitsOf k (n / 2) ++ [n.testBit 0] := by
  induction k with
  | zero => rfl
  | succ k ih => rw [bitsOf, ih, bitsOf, Nat.testBit_succ, List.cons_append]

theorem toNat_testBit_zero (n : Nat) : (n.testBit 0).toNat = n % 2 := by
  rw [Nat.testBit_zero]
  rcases Nat.mod_two_eq_zero_or_one n with h | h <;> rw [h] <;> rfl

theorem bitsOf_ofBits {k : Nat} {bs : List Bool} (h : bs.length = k) :
    bitsOf k (ofBits bs) = bs := by
  induction k generalizing bs with
  | zero => rw [List.eq_nil_of_length_eq_zero h]; rfl
  | succ k ih =>
    rcases List.eq_nil_or_concat bs with rfl | ⟨front, b, rfl⟩
    · cases h
    · have hfront : front.length = k := by simpa using h
      have hb := Bool.toNat_le b
      have hhalf : (2 * ofBits front + b.toNat) / 2 = ofBits front := by omega
      have hlow : (2 * ofBits front + b.toNat).testBit 0 = b := by
        cases b <;> simp [Nat.testBit_zero]
      rw [List.concat_eq_append, ofBits_snoc, bitsOf_snoc, hhalf, hlow, ih hfront]

theorem ofBits_bitsOf {k n : Nat} (h : n < Nat.pow 2 k) : ofBits (bitsOf k n) = n := by
  induction k generalizing n with
  | zero => exact (Nat.lt_one_iff.mp h).symm
  | succ k ih =>
    have hdouble : Nat.pow 2 (k + 1) = Nat.pow 2 k * 2 := rfl
    have hhalf : n / 2 < Nat.pow 2 k := by omega
    rw [bitsOf_snoc, ofBits_snoc, ih hhalf, toNat_testBit_zero]
    omega

theorem ofBits_lt (bs : List Bool) : ofBits bs < Nat.pow 2 bs.length := by
  generalize hk : bs.length = k
  induction k generalizing bs with
  | zero => rw [List.eq_nil_of_length_eq_zero hk]; decide
  | succ k ih =>
    rcases List.eq_nil_or_concat bs with rfl | ⟨front, b, rfl⟩
    · cases hk
    · have hfront := ih front (by simpa using hk)
      have hdouble : Nat.pow 2 (k + 1) = Nat.pow 2 k * 2 := rfl
      have hb := Bool.toNat_le b
      rw [List.concat_eq_append, ofBits_snoc]
      omega

end Bits

section Digits

theorem length_fillZero {k : Nat} {bs : List Bool} (h : bs.length ≤ k) :
    (fillZero k bs).length = k := by
  rw [fillZero, List.length_append, List.length_replicate]
  omega

theorem length_digitsOf (k : Nat) (bs : Bytes) :
    (digitsOf (k + 1) bs).length = (8 * bs.length + k) / (k + 1) := by
  have hbits : (bs.flatMap fun b => bitsOf 8 b.toNat).length = 8 * bs.length := by
    induction bs with
    | nil => rfl
    | cons b bs ih =>
      rw [List.flatMap_cons, List.length_append, length_bitsOf, ih, List.length_cons]
      omega
  rw [digitsOf, List.length_map, Nat.add_sub_cancel, length_groups, hbits]

theorem lt_of_mem_digitsOf {k d : Nat} {bs : Bytes} (hk : 0 < k) (h : d ∈ digitsOf k bs) :
    d < Nat.pow 2 k := by
  obtain ⟨g, hg, rfl⟩ := List.mem_map.mp h
  have hlength : g.length ≤ k := by
    have := length_le_of_mem_groups hg
    omega
  have hlt := ofBits_lt (fillZero k g)
  rwa [length_fillZero hlength] at hlt

theorem flatMap_fillZero (k : Nat) (bs : List Bool) :
    ∃ n ≤ k, (groups k bs).flatMap (fillZero (k + 1)) = bs ++ List.replicate n false := by
  fun_induction groups k bs with
  | case1 => exact ⟨0, Nat.zero_le k, rfl⟩
  | case2 b rest ih =>
    obtain ⟨n, hn, hrest⟩ := ih
    rw [List.flatMap_cons, hrest]
    cases hdrop : rest.drop k with
    | nil =>
      have hle : rest.length ≤ k := List.drop_eq_nil_iff.mp hdrop
      refine ⟨k - rest.length, Nat.sub_le _ _, ?_⟩
      rw [hdrop, groups] at hrest
      have hempty : List.replicate n false = [] := hrest.symm
      rw [hempty, List.take_of_length_le hle, fillZero, List.length_cons, Nat.add_sub_add_right]
      simp
    | cons x xs =>
      have hlt : k < rest.length := by
        refine Nat.lt_of_not_le fun hle => ?_
        rw [List.drop_of_length_le hle] at hdrop
        cases hdrop
      have hfull : (b :: rest.take k).length = k + 1 := by
        rw [List.length_cons, List.length_take, Nat.min_eq_left (Nat.le_of_lt hlt)]
      refine ⟨n, hn, ?_⟩
      rw [fillZero, hfull, Nat.sub_self, List.replicate_zero, List.append_nil, ← hdrop,
        ← List.append_assoc, List.cons_append, List.take_append_drop]

theorem groups_bytes (bs : Bytes) {zeros : List Bool} (h : zeros.length < 8) :
    ((groups 7 ((bs.flatMap fun b => bitsOf 8 b.toNat) ++ zeros)).filter (·.length == 8)).map
      (fun g => UInt8.ofNat (ofBits g)) = bs := by
  induction bs with
  | nil =>
    rw [List.flatMap_nil, List.nil_append]
    cases zeros with
    | nil => rw [groups]; rfl
    | cons z zs =>
      have hshort : ((z :: zs).length == 8) = false := by
        rw [beq_eq_false_iff_ne]
        omega
      rw [groups_of_length_le (Nat.le_of_lt h) (List.cons_ne_nil z zs), List.filter_cons, hshort]
      rfl
  | cons b bs ih =>
    have hb : ofBits (bitsOf 8 b.toNat) = b.toNat := ofBits_bitsOf b.toNat_lt
    have hlength : ((bitsOf 8 b.toNat).length == 8) = true := by rw [length_bitsOf]; rfl
    rw [List.flatMap_cons, List.append_assoc, groups_append (length_bitsOf 8 b.toNat),
      List.filter_cons, hlength, if_pos rfl, List.map_cons, ih, hb, UInt8.ofNat_toNat]

theorem ofDigits_digitsOf {k : Nat} (hpos : 0 < k) (hle : k ≤ 8) (bs : Bytes) :
    ofDigits k (digitsOf k bs) = bs := by
  obtain ⟨k, rfl⟩ := Nat.exists_eq_succ_of_ne_zero (Nat.pos_iff_ne_zero.mp hpos)
  obtain ⟨n, hn, hfill⟩ := flatMap_fillZero k (bs.flatMap fun b => bitsOf 8 b.toNat)
  have hbits : (digitsOf (k + 1) bs).flatMap (bitsOf (k + 1)) =
      (bs.flatMap fun b => bitsOf 8 b.toNat) ++ List.replicate n false := by
    rw [← hfill, digitsOf, Nat.add_sub_cancel, List.flatMap_map]
    refine congrArg List.flatten (List.map_congr_left fun g hg => ?_)
    exact bitsOf_ofBits (length_fillZero (length_le_of_mem_groups hg))
  rw [ofDigits, hbits]
  exact groups_bytes bs (by rw [List.length_replicate]; omega)

end Digits

end Radix

namespace Alphabet

variable (a : Alphabet)

theorem lt_of_mem_digits {bs : Bytes} {d : Nat} (h : d ∈ Radix.digitsOf a.width bs) :
    d < Nat.pow 2 a.width :=
  Radix.lt_of_mem_digitsOf a.width_pos h

theorem mapM_digits {ds : List Nat} (h : ∀ d ∈ ds, d < Nat.pow 2 a.width) :
    (ds.map a.digit).mapM a.digitValue? = some ds := by
  induction ds with
  | nil => rfl
  | cons d ds ih =>
    obtain ⟨hd, hds⟩ := List.forall_mem_cons.mp h
    rw [List.map_cons, List.mapM_cons, a.digit_read d hd, ih hds]
    rfl

theorem takeWhile_encodeList (bs : Bytes) :
    (a.encodeList bs).takeWhile (· != '=') = (Radix.digitsOf a.width bs).map a.digit := by
  have hdigits : ∀ c ∈ (Radix.digitsOf a.width bs).map a.digit, (c != '=') = true := by
    intro c hc
    obtain ⟨d, hd, rfl⟩ := List.mem_map.mp hc
    exact bne_iff_ne.mpr (a.digit_ne_padding d (a.lt_of_mem_digits hd))
  have hpadding : (a.padding bs).takeWhile (· != '=') = [] := by
    cases hp : a.padding bs with
    | nil => rfl
    | cons c cs =>
      have hc : c = '=' := a.padding_eq bs c (by rw [hp]; exact List.mem_cons_self)
      rw [hc]
      rfl
  rw [encodeList, List.takeWhile_append_of_pos hdigits, hpadding, List.append_nil]

theorem decode?_encodeList (bs : Bytes) : a.decode? (a.encodeList bs) = some bs := by
  have hbytes : Radix.ofDigits a.width (Radix.digitsOf a.width bs) = bs :=
    Radix.ofDigits_digitsOf a.width_pos a.width_le bs
  rw [decode?, a.takeWhile_encodeList, a.mapM_digits fun d hd => a.lt_of_mem_digits hd]
  dsimp only
  rw [hbytes, if_pos rfl]

theorem decode?_eq_some_iff {cs : List Char} {bs : Bytes} :
    a.decode? cs = some bs ↔ cs = a.encodeList bs := by
  constructor
  · intro h
    unfold decode? at h
    split at h
    case h_1 => cases h
    case h_2 ds =>
      dsimp only at h
      split at h
      case isTrue hsame => cases h; exact hsame.symm
      case isFalse => cases h
  · rintro rfl
    exact a.decode?_encodeList bs

theorem encode_injective {as bs : Bytes} (h : a.encode as = a.encode bs) : as = bs := by
  have hread := a.decode?_encodeList as
  rw [String.ofList_injective h, a.decode?_encodeList bs] at hread
  exact (Option.some.inj hread).symm

theorem mem_encodeList {bs : Bytes} {c : Char} (h : c ∈ a.encodeList bs) :
    (∃ n < Nat.pow 2 a.width, c = a.digit n) ∨ c = '=' := by
  rcases List.mem_append.mp h with h | h
  · obtain ⟨d, hd, rfl⟩ := List.mem_map.mp h
    exact .inl ⟨d, a.lt_of_mem_digits hd, rfl⟩
  · exact .inr (a.padding_eq bs c h)

theorem trimList_encodeList (bs : Bytes) : trimList (a.encodeList bs) = a.encodeList bs := by
  refine trimList_of_not_blank fun c hc => ?_
  rcases a.mem_encodeList hc with ⟨n, hn, rfl⟩ | rfl
  · exact a.digit_not_blank n hn
  · rfl

theorem toList_encode (bs : Bytes) : (a.encode bs).toList = a.encodeList bs := String.toList_ofList

theorem utf8ByteSize_encode (bs : Bytes) :
    (a.encode bs).utf8ByteSize =
      (8 * bs.length + (a.width - 1)) / a.width + (a.padding bs).length := by
  have hascii : ∀ c ∈ a.encodeList bs, c.toNat ≤ 127 := by
    intro c hc
    rcases a.mem_encodeList hc with ⟨n, hn, rfl⟩ | rfl
    · exact a.digit_ascii n hn
    · decide
  have hwidth : a.width = a.width - 1 + 1 := (Nat.succ_pred_eq_of_pos a.width_pos).symm
  have hdigits : (Radix.digitsOf a.width bs).length =
      (8 * bs.length + (a.width - 1)) / a.width := by
    rw [hwidth]
    exact Radix.length_digitsOf (a.width - 1) bs
  rw [encode, utf8ByteSize_ofList_ascii hascii, encodeList, List.length_append, List.length_map,
    hdigits]

end Alphabet

end ShieldedPool.Text
