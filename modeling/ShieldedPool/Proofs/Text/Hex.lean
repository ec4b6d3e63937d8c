import Mathlib.Data.List.Induction
import ShieldedPool.Proofs.Result
import ShieldedPool.Proofs.Text.Utf8
import ShieldedPool.Text.Chars
import ShieldedPool.Text.Hex

namespace ShieldedPool.Text.Hex

section Halves

theorem toNat_high (b : UInt8) : (b / 16).toNat = b.toNat / 16 := UInt8.toNat_div b 16

theorem toNat_low (b : UInt8) : (b % 16).toNat = b.toNat % 16 := UInt8.toNat_mod b 16

theorem high_lt (b : UInt8) : (b / 16).toNat < 16 := by
  have hb := b.toNat_lt
  rw [toNat_high]
  omega

theorem low_lt (b : UInt8) : (b % 16).toNat < 16 := by
  rw [toNat_low]
  omega

variable {x y : UInt8}

theorem toNat_byte (hx : x.toNat < 16) (hy : y.toNat < 16) :
    (x * 16 + y).toNat = 16 * x.toNat + y.toNat := by
  rw [UInt8.toNat_add, UInt8.toNat_mul]
  change (x.toNat * 16 % 256 + y.toNat) % 256 = _
  omega

theorem halves (b : UInt8) : b / 16 * 16 + b % 16 = b := by
  apply UInt8.toNat_inj.mp
  rw [toNat_byte (high_lt b) (low_lt b), toNat_high, toNat_low]
  omega

theorem high_of_halves (hx : x.toNat < 16) (hy : y.toNat < 16) : (x * 16 + y) / 16 = x := by
  apply UInt8.toNat_inj.mp
  rw [toNat_high, toNat_byte hx hy]
  omega

theorem low_of_halves (hx : x.toNat < 16) (hy : y.toNat < 16) : (x * 16 + y) % 16 = y := by
  apply UInt8.toNat_inj.mp
  rw [toNat_low, toNat_byte hx hy]
  omega

end Halves

section Written

theorem encodeList_cons (b : UInt8) (bs : Bytes) :
    encodeList (b :: bs) = digit (b / 16) :: digit (b % 16) :: encodeList bs := rfl

theorem length_encodeList (bs : Bytes) : (encodeList bs).length = 2 * bs.length := by
  induction bs with
  | nil => rfl
  | cons b bs ih =>
    rw [encodeList_cons, List.length_cons, List.length_cons, List.length_cons, ih]
    omega

theorem exists_digit_of_mem {bs : Bytes} {c : Char} (h : c ∈ encodeList bs) :
    ∃ n : UInt8, n.toNat < 16 ∧ c = digit n := by
  obtain ⟨b, -, hc⟩ := List.mem_flatMap.mp h
  rcases List.mem_cons.mp hc with rfl | hc
  · exact ⟨b / 16, high_lt b, rfl⟩
  · exact ⟨b % 16, low_lt b, List.mem_singleton.mp hc⟩

end Written

section Digits

def lower (c : Char) : Char := if 'A' ≤ c ∧ c ≤ 'F' then Char.ofNat (c.toNat + 32) else c

theorem digit_table : ∀ n < 16, (digit (UInt8.ofNat n)).toNat ≤ 127 ∧
    isBlank (digit (UInt8.ofNat n)) = false ∧
    lower (digit (UInt8.ofNat n)) = digit (UInt8.ofNat n) := by decide

variable {x : UInt8} (hx : x.toNat < 16)

include hx

theorem digit_ascii : (digit x).toNat ≤ 127 := by
  simpa using (digit_table x.toNat hx).1

theorem digit_not_blank : isBlank (digit x) = false := by
  simpa using (digit_table x.toNat hx).2.1

theorem lower_digit : lower (digit x) = digit x := by
  simpa using (digit_table x.toNat hx).2.2

theorem ascii_of_lower {c : Char} (h : lower c = digit x) : c.toNat ≤ 127 := by
  unfold lower at h
  split at h
  case isTrue hcapital => exact Nat.le_trans hcapital.2 (by decide)
  case isFalse => exact h ▸ digit_ascii hx

end Digits

section Reading

theorem digitValue?_table : ∀ b < 256, (∀ x ∈ digitValue? (UInt8.ofNat b), x.toNat < 16) ∧
    ∀ n < 16, digitValue? (UInt8.ofNat b) = some (UInt8.ofNat n) ↔
      lower (Char.ofUInt8 (UInt8.ofNat b)) = digit (UInt8.ofNat n) := by
  decide +kernel

theorem digitValue?_eq_some_iff {b x : UInt8} :
    digitValue? b = some x ↔ x.toNat < 16 ∧ lower (Char.ofUInt8 b) = digit x := by
  obtain ⟨hlt, hiff⟩ := digitValue?_table b.toNat b.toNat_lt
  have hiff := hiff x.toNat
  simp only [UInt8.ofNat_toNat] at hlt hiff
  constructor
  · intro h
    exact ⟨hlt x h, (hiff (hlt x h)).mp h⟩
  · rintro ⟨hx, h⟩
    exact (hiff hx).mpr h

theorem decodePairs_cons_cons {position : Nat} {a b : UInt8} {text bs : Bytes} :
    decodePairs position (a :: b :: text) = .ok bs ↔
      ∃ x y rest, digitValue? a = some x ∧ digitValue? b = some y ∧
        decodePairs (position + 2) text = .ok rest ∧ bs = (x * 16 + y) :: rest := by
  rw [decodePairs]
  cases digitValue? a with
  | none => simp
  | some x =>
    cases digitValue? b with
    | none => simp
    | some y => cases decodePairs (position + 2) text <;> simp [eq_comm]

theorem decodePairs_eq_ok_iff {position : Nat} {text bs : Bytes} :
    decodePairs position text = .ok bs ↔
      (text.map Char.ofUInt8).map lower = encodeList bs := by
  induction text using List.twoStepInduction generalizing position bs with
  | nil => cases bs <;> simp [decodePairs, encodeList, encodeByte]
  | singleton a => cases bs <;> simp [decodePairs, encodeList, encodeByte]
  | cons_cons a b text ih =>
    rw [decodePairs_cons_cons]
    constructor
    · rintro ⟨x, y, rest, hx, hy, hrest, rfl⟩
      obtain ⟨hxlt, hx⟩ := digitValue?_eq_some_iff.mp hx
      obtain ⟨hylt, hy⟩ := digitValue?_eq_some_iff.mp hy
      rw [encodeList_cons, high_of_halves hxlt hylt, low_of_halves hxlt hylt, ← hx, ← hy,
        ← ih.mp hrest]
      rfl
    · intro h
      cases bs with
      | nil => cases h
      | cons c cs =>
        obtain ⟨ha, h⟩ := List.cons_eq_cons.mp h
        obtain ⟨hb, h⟩ := List.cons_eq_cons.mp h
        exact ⟨c / 16, c % 16, cs, digitValue?_eq_some_iff.mpr ⟨high_lt c, ha⟩,
          digitValue?_eq_some_iff.mpr ⟨low_lt c, hb⟩, ih.mpr h, congrArg (· :: cs) (halves c).symm⟩

theorem decode_bytes_eq_ok_iff {text bs : Bytes} :
    decode text = .ok bs ↔ (text.map Char.ofUInt8).map lower = encodeList bs := by
  rw [← @decodePairs_eq_ok_iff 0, decode]
  split
  case isTrue => rfl
  case isFalse hodd =>
    refine iff_of_false (fun h => by cases h) fun h => hodd ?_
    have hlength := congrArg List.length (decodePairs_eq_ok_iff.mp h)
    rw [List.length_map, List.length_map, length_encodeList] at hlength
    omega

theorem ascii_of_map_lower {cs : List Char} {bs : Bytes} (h : cs.map lower = encodeList bs) :
    ∀ c ∈ cs, c.toNat ≤ 127 := by
  intro c hc
  obtain ⟨x, hx, hdigit⟩ := exists_digit_of_mem (h ▸ List.mem_map_of_mem hc)
  exact ascii_of_lower hx hdigit

theorem decode_eq_ok_iff {s : String} {bs : Bytes} :
    decode (utf8 s) = .ok bs ↔ s.toList.map lower = encodeList bs := by
  rw [decode_bytes_eq_ok_iff]
  constructor
  · intro h
    have hascii := List.forall_mem_map.mp (ascii_of_map_lower h)
    rwa [toList_of_utf8_ascii hascii]
  · intro h
    rwa [map_ofUInt8_utf8 (ascii_of_map_lower h)]

variable {bs cs : Bytes}

theorem map_lower_encodeList (bs : Bytes) : (encodeList bs).map lower = encodeList bs := by
  refine (List.map_congr_left fun c hc => ?_).trans (List.map_id _)
  obtain ⟨x, hx, rfl⟩ := exists_digit_of_mem hc
  exact lower_digit hx

theorem toList_encode (bs : Bytes) : (encode bs).toList = encodeList bs := String.toList_ofList

theorem decode_encode (bs : Bytes) : decode (utf8 (encode bs)) = .ok bs := by
  rw [decode_eq_ok_iff, toList_encode, map_lower_encodeList]

theorem encode_injective (h : encode bs = encode cs) : bs = cs :=
  eq_of_read_back (f := fun s => decode (utf8 s)) (decode_encode bs) (decode_encode cs) h

theorem utf8ByteSize_of_map_lower {s : String} (h : s.toList.map lower = encodeList bs) :
    s.utf8ByteSize = 2 * bs.length := by
  have hsize := utf8ByteSize_ofList_ascii (ascii_of_map_lower h)
  rw [String.ofList_toList] at hsize
  rw [hsize, ← length_encodeList, ← h, List.length_map]

theorem trimList_encodeList (bs : Bytes) : trimList (encodeList bs) = encodeList bs :=
  trimList_of_not_blank fun c hc => by
    obtain ⟨x, hx, rfl⟩ := exists_digit_of_mem hc
    exact digit_not_blank hx

end Reading

end ShieldedPool.Text.Hex
