import ShieldedPool.Text.Utf8

namespace ShieldedPool.Text

theorem utf8_ofList_ascii {cs : List Char} (h : ∀ c ∈ cs, c.toNat ≤ 127) :
    utf8 (String.ofList cs) = cs.map fun c => UInt8.ofNat c.toNat := by
  rw [utf8, String.toByteArray_ofList, List.utf8Encode, List.data_toByteArray, List.toList_toArray]
  induction cs with
  | nil => rfl
  | cons c cs ih =>
    have hc : String.utf8EncodeChar c = [UInt8.ofNat c.toNat] :=
      if_pos (h c (List.mem_cons_self ..))
    rw [List.flatMap_cons, hc, ih fun d hd => h d (List.mem_cons_of_mem c hd), List.map_cons,
      List.singleton_append]

theorem utf8ByteSize_eq (s : String) : s.utf8ByteSize = (utf8 s).length := by
  rw [utf8, Array.length_toList]
  rfl

theorem utf8ByteSize_ofList_ascii {cs : List Char} (h : ∀ c ∈ cs, c.toNat ≤ 127) :
    (String.ofList cs).utf8ByteSize = cs.length := by
  rw [utf8ByteSize_eq, utf8_ofList_ascii h, List.length_map]

theorem ofUInt8_ofNat {c : Char} (h : c.toNat ≤ 127) : Char.ofUInt8 (UInt8.ofNat c.toNat) = c := by
  have hbyte : (UInt8.ofNat c.toNat).toNat = c.toNat :=
    UInt8.toNat_ofNat_of_lt' (Nat.lt_of_le_of_lt h (by decide))
  exact Char.toNat_inj.mp hbyte

theorem map_ofUInt8_utf8 {s : String} (h : ∀ c ∈ s.toList, c.toNat ≤ 127) :
    (utf8 s).map Char.ofUInt8 = s.toList := by
  have hbytes := utf8_ofList_ascii h
  rw [String.ofList_toList] at hbytes
  rw [hbytes, List.map_map]
  exact (List.map_congr_left fun c hc => ofUInt8_ofNat (h c hc)).trans (List.map_id _)

theorem toList_of_utf8_ascii {s : String} (h : ∀ b ∈ utf8 s, b.toNat ≤ 127) :
    s.toList = (utf8 s).map Char.ofUInt8 := by
  have hascii : ∀ c ∈ (utf8 s).map Char.ofUInt8, c.toNat ≤ 127 := List.forall_mem_map.mpr h
  have hbytes : utf8 (String.ofList ((utf8 s).map Char.ofUInt8)) = utf8 s := by
    rw [utf8_ofList_ascii hascii, List.map_map]
    exact (List.map_congr_left fun b _ => UInt8.ofNat_toNat).trans (List.map_id _)
  rw [← String.toList_ofList (l := (utf8 s).map Char.ofUInt8), utf8_injective hbytes]

end ShieldedPool.Text
