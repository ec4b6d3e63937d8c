import ShieldedPool.Note
import ShieldedPool.Proofs.Text.Hex

namespace ShieldedPool

namespace Note

theorem length_bytes (n : Note) : n.bytes.length = 70 := by
  rw [bytes, List.length_append, List.length_append, n.k.length_eq, n.r.length_eq]
  rfl

theorem ofBytes?_bytes (n : Note) :
    ofBytes? n.bytes = some { amount := n.amount, k := n.k, r := n.r } := by
  have hsize : (Bytes.ofUInt64 n.amount).length = 8 := Bytes.length_natBE 8 _
  have hamount : n.bytes.take 8 = Bytes.ofUInt64 n.amount := by
    rw [bytes, List.append_assoc, List.take_left' hsize]
  have hrest : n.bytes.drop 8 = n.k.bytes ++ n.r.bytes := by
    rw [bytes, List.append_assoc, List.drop_left' hsize]
  have hk : (n.bytes.drop 8).take 31 = n.k.bytes := by
    rw [hrest, List.take_left' n.k.length_eq]
  have hr : n.bytes.drop 39 = n.r.bytes := by
    rw [← List.drop_drop (i := 31) (j := 8), hrest, List.drop_left' n.k.length_eq]
  rw [ofBytes?, hamount, hk, hr, Block.ofBytes?_eq_some_iff.mpr rfl,
    Block.ofBytes?_eq_some_iff.mpr rfl, Bytes.toUInt64_ofUInt64]

theorem position_eq_none_iff {n : Note} :
    n.position = none ↔ n.leafIndex = Protocol.emptyLeafIndex := by
  unfold position
  split <;> simp [*]

theorem ofBytes?_eq_some_iff {bs : Bytes} {n : Note} :
    ofBytes? bs = some n ↔ bs = n.bytes ∧ n.position = none ∧ n.txnId = none := by
  rw [position_eq_none_iff]
  constructor
  · intro h
    unfold ofBytes? at h
    split at h
    case h_1 k r hk hr =>
      cases h
      have hk := Block.ofBytes?_eq_some_iff.mp hk
      have hr := Block.ofBytes?_eq_some_iff.mp hr
      have hlength : bs.length = 70 := by
        have hsize := congrArg List.length hr
        rw [List.length_drop, r.length_eq] at hsize
        omega
      have hamount : (bs.take 8).length = 8 := by rw [List.length_take, hlength]; rfl
      refine ⟨?_, rfl, rfl⟩
      rw [bytes, Bytes.ofUInt64_toUInt64 hamount, ← hk, ← hr,
        ← List.drop_drop (i := 31) (j := 8), List.append_assoc, List.take_append_drop,
        List.take_append_drop]
    case h_2 => cases h
  · rintro ⟨rfl, hleaf, htxn⟩
    rw [ofBytes?_bytes, Option.some.injEq]
    cases n
    simp_all

theorem exists_ofBytes? {bs : Bytes} (h : bs.length = 70) : ∃ n, ofBytes? bs = some n := by
  have hk : ((bs.drop 8).take 31).length = 31 := by
    rw [List.length_take, List.length_drop, h]
    rfl
  have hr : (bs.drop 39).length = 31 := by rw [List.length_drop, h]
  exact ⟨_, by rw [ofBytes?, Block.ofBytes?, dif_pos hk, Block.ofBytes?, dif_pos hr]⟩

theorem toList_text (n : Note) : n.text.toList = Text.Hex.encodeList n.bytes :=
  Text.Hex.toList_encode n.bytes

theorem parse_eq_ok_iff {s : String} {n : Note} :
    parse s = .ok n ↔ (Text.trimList s.toList).map Text.Hex.lower = n.text.toList ∧
      n.position = none ∧ n.txnId = none := by
  rw [toList_text, ← Text.toList_trim]
  constructor
  · intro h
    unfold parse at h
    dsimp only at h
    split at h
    case isTrue => cases h
    case isFalse =>
      split at h
      case h_1 => cases h
      case h_2 bs hbs =>
        split at h
        case h_1 => cases h
        case h_2 n' hn =>
          cases h
          obtain ⟨rfl, hplace⟩ := ofBytes?_eq_some_iff.mp hn
          exact ⟨Text.Hex.decode_eq_ok_iff.mp hbs, hplace⟩
  · rintro ⟨htext, hplace⟩
    have hsize : (Text.trim s).utf8ByteSize = textSize := by
      rw [Text.Hex.utf8ByteSize_of_map_lower htext, length_bytes]
      rfl
    unfold parse
    dsimp only
    rw [if_neg (not_not_intro hsize), Text.Hex.decode_eq_ok_iff.mpr htext]
    dsimp only
    rw [ofBytes?_eq_some_iff.mpr ⟨rfl, hplace⟩]

theorem parse_or_malformed (s : String) : (∃ n, parse s = .ok n) ∨
    (Text.trim s).utf8ByteSize ≠ textSize ∧
      parse s = .error (.malformed (.badLength (Text.trim s).utf8ByteSize)) ∨
    (Text.trim s).utf8ByteSize = textSize ∧
      ∃ fault, parse s = .error (.malformed (.badHex fault)) := by
  unfold parse
  dsimp only
  split
  case isTrue hsize => exact .inr (.inl ⟨hsize, rfl⟩)
  case isFalse hsize =>
    have hsize := Decidable.not_not.mp hsize
    split
    case h_1 fault hfault => exact .inr (.inr ⟨hsize, fault, rfl⟩)
    case h_2 bs hbs =>
      have hlength := Text.Hex.utf8ByteSize_of_map_lower (Text.Hex.decode_eq_ok_iff.mp hbs)
      have hseventy : bs.length = 70 := by
        rw [hsize] at hlength
        change 140 = 2 * bs.length at hlength
        omega
      obtain ⟨n, hn⟩ := exists_ofBytes? hseventy
      rw [hn]
      exact .inl ⟨n, rfl⟩

theorem parse_text (n : Note) :
    parse n.text = .ok { amount := n.amount, k := n.k, r := n.r } := by
  refine parse_eq_ok_iff.mpr ⟨?_, rfl, rfl⟩
  rw [toList_text, toList_text, Text.Hex.trimList_encodeList, Text.Hex.map_lower_encodeList]
  rfl

theorem text_eq_iff {m n : Note} :
    m.text = n.text ↔ m.amount = n.amount ∧ m.k = n.k ∧ m.r = n.r := by
  constructor
  · intro h
    have hbytes : m.bytes = n.bytes := Text.Hex.encode_injective h
    obtain ⟨hfront, hr⟩ := List.append_inj' hbytes (m.r.length_eq.trans n.r.length_eq.symm)
    obtain ⟨hamount, hk⟩ := List.append_inj' hfront (m.k.length_eq.trans n.k.length_eq.symm)
    exact ⟨Bytes.ofUInt64_injective hamount, Block.eq_of_bytes_eq hk, Block.eq_of_bytes_eq hr⟩
  · rintro ⟨hamount, hk, hr⟩
    unfold Note.text Note.bytes
    rw [hamount, hk, hr]

theorem texts_restore_notes :
    (∀ s n, parse s = .ok n ↔ (Text.trimList s.toList).map Text.Hex.lower = n.text.toList ∧
      n.position = none ∧ n.txnId = none) ∧
    (∀ s, (∃ n, parse s = .ok n) ∨
      (Text.trim s).utf8ByteSize ≠ textSize ∧
        parse s = .error (.malformed (.badLength (Text.trim s).utf8ByteSize)) ∨
      (Text.trim s).utf8ByteSize = textSize ∧
        ∃ fault, parse s = .error (.malformed (.badHex fault))) ∧
    (∀ m n : Note, m.text = n.text ↔ m.amount = n.amount ∧ m.k = n.k ∧ m.r = n.r) ∧
    ∀ n : Note, ∃ m, parse n.text = .ok m ∧ m.amount = n.amount ∧ m.k = n.k ∧ m.r = n.r ∧
      m.commitment = n.commitment ∧ m.nullifier = n.nullifier :=
  ⟨fun _ _ => parse_eq_ok_iff, parse_or_malformed, fun _ _ => text_eq_iff,
    fun n => ⟨_, parse_text n, rfl, rfl, rfl, rfl, rfl⟩⟩

end Note

end ShieldedPool
