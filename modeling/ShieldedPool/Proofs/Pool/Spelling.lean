import ShieldedPool.Proofs.Pool.Requests
import ShieldedPool.Proofs.Text.Radix

namespace ShieldedPool

open Text (trim)

namespace Address

theorem length_checksum (key : Word) : (checksum key).length = 4 := by
  rw [checksum, List.length_drop, Block.length_eq]

theorem parse_eq_ok_iff {s : String} {a : Address} : parse s = .ok a ↔ trim s = a.encode := by
  constructor
  · intro h
    unfold parse at h
    dsimp only at h
    split at h
    case isTrue => cases h
    case isFalse =>
      split at h
      case h_1 => cases h
      case h_2 raw hraw =>
        split at h
        case h_1 => cases h
        case h_2 key hkey =>
          split at h
          case isTrue => cases h
          case isFalse =>
            split at h
            case isTrue hchecksum =>
              cases h
              have hfront : raw.take 32 = key.bytes := Block.ofBytes?_eq_some_iff.mp hkey
              rw [encode, ← hchecksum, ← hfront, List.take_append_drop]
              rw [Text.toList_trim] at hraw
              exact Text.trim_eq_ofList_iff.mpr (Text.Base32.decode?_eq_some_iff.mp hraw)
            case isFalse => cases h
  · intro h
    have hlength : (a.key.bytes ++ checksum a.key).length = 36 := by
      rw [List.length_append, a.key.length_eq, length_checksum]
    have hsize : (encode a).utf8ByteSize = 58 := by
      rw [encode, Text.Base32.utf8ByteSize_encode, hlength]
      rfl
    have hread : Text.Base32.decode? (encode a).toList = some (a.key.bytes ++ checksum a.key) := by
      rw [encode, Text.Base32.toList_encode, Text.Base32.decode?_encodeList]
    have hkey : (a.key.bytes ++ checksum a.key).take 32 = a.key.bytes :=
      List.take_left' a.key.length_eq
    have hchecksum : (a.key.bytes ++ checksum a.key).drop 32 = checksum a.key :=
      List.drop_left' a.key.length_eq
    unfold parse
    dsimp only
    rw [h, if_neg (not_not_intro hsize), hread]
    dsimp only
    rw [hkey, Block.ofBytes?_eq_some_iff.mpr rfl]
    dsimp only
    rw [if_neg (not_not_intro hlength), if_pos hchecksum]

theorem parse_encode (a : Address) : parse a.encode = .ok a := by
  refine parse_eq_ok_iff.mpr (Text.trim_eq_ofList_iff.mpr ?_)
  rw [encode, Text.Base32.toList_encode, Text.Base32.trimList_encodeList]

theorem encode_injective {a b : Address} (h : a.encode = b.encode) : a = b :=
  eq_of_read_back (parse_encode a) (parse_encode b) h

end Address

namespace Ledger.GroupId

theorem ofBase64_eq_ok_iff {s : String} {g : GroupId} :
    ofBase64 s = .ok g ↔ trim s = g.toBase64 := by
  refine Iff.trans ?_ Text.trim_eq_ofList_iff.symm
  rw [← Text.Base64.decode?_eq_some_iff, ofBase64]
  cases hread : Text.Base64.decode? (Text.trimList s.toList) with
  | none => simp
  | some bs =>
    dsimp only
    rw [Option.some.injEq, ← Block.ofBytes?_eq_some_iff]
    cases Block.ofBytes? 32 bs with
    | none => simp
    | some id =>
      cases g
      simp

theorem ofBase64_toBase64 (g : GroupId) : ofBase64 g.toBase64 = .ok g := by
  refine ofBase64_eq_ok_iff.mpr (Text.trim_eq_ofList_iff.mpr ?_)
  rw [toBase64, Text.Base64.toList_encode, Text.Base64.trimList_encodeList]

theorem toBase64_injective {g h : GroupId} (heq : g.toBase64 = h.toBase64) : g = h :=
  eq_of_read_back (ofBase64_toBase64 g) (ofBase64_toBase64 h) heq

end Ledger.GroupId

namespace Pool

open Ledger (GroupId SignedTransaction)

theorem decodeSigned_ok_iff_trim {s : String} {t : SignedTransaction} :
    decodeSigned s = .ok t ↔ trim s = encodeSigned t ∧ t.Readable := by
  rw [decodeSigned_eq_ok_iff, ← Text.trim_eq_ofList_iff]
  rfl

theorem decodeSigned_encodeSigned_iff {t : SignedTransaction} :
    decodeSigned (encodeSigned t) = .ok t ↔ t.Readable :=
  ⟨fun h => (decodeSigned_ok_iff_trim.mp h).2, decodeSigned_encodeSigned⟩

theorem encodeSigned_injective {t u : SignedTransaction} (ht : t.Readable) (hu : u.Readable)
    (h : encodeSigned t = encodeSigned u) : t = u :=
  eq_of_read_back (decodeSigned_encodeSigned ht) (decodeSigned_encodeSigned hu) h

theorem spelled_one_way :
    (∀ s a, Address.parse s = .ok a ↔ trim s = a.encode) ∧
    (∀ s g, GroupId.ofBase64 s = .ok g ↔ trim s = g.toBase64) ∧
    (∀ s t, decodeSigned s = .ok t ↔ trim s = encodeSigned t ∧ t.Readable) ∧
    (∀ a : Address, Address.parse a.encode = .ok a) ∧
    (∀ g : GroupId, GroupId.ofBase64 g.toBase64 = .ok g) ∧
    (∀ t, decodeSigned (encodeSigned t) = .ok t ↔ t.Readable) ∧
    (∀ a b : Address, a.encode = b.encode → a = b) ∧
    (∀ g h : GroupId, g.toBase64 = h.toBase64 → g = h) ∧
    ∀ t u, t.Readable → u.Readable → encodeSigned t = encodeSigned u → t = u :=
  ⟨fun _ _ => Address.parse_eq_ok_iff, fun _ _ => GroupId.ofBase64_eq_ok_iff,
    fun _ _ => decodeSigned_ok_iff_trim, Address.parse_encode, GroupId.ofBase64_toBase64,
    fun _ => decodeSigned_encodeSigned_iff, fun _ _ => Address.encode_injective,
    fun _ _ => GroupId.toBase64_injective, fun _ _ => encodeSigned_injective⟩

end Pool

end ShieldedPool
