import ShieldedPool.Bytes
import ShieldedPool.Text.Decimal

namespace ShieldedPool.Text

def utf8 (s : String) : Bytes := s.toByteArray.data.toList

def ofUtf8? (bs : Bytes) : Option String := String.fromUTF8? ⟨bs.toArray⟩

def followers (b : UInt8) : Option (UInt8 × UInt8 × Nat) :=
  if 0xc2 ≤ b ∧ b ≤ 0xdf then some (0x80, 0xbf, 1)
  else if b = 0xe0 then some (0xa0, 0xbf, 2)
  else if b = 0xed then some (0x80, 0x9f, 2)
  else if 0xe1 ≤ b ∧ b ≤ 0xef then some (0x80, 0xbf, 2)
  else if b = 0xf0 then some (0x90, 0xbf, 3)
  else if 0xf1 ≤ b ∧ b ≤ 0xf3 then some (0x80, 0xbf, 3)
  else if b = 0xf4 then some (0x80, 0x8f, 3)
  else none

def followed (least greatest : UInt8) : Nat → Bytes → Nat
  | 0, _ => 0
  | _, [] => 0
  | n + 1, b :: rest => if least ≤ b ∧ b ≤ greatest then 1 + followed 0x80 0xbf n rest else 0

def utf8Fault (i : Nat) : Bytes → String
  | [] => ""
  | b :: rest =>
    let bad (length : Nat) : String :=
      "invalid utf-8 sequence of " ++ Decimal.text length ++ " bytes from index " ++ Decimal.text i
    if b < 0x80 then utf8Fault (i + 1) rest
    else
      match followers b with
      | none => bad 1
      | some (least, greatest, count) =>
        let found := followed least greatest count rest
        if found = count then utf8Fault (i + 1 + count) (rest.drop count)
        else if rest.length ≤ found then
          "incomplete utf-8 byte sequence from index " ++ Decimal.text i
        else bad (1 + found)
termination_by bs => bs.length
decreasing_by
  · rw [List.length_cons]; exact Nat.lt_succ_self _
  · rw [List.length_cons, List.length_drop]; exact Nat.lt_succ_of_le (Nat.sub_le _ _)

theorem ofUtf8?_eq_some_iff {bs : Bytes} {s : String} : ofUtf8? bs = some s ↔ bs = utf8 s := by
  unfold ofUtf8? utf8 String.fromUTF8?
  constructor
  · intro h
    split at h
    · cases h; simp [String.fromUTF8]
    · cases h
  · rintro rfl
    have h : (⟨s.toByteArray.data.toList.toArray⟩ : ByteArray) = s.toByteArray := by simp
    simp only [h, s.isValidUTF8, dite_true]
    rfl

theorem utf8_injective {s t : String} (h : utf8 s = utf8 t) : s = t := by
  have hs := ofUtf8?_eq_some_iff.2 (rfl : utf8 s = utf8 s)
  rw [h, ofUtf8?_eq_some_iff.2 (rfl : utf8 t = utf8 t)] at hs
  exact (Option.some.inj hs).symm

end ShieldedPool.Text
