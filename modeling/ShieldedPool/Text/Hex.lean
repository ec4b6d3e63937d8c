import ShieldedPool.Bytes
import ShieldedPool.Text.Decimal
import ShieldedPool.Text.Printable
import ShieldedPool.Text.Utf8

namespace ShieldedPool.Text

namespace Hex

def digit (n : UInt8) : Char :=
  if n < 10 then Char.ofNat (48 + n.toNat) else Char.ofNat (87 + n.toNat)

def encodeByte (b : UInt8) : List Char := [digit (b / 16), digit (b % 16)]

def encodeList (bs : Bytes) : List Char := bs.flatMap encodeByte

def encode (bs : Bytes) : String := String.ofList (encodeList bs)

def digitValue? (b : UInt8) : Option UInt8 :=
  if 48 ≤ b ∧ b ≤ 57 then some (b - 48)
  else if 97 ≤ b ∧ b ≤ 102 then some (b - 87)
  else if 65 ≤ b ∧ b ≤ 70 then some (b - 55)
  else none

inductive HexError where
  | oddLength
  | invalidByte (byte : UInt8) (position : Nat)
  deriving DecidableEq, Repr

def HexError.message : HexError → String
  | .oddLength => "Odd number of digits"
  | .invalidByte b n =>
    "Invalid character " ++ Quoted.char (Char.ofNat b.toNat) ++ " at position " ++ Decimal.text n

def decodePairs (position : Nat) : Bytes → Except HexError Bytes
  | [] => .ok []
  | [_] => .error .oddLength
  | a :: b :: rest =>
    match digitValue? a with
    | none => .error (.invalidByte a position)
    | some x =>
      match digitValue? b with
      | none => .error (.invalidByte b (position + 1))
      | some y =>
        match decodePairs (position + 2) rest with
        | .error e => .error e
        | .ok bs => .ok ((x * 16 + y) :: bs)

def decode (text : Bytes) : Except HexError Bytes :=
  if text.length % 2 = 0 then decodePairs 0 text else .error .oddLength

end Hex

namespace Percent

def decode : Bytes → Bytes
  | 0x25 :: a :: b :: rest =>
    match Hex.digitValue? a, Hex.digitValue? b with
    | some x, some y => (x * 16 + y) :: decode rest
    | _, _ => 0x25 :: decode (a :: b :: rest)
  | c :: rest => c :: decode rest
  | [] => []

def encodeByte (b : UInt8) : List Char := '%' :: (Hex.encodeByte b).map Char.toUpper

def encode (isPlain : Char → Bool) (cs : List Char) : List Char :=
  cs.flatMap fun c => if isPlain c then [c] else (utf8 (String.singleton c)).flatMap encodeByte

end Percent

end ShieldedPool.Text
