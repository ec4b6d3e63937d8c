import ShieldedPool.Hash.Sha512
import ShieldedPool.Text.Chars
import ShieldedPool.Text.Decimal
import ShieldedPool.Text.Radix

namespace ShieldedPool

structure Address where
  key : Word
  deriving DecidableEq, Inhabited

inductive AddressError where
  | length (bytes : Nat)
  | encoding
  | checksum
  deriving DecidableEq, Repr

def AddressError.message : AddressError → String
  | .length n => "address must be 58 characters, got " ++ Text.Decimal.text n
  | .encoding => "address is not valid base32"
  | .checksum => "address checksum does not match"

namespace Address

def checksum (key : Word) : Bytes := (Hash.Sha512.hash256 key.bytes).bytes.drop 28

def encode (a : Address) : String := Text.Base32.encode (a.key.bytes ++ checksum a.key)

def parse (input : String) : Except AddressError Address :=
  let s := Text.trim input
  if s.utf8ByteSize ≠ 58 then .error (.length s.utf8ByteSize)
  else
    match Text.Base32.decode? s.toList with
    | none => .error .encoding
    | some raw =>
      match Block.ofBytes? 32 (raw.take 32) with
      | none => .error .encoding
      | some key =>
        if raw.length ≠ 36 then .error .encoding
        else if raw.drop 32 = checksum key then .ok ⟨key⟩
        else .error .checksum

end Address

end ShieldedPool
