import ShieldedPool.Fault
import ShieldedPool.Random
import ShieldedPool.Text.Chars
import ShieldedPool.Text.Hex
import ShieldedPool.Text.Utf8
import ShieldedPool.Vault.Box

namespace ShieldedPool

namespace Vault

inductive KeyFault where
  | badHex (fault : Text.Hex.HexError)
  | badLength (length : Nat)
  | badFile (path : String) (length : Nat)
  deriving DecidableEq, Repr

def KeyFault.message : KeyFault → String
  | .badHex fault => fault.message
  | .badLength n => "expected 32 bytes, got " ++ Text.Decimal.text n
  | .badFile path n => path ++ ": expected 32 bytes, got " ++ Text.Decimal.text n

end Vault

inductive VaultError where
  | randomness
  | malformed (length : Nat)
  | authenticationFailure
  | invalidKey (fault : Vault.KeyFault)
  | unreadable (fault : FileFault)
  deriving DecidableEq, Repr

def VaultError.message : VaultError → String
  | .randomness => "randomness source failed: " ++ Random.failureMessage
  | .malformed n =>
    "malformed blob: blob is " ++ Text.Decimal.text n ++ " bytes, header and tag alone are 72"
  | .authenticationFailure => "authentication failure"
  | .invalidKey fault => "invalid key: " ++ fault.message
  | .unreadable fault => "key file: " ++ fault.message

namespace Vault

structure Secret where
  key : Word
  deriving DecidableEq

structure PublicKey where
  key : Word
  deriving DecidableEq

def headerSize : Nat := 56

def tagSize : Nat := 16

def Secret.publicKey (s : Secret) : PublicKey := ⟨Curve25519.publicKey s.key⟩

def Secret.hex (s : Secret) : String := Text.Hex.encode s.key.bytes

def Secret.ofHex (text : String) : Except VaultError Secret :=
  match Text.Hex.decode (Text.utf8 (Text.trim text)) with
  | .error fault => .error (.invalidKey (.badHex fault))
  | .ok bs =>
    match Block.ofBytes? 32 bs with
    | none => .error (.invalidKey (.badLength bs.length))
    | some key => .ok ⟨key⟩

def PublicKey.ofFile (path : String) : FileContent → Except VaultError PublicKey
  | .error fault => .error (.unreadable fault)
  | .ok bs =>
    match Block.ofBytes? 32 bs with
    | none => .error (.invalidKey (.badFile path bs.length))
    | some key => .ok ⟨key⟩

def sealWith (recipient : PublicKey) (ephemeral : Word) (nonce : Block 24) (message : Bytes) :
    Bytes :=
  (Curve25519.publicKey ephemeral).bytes ++ nonce.bytes ++
    Box.enclose (Box.sharedKey ephemeral recipient.key) nonce message

def encrypt (recipient : PublicKey) (message : Bytes) (source : Random.Source) :
    Except VaultError Bytes × Random.Source :=
  match source.draw 32 with
  | (none, source) => (.error .randomness, source)
  | (some ephemeral, source) =>
    match source.draw 24 with
    | (none, source) => (.error .randomness, source)
    | (some nonce, source) => (.ok (sealWith recipient ephemeral nonce message), source)

def decrypt (secret : Secret) (blob : Bytes) : Except VaultError Bytes :=
  if blob.length < headerSize + tagSize then .error (.malformed blob.length)
  else
    match Block.ofBytes? 32 (blob.take 32), Block.ofBytes? 24 ((blob.drop 32).take 24) with
    | some ephemeral, some nonce =>
      match Box.open? (Box.sharedKey secret.key ephemeral) nonce (blob.drop headerSize) with
      | none => .error .authenticationFailure
      | some message => .ok message
    | _, _ => .error (.malformed blob.length)

def generate (source : Random.Source) : Except VaultError Secret × Random.Source :=
  match source.draw 32 with
  | (none, source) => (.error .randomness, source)
  | (some key, source) => (.ok ⟨key⟩, source)

end Vault

end ShieldedPool
