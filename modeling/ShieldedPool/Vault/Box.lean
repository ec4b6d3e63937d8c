import ShieldedPool.Groups
import ShieldedPool.Vault.Curve25519
import ShieldedPool.Vault.Salsa20

namespace ShieldedPool.Vault

namespace Poly1305

def prime : Nat := 0x3fffffffffffffffffffffffffffffffb

def mask : Nat := 0x0ffffffc0ffffffc0ffffffc0fffffff

def blockValue (block : Bytes) : Nat := Bytes.valueLE (block ++ [1])

def accumulate (r acc : Nat) (block : Bytes) : Nat := (acc + blockValue block) * r % prime

def tag (key : Word) (message : Bytes) : Block 16 :=
  let r := Bytes.valueLE (key.bytes.take 16) &&& mask
  let s := Bytes.valueLE (key.bytes.drop 16)
  Block.natLE 16 ((groups 15 message).foldl (accumulate r) 0 + s)

end Poly1305

namespace Box

def sharedKey (secret peer : Word) : Word :=
  Salsa20.deriveKey (Curve25519.multiply secret peer) (List.replicate 16 0)

def authenticatorKey (key : Word) (nonce : Block 24) : Word :=
  ⟨Salsa20.keyStream key nonce 32, by simp⟩

def hide (key : Word) (nonce : Block 24) (message : Bytes) : Bytes :=
  Salsa20.xor message ((Salsa20.keyStream key nonce (32 + message.length)).drop 32)

def enclose (key : Word) (nonce : Block 24) (message : Bytes) : Bytes :=
  let hidden := hide key nonce message
  (Poly1305.tag (authenticatorKey key nonce) hidden).bytes ++ hidden

def open? (key : Word) (nonce : Block 24) (box : Bytes) : Option Bytes :=
  let hidden := box.drop 16
  if box.take 16 = (Poly1305.tag (authenticatorKey key nonce) hidden).bytes then
    some (hide key nonce hidden)
  else none

end Box

end ShieldedPool.Vault
