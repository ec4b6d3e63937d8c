import ShieldedPool.Arithmetic
import ShieldedPool.Bytes

namespace ShieldedPool.Vault.Curve25519

def prime : Nat := 0x7fffffffffffffffffffffffffffffffffffffffffffffffffffffffffffffed

def sub (a b : Nat) : Nat := (a + prime - b) % prime

def inverse (a : Nat) : Nat := powMod prime a 255 (prime - 2)

structure Rungs where
  x2 : Nat
  z2 : Nat
  x3 : Nat
  z3 : Nat

def Rungs.swap (r : Rungs) (b : Bool) : Rungs :=
  if b then ⟨r.x3, r.z3, r.x2, r.z2⟩ else r

def Rungs.step (x1 : Nat) (r : Rungs) : Rungs :=
  let a := (r.x2 + r.z2) % prime
  let aa := a * a % prime
  let b := sub r.x2 r.z2
  let bb := b * b % prime
  let e := sub aa bb
  let c := (r.x3 + r.z3) % prime
  let d := sub r.x3 r.z3
  let da := d * a % prime
  let cb := c * b % prime
  let sum := (da + cb) % prime
  let difference := sub da cb
  ⟨aa * bb % prime, e * (aa + 121665 * e) % prime, sum * sum % prime,
    x1 * (difference * difference % prime) % prime⟩

def ladder (x1 k : Nat) : Nat → Rungs → Rungs
  | 0, r => r
  | n + 1, r =>
    let bit := k.testBit n
    ladder x1 k n (((r.swap bit).step x1).swap bit)

def highBit : Nat := 0x4000000000000000000000000000000000000000000000000000000000000000

def clamp (k : Nat) : Nat := k % highBit / 8 * 8 + highBit

def order : Nat := 0x1000000000000000000000000000000014def9dea2f79cd65812631a5cf5d3ed

/-- The clamped scalar is reduced, which shows only on points outside the base point's group. -/
def multiply (scalar point : Word) : Word :=
  let k := clamp (Bytes.valueLE scalar.bytes) % order
  let x1 := Bytes.valueLE point.bytes % (2 * highBit) % prime
  let r := ladder x1 k 255 ⟨1, 0, x1, 1⟩
  Block.natLE 32 (r.x2 * inverse r.z2 % prime)

def basePoint : Word := Block.natLE 32 9

def publicKey (secret : Word) : Word := multiply secret basePoint

end ShieldedPool.Vault.Curve25519
