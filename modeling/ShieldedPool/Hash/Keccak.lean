import ShieldedPool.Bytes
import ShieldedPool.Groups

/-!
Keccak with 1600 bits of state and a 256-bit digest, in its first padding (a single set bit
after the message).
-/

namespace ShieldedPool.Hash.Keccak

abbrev Lanes := Vector UInt64 25

def lane (s : Lanes) (x y : Nat) : UInt64 :=
  s.get ⟨x % 5 + 5 * (y % 5), by omega⟩

def rotl (x : UInt64) (n : Nat) : UInt64 :=
  if n = 0 then x else (x <<< UInt64.ofNat n) ||| (x >>> UInt64.ofNat (64 - n))

def rotations : Vector Nat 25 := #v[
  0, 1, 62, 28, 27, 36, 44, 6, 55, 20, 3, 10, 43, 25, 39, 41, 45, 15, 21, 8, 18, 2, 61, 56, 14]

def roundConstants : List UInt64 := [
  0x0000000000000001, 0x0000000000008082, 0x800000000000808a, 0x8000000080008000,
  0x000000000000808b, 0x0000000080000001, 0x8000000080008081, 0x8000000000008009,
  0x000000000000008a, 0x0000000000000088, 0x0000000080008009, 0x000000008000000a,
  0x000000008000808b, 0x800000000000008b, 0x8000000000008089, 0x8000000000008003,
  0x8000000000008002, 0x8000000000000080, 0x000000000000800a, 0x800000008000000a,
  0x8000000080008081, 0x8000000000008080, 0x0000000080000001, 0x8000000080008008]

def column (s : Lanes) (x : Nat) : UInt64 :=
  lane s x 0 ^^^ lane s x 1 ^^^ lane s x 2 ^^^ lane s x 3 ^^^ lane s x 4

def theta (s : Lanes) : Lanes :=
  let c : Vector UInt64 5 := .ofFn fun x => column s x.val
  Vector.ofFn fun i =>
    s[i] ^^^ c.get ⟨(i.val + 4) % 5, by omega⟩ ^^^ rotl (c.get ⟨(i.val + 1) % 5, by omega⟩) 1

def rhoPi (s : Lanes) : Lanes :=
  Vector.ofFn fun i =>
    let x := i.val % 5
    let y := i.val / 5
    let source := (x + 3 * y) % 5 + 5 * (x % 5)
    rotl (s.get ⟨source, by omega⟩) (rotations.get ⟨source, by omega⟩)

def chi (s : Lanes) : Lanes :=
  Vector.ofFn fun i =>
    let x := i.val % 5
    let y := i.val / 5
    lane s x y ^^^ (~~~lane s (x + 1) y &&& lane s (x + 2) y)

def round (s : Lanes) (constant : UInt64) : Lanes :=
  let t := chi (rhoPi (theta s))
  t.set 0 (t[0] ^^^ constant)

def permute (s : Lanes) : Lanes := roundConstants.foldl round s

def rate : Nat := 136

def pad (bs : Bytes) : Bytes :=
  let gap := rate - bs.length % rate
  if gap = 1 then bs ++ [0x81] else bs ++ 0x01 :: List.replicate (gap - 2) 0 ++ [0x80]

def absorb (s : Lanes) (block : List UInt64) : Lanes :=
  permute (Vector.ofFn fun i => s[i] ^^^ (block[i.val]?).getD 0)

def blockWords (block : Bytes) : List UInt64 :=
  (groups 7 block).map fun g => UInt64.ofNat (Bytes.valueLE g)

def hash256 (bs : Bytes) : Word :=
  let s := ((groups (rate - 1) (pad bs)).map blockWords).foldl absorb (Vector.replicate 25 0)
  ⟨Bytes.natLE 8 s[0].toNat ++ Bytes.natLE 8 s[1].toNat ++ Bytes.natLE 8 s[2].toNat ++
    Bytes.natLE 8 s[3].toNat, by simp⟩

end ShieldedPool.Hash.Keccak
