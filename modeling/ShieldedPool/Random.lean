import ShieldedPool.Bytes

namespace ShieldedPool.Random

structure Source where
  stream : Nat → UInt8
  fails : Nat → Bool
  position : Nat
  draws : Nat

def failureMessage : String := "entropy source failed"

def Source.read (s : Source) (n : Nat) : Block n :=
  ⟨(List.range n).map fun i => s.stream (s.position + i), by simp⟩

def Source.draw (s : Source) (n : Nat) : Option (Block n) × Source :=
  if s.fails s.draws then (none, s)
  else (some (s.read n), { s with position := s.position + n, draws := s.draws + 1 })

def mix (z : UInt64) : UInt64 :=
  let z := (z ^^^ (z >>> 30)) * 0xbf58476d1ce4e5b9
  let z := (z ^^^ (z >>> 27)) * 0x94d049bb133111eb
  z ^^^ (z >>> 31)

def splitMix (seed : UInt64) (i : Nat) : UInt64 :=
  mix (seed + UInt64.ofNat (i + 1) * 0x9e3779b97f4a7c15)

def splitMixByte (seed : UInt64) (i : Nat) : UInt8 :=
  (splitMix seed (i / 8) >>> UInt64.ofNat (8 * (i % 8))).toUInt8

def Source.seeded (seed : UInt64) (limit : Option Nat) : Source where
  stream := splitMixByte seed
  fails n := match limit with
    | none => false
    | some m => m ≤ n
  position := 0
  draws := 0

def Source.ofBytes (size : Nat) (bytes : Bytes) : Source where
  stream i := bytes[i]?.getD 0
  fails n := bytes.length < (n + 1) * size
  position := 0
  draws := 0

end ShieldedPool.Random
