import ShieldedPool.Bytes
import ShieldedPool.Groups

namespace ShieldedPool.Vault.Salsa20

abbrev Cells := Vector UInt32 16

def rotl (x : UInt32) (n : UInt32) : UInt32 := (x <<< n) ||| (x >>> (32 - n))

def quarter (s : Cells) (a b c d : Fin 16) : Cells :=
  let s := s.set b (s[b] ^^^ rotl (s[a] + s[d]) 7)
  let s := s.set c (s[c] ^^^ rotl (s[b] + s[a]) 9)
  let s := s.set d (s[d] ^^^ rotl (s[c] + s[b]) 13)
  s.set a (s[a] ^^^ rotl (s[d] + s[c]) 18)

def doubleRound (s : Cells) : Cells :=
  let s := quarter s 0 4 8 12
  let s := quarter s 5 9 13 1
  let s := quarter s 10 14 2 6
  let s := quarter s 15 3 7 11
  let s := quarter s 0 1 2 3
  let s := quarter s 5 6 7 4
  let s := quarter s 10 11 8 9
  quarter s 15 12 13 14

def iterate : Nat → Cells → Cells
  | 0, s => s
  | n + 1, s => iterate n (doubleRound s)

def words (bs : Bytes) : List UInt32 :=
  (groups 3 bs).map fun g => UInt32.ofNat (Bytes.valueLE g)

def start (key input : Bytes) : Cells :=
  let k := words key
  let n := words input
  let at? (ws : List UInt32) (i : Nat) : UInt32 := (ws[i]?).getD 0
  #v[0x61707865, at? k 0, at? k 1, at? k 2, at? k 3, 0x3320646e, at? n 0, at? n 1,
    at? n 2, at? n 3, 0x79622d32, at? k 4, at? k 5, at? k 6, at? k 7, 0x6b206574]

def cellBytes (c : UInt32) : Bytes := Bytes.natLE 4 c.toNat

def blockOf (key input : Bytes) : Bytes :=
  let s := start key input
  let t := iterate 10 s
  (List.finRange 16).flatMap fun i => cellBytes (s[i] + t[i])

theorem length_blockOf (key input : Bytes) : (blockOf key input).length = 64 := by
  simp [blockOf, cellBytes, List.length_flatMap, List.map_const']

def deriveKey (key : Word) (input : Bytes) : Word :=
  let t := iterate 10 (start key.bytes input)
  ⟨[0, 5, 10, 15, 6, 7, 8, 9].flatMap fun i : Fin 16 => cellBytes t[i],
    by simp [cellBytes]⟩

def blocks (key : Word) (nonce : Bytes) : Nat → Nat → Bytes
  | 0, _ => []
  | n + 1, i => blockOf key.bytes (nonce ++ Bytes.natLE 8 i) ++ blocks key nonce n (i + 1)

theorem length_blocks (key : Word) (nonce : Bytes) (n i : Nat) :
    (blocks key nonce n i).length = 64 * n := by
  induction n generalizing i with
  | zero => rfl
  | succ n ih => rw [blocks, List.length_append, length_blockOf, ih]; omega

def keyStream (key : Word) (nonce : Block 24) (length : Nat) : Bytes :=
  let inner := deriveKey key (nonce.bytes.take 16)
  (blocks inner (nonce.bytes.drop 16) (length / 64 + 1) 0).take length

@[simp] theorem length_keyStream (key : Word) (nonce : Block 24) (length : Nat) :
    (keyStream key nonce length).length = length := by
  rw [keyStream, List.length_take, length_blocks]
  omega

def xor (bs stream : Bytes) : Bytes := List.zipWith (· ^^^ ·) bs stream

end ShieldedPool.Vault.Salsa20
