import ShieldedPool.Field
import ShieldedPool.Hash.Keccak
import ShieldedPool.Text.Utf8

namespace ShieldedPool.Hash.Mimc

def roundCount : Nat := 110

def chain : Nat → Word → List Word
  | 0, _ => []
  | n + 1, w => let next := Keccak.hash256 w.bytes; next :: chain n next

def roundConstants : List Scalar :=
  (chain roundCount (Keccak.hash256 (Text.utf8 "seed"))).map Field.ofWord

def fifth (t : Scalar) : Scalar := (t * t) * (t * t) * t

def cipherRound (key m c : Scalar) : Scalar := fifth (m + key + c)

def cipher (constants : List Scalar) (key m : Scalar) : Scalar :=
  constants.foldl (cipherRound key) m + key

def absorb (h x : Scalar) : Scalar := cipher roundConstants h x + h + x

def hash (xs : List Scalar) : Scalar := xs.foldl absorb Field.zero

def hash2 (a b : Scalar) : Scalar := hash [a, b]

def hashWords (ws : List Word) : Word := Field.toWord (hash (ws.map Field.ofWord))

end ShieldedPool.Hash.Mimc
