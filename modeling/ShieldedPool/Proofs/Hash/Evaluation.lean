import ShieldedPool.Note
import ShieldedPool.Proofs.Hash.Planes

namespace ShieldedPool.Hash

namespace Keccak

def spell (lanes : List UInt64) : Bytes := (lanes.map fun x => Bytes.natLE 8 x.toNat).flatten

def start (lanes : List UInt64) : Lanes := Vector.ofFn fun i => (lanes[i.val]?).getD 0

def outcome (s : Lanes) : List UInt64 := [lane s 0 0, lane s 1 0, lane s 2 0, lane s 3 0]

def digest (s : Lanes) : Word := ⟨spell (outcome s), by simp [spell, outcome]⟩

theorem length_spell (lanes : List UInt64) : (spell lanes).length = 8 * lanes.length := by
  induction lanes with
  | nil => rfl
  | cons x lanes ih =>
    have hrest : (spell lanes).length = _ := ih
    rw [spell] at hrest
    rw [spell, List.map_cons, List.flatten_cons, List.length_append, Bytes.length_natLE, hrest,
      List.length_cons]
    omega

theorem groups_spell (lanes : List UInt64) :
    groups 7 (spell lanes) = lanes.map fun x => Bytes.natLE 8 x.toNat := by
  induction lanes with
  | nil => rw [spell, List.map_nil, List.flatten_nil, groups]
  | cons x lanes ih =>
    rw [spell, List.map_cons, List.flatten_cons, groups_append (Bytes.length_natLE 8 _)]
    exact congrArg _ ih

theorem blockWords_spell (lanes : List UInt64) : blockWords (spell lanes) = lanes := by
  have hlane : ∀ x : UInt64, UInt64.ofNat (Bytes.valueLE (Bytes.natLE 8 x.toNat)) = x := by
    intro x
    have hx : x.toNat < Bytes.capacity 8 := x.toNat_lt
    rw [Bytes.valueLE_natLE, Nat.mod_eq_of_lt hx, UInt64.ofNat_toNat]
  rw [blockWords, groups_spell, List.map_map]
  exact (List.map_congr_left fun x _ => hlane x).trans (List.map_id lanes)

theorem hash256_block {bs : Bytes} {lanes : List UInt64} (hpad : pad bs = spell lanes)
    (hfull : lanes.length = 17) : hash256 bs = digest (permute (start lanes)) := by
  have hlength : (pad bs).length = rate := by rw [hpad, length_spell, hfull]; rfl
  have hone : groups (rate - 1) (pad bs) = [pad bs] := by
    refine groups_of_length_le (Nat.le_of_eq hlength) fun hnil => ?_
    rw [hnil] at hlength
    cases hlength
  have hstate : ((groups (rate - 1) (pad bs)).map blockWords).foldl absorb
      (Vector.replicate 25 0) = permute (start lanes) := by
    rw [hone, List.map_cons, List.map_nil, List.foldl_cons, List.foldl_nil, hpad, blockWords_spell,
      absorb]
    simp [start]
  apply Block.eq_of_bytes_eq
  simp only [hash256, hstate]
  simp [digest, spell, outcome, lane_eq]

def padding : List UInt64 := [1, 0, 0, 0, 0, 0, 0, 0, 0, 0, 0, 0, 0x8000000000000000]

theorem hash256_digest (s : Lanes) :
    hash256 (digest s).bytes = digest (permute (start (outcome s ++ padding))) := by
  refine hash256_block ?_ rfl
  have hrest : 0x01 :: List.replicate 102 0 ++ [0x80] = spell padding := by decide
  have hspell : spell (outcome s ++ padding) = (digest s).bytes ++ spell padding := by
    simp [spell, digest]
  rw [hspell, ← hrest, pad, (digest s).length_eq]
  simp [rate]

def seedBlock : List UInt64 :=
  [0x164656573, 0, 0, 0, 0, 0, 0, 0, 0, 0, 0, 0, 0, 0, 0, 0, 0x8000000000000000]

theorem hash256_seed : hash256 (Text.utf8 "seed") = digest (permute (start seedBlock)) :=
  hash256_block (by decide) rfl

namespace Plane

def bytes (p : Plane) : Bytes :=
  Bytes.natLE 8 p.l0 ++ Bytes.natLE 8 p.l1 ++ Bytes.natLE 8 p.l2 ++ Bytes.natLE 8 p.l3

def start (p : Plane) : Planes :=
  ⟨⟨p.l0, p.l1, p.l2, p.l3, 1⟩, ⟨0, 0, 0, 0, 0⟩, ⟨0, 0, 0, 0, 0⟩,
    ⟨0, 0x8000000000000000, 0, 0, 0⟩, ⟨0, 0, 0, 0, 0⟩⟩

end Plane

theorem bytes_digest (s : Lanes) : (digest s).bytes = (Planes.of s).p0.bytes := by
  simp [digest, outcome, spell, Planes.of, Plane.of, Plane.bytes]

theorem of_start (s : Lanes) :
    Planes.of (start (outcome s ++ padding)) = (Planes.of s).p0.start := by
  simp [Planes.of, Plane.of, lane_eq, outcome, start, padding, Plane.start]

def links : Nat → Plane → List Plane
  | 0, _ => []
  | n + 1, p => (p.start.permute roundConstants).p0.pin fun q => q :: links n q

end Keccak

namespace Mimc

open Keccak (Lanes Plane Planes pin)

theorem chain_digest (n : Nat) (s : Lanes) :
    (chain n (Keccak.digest s)).map Block.bytes =
      (Keccak.links n (Planes.of s).p0).map Plane.bytes := by
  induction n generalizing s with
  | zero => rfl
  | succ n ih =>
    rw [chain, Keccak.hash256_digest, List.map_cons, ih, Keccak.links, Plane.pin_eq, List.map_cons,
      Keccak.bytes_digest, Keccak.of_permute, Keccak.of_start]

theorem constants_digest (n : Nat) (s : Lanes) :
    ((chain n (Keccak.digest s)).map Field.ofWord).map Fin.val =
      ((Keccak.links n (Planes.of s).p0).map Plane.bytes).map fun bs =>
        Bytes.valueBE bs % Field.modulus := by
  rw [← chain_digest, List.map_map, List.map_map]
  rfl

def numbers : List Nat :=
  ((Keccak.links roundCount ((Planes.of (Keccak.start Keccak.seedBlock)).permute
    Keccak.roundConstants).p0).map Plane.bytes).map fun bs => Bytes.valueBE bs % Field.modulus

theorem roundConstants_eq : roundConstants.map Fin.val = numbers := by
  have h := constants_digest roundCount (Keccak.permute (Keccak.start Keccak.seedBlock))
  rw [Keccak.of_permute, ← Keccak.hash256_seed] at h
  exact h

def fifthNat (t : Nat) : Nat :=
  (t * t % Field.modulus) * (t * t % Field.modulus) % Field.modulus * t % Field.modulus

def cipherNat (key : Nat) : List Nat → Nat → Nat
  | [], m => (m + key) % Field.modulus
  | c :: cs, m =>
    pin (fifthNat (((m + key) % Field.modulus + c) % Field.modulus)) (cipherNat key cs)

def absorbNat (h x : Nat) : Nat :=
  ((cipherNat h numbers x + h) % Field.modulus + x) % Field.modulus

def hashNat (xs : List Nat) : Nat := xs.foldl absorbNat 0

theorem val_cipher (cs : List Scalar) (key m : Scalar) :
    (cipher cs key m).val = cipherNat key.val (cs.map Fin.val) m.val := by
  unfold cipher
  induction cs generalizing m with
  | nil => rfl
  | cons c cs ih =>
    rw [List.foldl_cons, ih, List.map_cons, cipherNat, Keccak.pin_eq]
    rfl

theorem val_absorb (h x : Scalar) : (absorb h x).val = absorbNat h.val x.val := by
  rw [absorb, Fin.val_add, Fin.val_add, val_cipher, roundConstants_eq, absorbNat]

theorem val_hash (xs : List Scalar) : (hash xs).val = hashNat (xs.map Fin.val) := by
  have hfold (xs : List Scalar) (h : Scalar) :
      (xs.foldl absorb h).val = (xs.map Fin.val).foldl absorbNat h.val := by
    induction xs generalizing h with
    | nil => rfl
    | cons x xs ih => rw [List.foldl_cons, ih, val_absorb, List.map_cons, List.foldl_cons]
  exact hfold xs Field.zero

theorem val_hashWords (ws : List Word) :
    (Field.ofWord (hashWords ws)).val = hashNat (ws.map fun w => w.value % Field.modulus) := by
  rw [hashWords, Field.ofWord_toWord, val_hash, List.map_map]
  rfl

theorem val_hashWords_hashWords (ws : List Word) :
    (Field.ofWord (hashWords [hashWords ws])).val =
      hashNat [hashNat (ws.map fun w => w.value % Field.modulus)] := by
  rw [hashWords, Field.ofWord_toWord, val_hash, ← val_hashWords]
  rfl

end Mimc

end ShieldedPool.Hash

namespace ShieldedPool.Note

open Hash.Mimc (hashNat)

def nullifierNat (n : Note) : Nat :=
  hashNat ([amountWord n.amount, nonceWord n.k].map fun w => w.value % Field.modulus)

def commitmentNat (n : Note) : Nat :=
  hashNat [hashNat ([amountWord n.amount, nonceWord n.k, nonceWord n.r].map fun w =>
    w.value % Field.modulus)]

theorem nullifierNat_eq {a b : Note} (h : a.nullifier = b.nullifier) :
    a.nullifierNat = b.nullifierNat := by
  have hvalue (n : Note) : (Field.ofWord n.nullifier).val = n.nullifierNat :=
    Hash.Mimc.val_hashWords _
  rw [← hvalue, h, hvalue]

theorem commitmentNat_eq {a b : Note} (h : a.commitment = b.commitment) :
    a.commitmentNat = b.commitmentNat := by
  have hvalue (n : Note) : (Field.ofWord n.commitment).val = n.commitmentNat :=
    Hash.Mimc.val_hashWords_hashWords _
  rw [← hvalue, h, hvalue]

theorem commitment_ne {a b : Note} (h : a.commitmentNat ≠ b.commitmentNat) :
    a.commitment ≠ b.commitment :=
  fun heq => h (commitmentNat_eq heq)

theorem nodup_nullifiers {ns : List Note} (h : (ns.map nullifierNat).Nodup) :
    (ns.map nullifier).Nodup :=
  List.pairwise_map.mpr ((List.pairwise_map.mp h).imp fun hne heq => hne (nullifierNat_eq heq))

theorem nodup_commitments {ns : List Note} (h : (ns.map commitmentNat).Nodup) :
    (ns.map commitment).Nodup :=
  List.pairwise_map.mpr ((List.pairwise_map.mp h).imp fun hne heq => hne (commitmentNat_eq heq))

end ShieldedPool.Note
