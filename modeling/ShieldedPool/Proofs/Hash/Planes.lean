import ShieldedPool.Hash.Keccak

namespace ShieldedPool.Hash.Keccak

structure Plane where
  (l0 l1 l2 l3 l4 : Nat)

structure Planes where
  (p0 p1 p2 p3 p4 : Plane)

-- The operations are named in full: the kernel computes them on numerals as they stand.
def xor64 (a b : Nat) : Nat := Nat.xor a b

def turn (n x : Nat) : Nat :=
  Nat.lor (Nat.mod (Nat.shiftLeft x n) UInt64.size) (Nat.shiftRight x (Nat.sub 64 n))

def mix (a b c : Nat) : Nat := Nat.xor a (Nat.land (Nat.sub 18446744073709551615 b) c)

theorem toNat_xor64 (a b : UInt64) : (a ^^^ b).toNat = xor64 a.toNat b.toNat := UInt64.toNat_xor a b

theorem toNat_turn (x : UInt64) {n : Nat} (h0 : 0 < n) (h : n < 64) :
    (rotl x n).toNat = turn n x.toNat := by
  have hn : n % 2 ^ 64 = n := Nat.mod_eq_of_lt (by omega)
  have hback : (64 - n) % 2 ^ 64 = 64 - n := Nat.mod_eq_of_lt (by omega)
  unfold rotl turn
  rw [if_neg (Nat.ne_of_gt h0), UInt64.toNat_or, UInt64.toNat_shiftLeft, UInt64.toNat_shiftRight,
    UInt64.toNat_ofNat', UInt64.toNat_ofNat', hn, hback, Nat.mod_eq_of_lt h,
    Nat.mod_eq_of_lt (show 64 - n < 64 by omega)]
  rfl

theorem toNat_mix (a b c : UInt64) :
    (a ^^^ (~~~b &&& c)).toNat = mix a.toNat b.toNat c.toNat := by
  rw [UInt64.toNat_xor, UInt64.toNat_and, UInt64.toNat_not]
  rfl

namespace Plane

def of (s : Lanes) (y : Nat) : Plane :=
  ⟨(lane s 0 y).toNat, (lane s 1 y).toNat, (lane s 2 y).toNat, (lane s 3 y).toNat,
    (lane s 4 y).toNat⟩

def xor (p q : Plane) : Plane :=
  ⟨xor64 p.l0 q.l0, xor64 p.l1 q.l1, xor64 p.l2 q.l2, xor64 p.l3 q.l3, xor64 p.l4 q.l4⟩

def theta (p columns : Plane) : Plane :=
  ⟨xor64 (xor64 p.l0 columns.l4) (turn 1 columns.l1),
    xor64 (xor64 p.l1 columns.l0) (turn 1 columns.l2),
    xor64 (xor64 p.l2 columns.l1) (turn 1 columns.l3),
    xor64 (xor64 p.l3 columns.l2) (turn 1 columns.l4),
    xor64 (xor64 p.l4 columns.l3) (turn 1 columns.l0)⟩

def chi (p : Plane) : Plane :=
  ⟨mix p.l0 p.l1 p.l2, mix p.l1 p.l2 p.l3, mix p.l2 p.l3 p.l4, mix p.l3 p.l4 p.l0,
    mix p.l4 p.l0 p.l1⟩

end Plane

namespace Planes

def of (s : Lanes) : Planes :=
  ⟨Plane.of s 0, Plane.of s 1, Plane.of s 2, Plane.of s 3, Plane.of s 4⟩

def theta (s : Planes) : Planes :=
  let columns := (((s.p0.xor s.p1).xor s.p2).xor s.p3).xor s.p4
  ⟨s.p0.theta columns, s.p1.theta columns, s.p2.theta columns, s.p3.theta columns,
    s.p4.theta columns⟩

def rhoPi (s : Planes) : Planes :=
  ⟨⟨s.p0.l0, turn 44 s.p1.l1, turn 43 s.p2.l2, turn 21 s.p3.l3, turn 14 s.p4.l4⟩,
    ⟨turn 28 s.p0.l3, turn 20 s.p1.l4, turn 3 s.p2.l0, turn 45 s.p3.l1, turn 61 s.p4.l2⟩,
    ⟨turn 1 s.p0.l1, turn 6 s.p1.l2, turn 25 s.p2.l3, turn 8 s.p3.l4, turn 18 s.p4.l0⟩,
    ⟨turn 27 s.p0.l4, turn 36 s.p1.l0, turn 10 s.p2.l1, turn 15 s.p3.l2, turn 56 s.p4.l3⟩,
    ⟨turn 62 s.p0.l2, turn 55 s.p1.l3, turn 39 s.p2.l4, turn 41 s.p3.l0, turn 2 s.p4.l1⟩⟩

def chi (s : Planes) : Planes := ⟨s.p0.chi, s.p1.chi, s.p2.chi, s.p3.chi, s.p4.chi⟩

def iota (s : Planes) (c : Nat) : Planes := { s with p0 := { s.p0 with l0 := xor64 s.p0.l0 c } }

def round (s : Planes) (c : Nat) : Planes := s.theta.rhoPi.chi.iota c

end Planes

section Rounds

variable (s : Lanes)

theorem lane_eq (x y : Nat) (h : x % 5 + 5 * (y % 5) < 25) :
    lane s x y = s[x % 5 + 5 * (y % 5)] :=
  rfl

theorem getElem_theta {i : Nat} (h : i < 25) :
    (theta s)[i] = s[i] ^^^ column s ((i + 4) % 5) ^^^ rotl (column s ((i + 1) % 5)) 1 := by
  simp only [theta, Vector.getElem_ofFn, Vector.get, Vector.toArray_ofFn, Array.getElem_ofFn]
  rfl

theorem getElem_rhoPi {i : Nat} (h : i < 25) :
    (rhoPi s)[i] = rotl (s[(i % 5 + 3 * (i / 5)) % 5 + 5 * (i % 5 % 5)])
      (rotations[(i % 5 + 3 * (i / 5)) % 5 + 5 * (i % 5 % 5)]) := by
  rw [rhoPi, Vector.getElem_ofFn]
  rfl

theorem getElem_chi {i : Nat} (h : i < 25) :
    (chi s)[i] = lane s (i % 5) (i / 5) ^^^
      (~~~lane s (i % 5 + 1) (i / 5) &&& lane s (i % 5 + 2) (i / 5)) := by
  rw [chi, Vector.getElem_ofFn]

theorem of_theta : Planes.of (theta s) = (Planes.of s).theta := by
  simp [Planes.of, Plane.of, getElem_theta, Planes.theta, Plane.theta, Plane.xor, column, lane_eq,
    toNat_turn, toNat_xor64, -UInt64.toNat_xor]

theorem of_rhoPi : Planes.of (rhoPi s) = (Planes.of s).rhoPi := by
  have hstay : rotl s[0] 0 = s[0] := rfl
  simp [Planes.of, Plane.of, lane_eq, getElem_rhoPi, Planes.rhoPi, rotations, toNat_turn, hstay]

theorem of_chi : Planes.of (chi s) = (Planes.of s).chi := by
  simp [Planes.of, Plane.of, getElem_chi, Planes.chi, Plane.chi, toNat_mix, lane_eq,
    -UInt64.toNat_xor]

theorem of_round (c : UInt64) : Planes.of (round s c) = (Planes.of s).round c.toNat := by
  rw [Planes.round, ← of_theta, ← of_rhoPi, ← of_chi]
  simp [round, Planes.of, Plane.of, lane_eq, Planes.iota, toNat_xor64, -UInt64.toNat_xor]

end Rounds

section Pins

variable {α : Type}

def pin (n : Nat) (next : Nat → α) : α :=
  match n with
  | 0 => next 0
  | m + 1 => next (Nat.succ m)

theorem pin_eq (n : Nat) (next : Nat → α) : pin n next = next n := by
  cases n with
  | zero => rfl
  | succ m => rfl

def Plane.pin (p : Plane) (next : Plane → α) : α :=
  Keccak.pin p.l0 fun a => Keccak.pin p.l1 fun b => Keccak.pin p.l2 fun c =>
    Keccak.pin p.l3 fun d => Keccak.pin p.l4 fun e => next ⟨a, b, c, d, e⟩

theorem Plane.pin_eq (p : Plane) (next : Plane → α) : p.pin next = next p := by
  simp only [Plane.pin, Keccak.pin_eq]

def Planes.pin (s : Planes) (next : Planes → α) : α :=
  s.p0.pin fun a => s.p1.pin fun b => s.p2.pin fun c => s.p3.pin fun d => s.p4.pin fun e =>
    next ⟨a, b, c, d, e⟩

theorem Planes.pin_eq (s : Planes) (next : Planes → α) : s.pin next = next s := by
  simp only [Planes.pin, Plane.pin_eq]

end Pins

def Planes.permute : List UInt64 → Planes → Planes
  | [], s => s
  | c :: cs, s => (s.round c.toNat).pin (permute cs)

theorem of_permute (s : Lanes) : Planes.of (permute s) = (Planes.of s).permute roundConstants := by
  have hrounds (cs : List UInt64) (s : Lanes) :
      Planes.of (cs.foldl round s) = (Planes.of s).permute cs := by
    induction cs generalizing s with
    | nil => rfl
    | cons c cs ih => rw [List.foldl_cons, ih, of_round, Planes.permute, Planes.pin_eq]
  exact hrounds roundConstants s

end ShieldedPool.Hash.Keccak
