namespace ShieldedPool

abbrev Bytes := List UInt8

structure Block (n : Nat) where
  bytes : Bytes
  length_eq : bytes.length = n
  deriving DecidableEq

namespace Block

variable {n : Nat}

theorem eq_of_bytes_eq {a b : Block n} (h : a.bytes = b.bytes) : a = b := by
  cases a; cases b; simp_all

def ofBytes? (n : Nat) (bs : Bytes) : Option (Block n) :=
  if h : bs.length = n then some ⟨bs, h⟩ else none

theorem ofBytes?_eq_some_iff {bs : Bytes} {a : Block n} :
    ofBytes? n bs = some a ↔ bs = a.bytes := by
  constructor
  · intro h
    unfold ofBytes? at h
    split at h
    · cases h; rfl
    · cases h
  · rintro rfl
    simp [ofBytes?, a.length_eq]

def fill (n : Nat) (b : UInt8) : Block n := ⟨List.replicate n b, List.length_replicate⟩

def zero (n : Nat) : Block n := fill n 0

instance : Inhabited (Block n) := ⟨zero n⟩

def isZero (a : Block n) : Bool := a.bytes.all (· == 0)

def append {m : Nat} (a : Block m) (b : Block n) : Block (m + n) :=
  ⟨a.bytes ++ b.bytes, by simp [a.length_eq, b.length_eq]⟩

end Block

abbrev Word := Block 32

abbrev Nonce := Block 31

namespace Bytes

def natLE : Nat → Nat → Bytes
  | 0, _ => []
  | w + 1, n => UInt8.ofNat n :: natLE w (n / 256)

def natBE (w n : Nat) : Bytes := (natLE w n).reverse

def valueLE : Bytes → Nat
  | [] => 0
  | b :: bs => b.toNat + 256 * valueLE bs

def valueBE (bs : Bytes) : Nat := valueLE bs.reverse

def capacity (w : Nat) : Nat := Nat.pow 256 w

theorem capacity_zero : capacity 0 = 1 := rfl

theorem capacity_succ (w : Nat) : capacity (w + 1) = 256 * capacity w := Nat.mul_comm _ _

theorem capacity_pos (w : Nat) : 0 < capacity w := by
  induction w with
  | zero => decide
  | succ w ih => rw [capacity_succ]; omega

@[simp] theorem length_natLE (w n : Nat) : (natLE w n).length = w := by
  induction w generalizing n with
  | zero => rfl
  | succ w ih => simp [natLE, ih]

@[simp] theorem length_natBE (w n : Nat) : (natBE w n).length = w := by simp [natBE]

theorem valueLE_natLE (w n : Nat) : valueLE (natLE w n) = n % capacity w := by
  induction w generalizing n with
  | zero => rw [natLE, valueLE, capacity_zero, Nat.mod_one]
  | succ w ih =>
    rw [natLE, valueLE, ih, capacity_succ, Nat.mod_mul]
    simp

theorem valueBE_natBE (w n : Nat) : valueBE (natBE w n) = n % capacity w := by
  simp [valueBE, natBE, valueLE_natLE]

theorem natLE_valueLE (bs : Bytes) : natLE bs.length (valueLE bs) = bs := by
  induction bs with
  | nil => rfl
  | cons b bs ih =>
    have hb := b.toNat_lt
    have h1 : (b.toNat + 256 * valueLE bs) / 256 = valueLE bs := by omega
    have h2 : UInt8.ofNat (b.toNat + 256 * valueLE bs) = b := by
      apply UInt8.toNat_inj.1
      simp
    rw [List.length_cons, natLE, valueLE, h1, h2, ih]

theorem natBE_valueBE (bs : Bytes) : natBE bs.length (valueBE bs) = bs := by
  have h := natLE_valueLE bs.reverse
  rw [List.length_reverse] at h
  rw [natBE, valueBE, h, List.reverse_reverse]

theorem valueLE_lt (bs : Bytes) : valueLE bs < capacity bs.length := by
  induction bs with
  | nil => exact capacity_pos 0
  | cons b bs ih =>
    have hb := b.toNat_lt
    rw [valueLE, List.length_cons, capacity_succ]
    omega

theorem valueBE_lt (bs : Bytes) : valueBE bs < capacity bs.length := by
  have h := valueLE_lt bs.reverse
  rwa [List.length_reverse] at h

theorem valueLE_append_zero (bs : Bytes) : valueLE (bs ++ [0]) = valueLE bs := by
  induction bs with
  | nil => rfl
  | cons b bs ih => rw [List.cons_append, valueLE, ih, valueLE]

theorem valueBE_zero_cons (bs : Bytes) : valueBE (0 :: bs) = valueBE bs := by
  rw [valueBE, List.reverse_cons, valueLE_append_zero, valueBE]

end Bytes

def Block.natBE (n v : Nat) : Block n := ⟨Bytes.natBE n v, Bytes.length_natBE n v⟩

def Block.natLE (n v : Nat) : Block n := ⟨Bytes.natLE n v, Bytes.length_natLE n v⟩

def Block.value {n : Nat} (a : Block n) : Nat := Bytes.valueBE a.bytes

theorem Block.eq_of_value_eq {n : Nat} {a b : Block n} (h : a.value = b.value) : a = b := by
  apply eq_of_bytes_eq
  rw [← Bytes.natBE_valueBE a.bytes, ← Bytes.natBE_valueBE b.bytes, a.length_eq, b.length_eq]
  exact congrArg (Bytes.natBE n) h

def Bytes.ofUInt64 (x : UInt64) : Bytes := natBE 8 x.toNat

def Bytes.toUInt64 (bs : Bytes) : UInt64 := UInt64.ofNat (valueBE bs)

theorem Bytes.toUInt64_ofUInt64 (x : UInt64) : toUInt64 (ofUInt64 x) = x := by
  have h : x.toNat < capacity 8 := x.toNat_lt
  rw [toUInt64, ofUInt64, valueBE_natBE, Nat.mod_eq_of_lt h, UInt64.ofNat_toNat]

theorem Bytes.ofUInt64_injective {x y : UInt64} (h : ofUInt64 x = ofUInt64 y) : x = y := by
  rw [← toUInt64_ofUInt64 x, h, toUInt64_ofUInt64]

theorem Bytes.ofUInt64_toUInt64 {bs : Bytes} (h : bs.length = 8) :
    ofUInt64 (toUInt64 bs) = bs := by
  have hvalue := valueBE_lt bs
  have hcapacity : capacity 8 = UInt64.size := by decide
  rw [h, hcapacity] at hvalue
  rw [ofUInt64, toUInt64, UInt64.toNat_ofNat_of_lt' hvalue, ← h, natBE_valueBE]

end ShieldedPool
