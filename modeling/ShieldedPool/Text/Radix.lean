import ShieldedPool.Bytes
import ShieldedPool.Groups
import ShieldedPool.Text.Chars

namespace ShieldedPool.Text

namespace Radix

def bitsOf : Nat → Nat → List Bool
  | 0, _ => []
  | k + 1, n => n.testBit k :: bitsOf k n

def ofBits (bs : List Bool) : Nat := bs.foldl (fun n b => 2 * n + b.toNat) 0

def fillZero (k : Nat) (bs : List Bool) : List Bool :=
  bs ++ List.replicate (k - bs.length) false

def digitsOf (k : Nat) (bs : Bytes) : List Nat :=
  (groups (k - 1) (bs.flatMap fun b => bitsOf 8 b.toNat)).map fun g => ofBits (fillZero k g)

def ofDigits (k : Nat) (ds : List Nat) : Bytes :=
  ((groups 7 (ds.flatMap (bitsOf k))).filter (·.length == 8)).map fun g => UInt8.ofNat (ofBits g)

end Radix

structure Alphabet where
  width : Nat
  digit : Nat → Char
  digitValue? : Char → Option Nat
  padding : Bytes → List Char
  width_pos : 0 < width
  width_le : width ≤ 8
  digit_read : ∀ n < Nat.pow 2 width, digitValue? (digit n) = some n
  digit_ne_padding : ∀ n < Nat.pow 2 width, digit n ≠ '='
  digit_ascii : ∀ n < Nat.pow 2 width, (digit n).toNat ≤ 127
  digit_not_blank : ∀ n < Nat.pow 2 width, isBlank (digit n) = false
  padding_eq : ∀ bs, ∀ c ∈ padding bs, c = '='

namespace Alphabet

variable (a : Alphabet)

def encodeList (bs : Bytes) : List Char :=
  (Radix.digitsOf a.width bs).map a.digit ++ a.padding bs

def encode (bs : Bytes) : String := String.ofList (a.encodeList bs)

def decode? (cs : List Char) : Option Bytes :=
  match (cs.takeWhile (· != '=')).mapM a.digitValue? with
  | none => none
  | some ds =>
    let bs := Radix.ofDigits a.width ds
    if a.encodeList bs = cs then some bs else none

end Alphabet

def Base32 : Alphabet where
  width := 5
  digit n := if n < 26 then Char.ofNat (65 + n) else Char.ofNat (24 + n)
  digitValue? c :=
    if 'A' ≤ c ∧ c ≤ 'Z' then some (c.toNat - 65)
    else if '2' ≤ c ∧ c ≤ '7' then some (c.toNat - 24)
    else none
  padding _ := []
  width_pos := by decide
  width_le := by decide
  digit_read := by decide
  digit_ne_padding := by decide
  digit_ascii := by decide
  digit_not_blank := by decide
  padding_eq := fun _ => List.forall_mem_nil _

def Base64 : Alphabet where
  width := 6
  digit n :=
    if n < 26 then Char.ofNat (65 + n)
    else if n < 52 then Char.ofNat (71 + n)
    else if n < 62 then Char.ofNat (n - 4)
    else if n = 62 then '+'
    else '/'
  digitValue? c :=
    if 'A' ≤ c ∧ c ≤ 'Z' then some (c.toNat - 65)
    else if 'a' ≤ c ∧ c ≤ 'z' then some (c.toNat - 71)
    else if '0' ≤ c ∧ c ≤ '9' then some (c.toNat + 4)
    else if c = '+' then some 62
    else if c = '/' then some 63
    else none
  padding bs :=
    match bs.length % 3 with
    | 0 => []
    | 1 => ['=', '=']
    | _ => ['=']
  width_pos := by decide
  width_le := by decide
  digit_read := by decide
  digit_ne_padding := by decide
  digit_ascii := by decide
  digit_not_blank := by decide
  padding_eq := fun bs c hc => by
    split at hc <;> simp at hc <;> exact hc

end ShieldedPool.Text
