namespace ShieldedPool.Text.Decimal

def digit (n : Nat) : Char := Char.ofNat (48 + n % 10)

def digitValue? (c : Char) : Option Nat :=
  if '0' ≤ c ∧ c ≤ '9' then some (c.toNat - 48) else none

def isDigit (c : Char) : Bool := (digitValue? c).isSome

def render (n : Nat) : List Char :=
  if n < 10 then [digit n] else render (n / 10) ++ [digit n]
termination_by n

def scale (n : Nat) : Nat := Nat.pow 10 n

def value (cs : List Char) : Nat :=
  cs.foldl (fun n c => n * 10 + (digitValue? c).getD 0) 0

def padLeft (width : Nat) (cs : List Char) : List Char :=
  List.replicate (width - cs.length) '0' ++ cs

def padRight (width : Nat) (cs : List Char) : List Char :=
  cs ++ List.replicate (width - cs.length) '0'

inductive NumeralError where
  | empty
  | invalidDigit
  | tooLarge
  deriving DecidableEq, Repr

def NumeralError.message : NumeralError → String
  | .empty => "cannot parse integer from empty string"
  | .invalidDigit => "invalid digit found in string"
  | .tooLarge => "number too large to fit in target type"

def readDigits (bound : Nat) : Nat → List Char → Except NumeralError Nat
  | n, [] => .ok n
  | n, c :: cs =>
    match digitValue? c with
    | none => .error .invalidDigit
    | some d =>
      if n * 10 + d < bound then readDigits bound (n * 10 + d) cs else .error .tooLarge

def readBelow (bound : Nat) : List Char → Except NumeralError Nat
  | [] => .error .empty
  | ['+'] => .error .invalidDigit
  | '+' :: cs => readDigits bound 0 cs
  | cs => readDigits bound 0 cs

def readUInt64 (s : String) : Except NumeralError UInt64 :=
  (readBelow UInt64.size s.toList).map UInt64.ofNat

def text (n : Nat) : String := String.ofList (render n)

def intText (n : Int) : String := if n < 0 then "-" ++ text n.natAbs else text n.natAbs

end ShieldedPool.Text.Decimal
