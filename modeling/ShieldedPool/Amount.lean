import ShieldedPool.Arithmetic
import ShieldedPool.Protocol
import ShieldedPool.Text.Chars
import ShieldedPool.Text.Decimal

namespace ShieldedPool

structure Amount where
  units : UInt64
  display : String
  deriving DecidableEq, Repr

inductive AmountError where
  | empty
  | invalid (input : String)
  | precision
  | overflow
  deriving DecidableEq, Repr

def AmountError.message : AmountError → String
  | .empty => "empty amount"
  | .invalid input => "invalid amount: " ++ input
  | .precision => "too many decimal places (max 6)"
  | .overflow => "amount overflows"

namespace Amount

open Text (Decimal.render Decimal.isDigit Decimal.padLeft Decimal.padRight Decimal.readBelow)

def separate : List Char → List Char
  | [] => []
  | c :: cs => if (cs.length + 1) % 3 = 0 then ',' :: c :: separate cs else c :: separate cs

def thousands : List Char → List Char
  | [] => []
  | c :: cs => c :: separate cs

def fraction (n : Nat) : List Char :=
  ((Decimal.padLeft Protocol.unitDecimals (Decimal.render n)).reverse.dropWhile (· == '0')).reverse

def displayList (units : Nat) : List Char :=
  let whole := thousands (Decimal.render (units / Protocol.unitsPerCoin))
  match fraction (units % Protocol.unitsPerCoin) with
  | [] => whole
  | f => whole ++ '.' :: f

def ofUnits (units : UInt64) : Amount := ⟨units, String.ofList (displayList units.toNat)⟩

def rounded (a : Amount) : Amount :=
  let n := a.units.toNat
  let whole := (n + Protocol.unitsPerCoin / 2) / Protocol.unitsPerCoin
  { a with display := String.ofList (thousands (Decimal.render whole)) }

def splitPoint (cs : List Char) : List Char × List Char :=
  (cs.takeWhile (· != '.'), (cs.dropWhile (· != '.')).drop 1)

def fitting : Option UInt64 → Except AmountError UInt64
  | none => .error .overflow
  | some units => .ok units

def wholeUnits (cs : List Char) : Except AmountError UInt64 :=
  if cs.isEmpty then .ok 0
  else match Decimal.readBelow UInt64.size cs with
    | .error _ => .error .overflow
    | .ok n => fitting (checkedMul (UInt64.ofNat n) (UInt64.ofNat Protocol.unitsPerCoin))

def fractionUnits (input : String) (cs : List Char) : Except AmountError UInt64 :=
  if cs.isEmpty then .ok 0
  else match Decimal.readBelow UInt64.size (Decimal.padRight Protocol.unitDecimals cs) with
    | .error _ => .error (.invalid input)
    | .ok n => .ok (UInt64.ofNat n)

def parse (input : String) : Except AmountError Amount :=
  match Text.trimList input.toList with
  | [] => .error .empty
  | cs =>
    let (whole, frac) := splitPoint cs
    if whole.isEmpty && frac.isEmpty then .error (.invalid input)
    else if !(whole.all Decimal.isDigit && frac.all Decimal.isDigit) then .error (.invalid input)
    else if Protocol.unitDecimals < frac.length then .error .precision
    else do
      let wholeUnits ← wholeUnits whole
      let fracUnits ← fractionUnits input frac
      let units ← fitting (checkedAdd wholeUnits fracUnits)
      return ofUnits units

end Amount

end ShieldedPool
