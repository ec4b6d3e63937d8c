import ShieldedPool.Text.Chars
import ShieldedPool.Text.Decimal
import ShieldedPool.Text.Utf8

namespace ShieldedPool.Store

/-- The value in a column of a row. A real number is counted in units of the least positive
double, a text is kept as its UTF-8 bytes. -/
inductive Cell where
  | null
  | integer (n : Int)
  | real (units : Int)
  | text (bytes : Bytes)
  | blob (bytes : Bytes)
  deriving DecidableEq, Repr

namespace Cell

def unit : Nat := 1 <<< 1074

def signed (isNegative : Bool) (n : Nat) : Int := if isNegative then -(n : Int) else n

def ofDouble (bits : Nat) : Cell :=
  let fraction := bits % (1 <<< 52)
  let exponent := bits / (1 <<< 52) % 2048
  if exponent = 2047 ∧ fraction ≠ 0 then .null
  else
    .real (signed (1 <<< 63 ≤ bits)
      (if exponent = 0 then fraction else ((1 <<< 52) + fraction) <<< (exponent - 1)))

def maxShift : Nat := 400

def splitSign : List Char → Bool × List Char
  | '-' :: rest => (true, rest)
  | '+' :: rest => (false, rest)
  | cs => (false, cs)

def splitFraction : List Char → List Char × List Char
  | '.' :: rest => (rest.takeWhile Text.Decimal.isDigit, rest.dropWhile Text.Decimal.isDigit)
  | cs => ([], cs)

def readExponent? : List Char → Option Int
  | [] => some 0
  | e :: rest =>
    let (isNegative, digits) := splitSign rest
    if e.toLower = 'e' ∧ digits ≠ [] ∧ digits.all Text.Decimal.isDigit then
      some (signed isNegative (Nat.min maxShift (Text.Decimal.value digits)))
    else none

def ofRatio (isNegative : Bool) (n d : Nat) : Cell :=
  let limit := (1 <<< 63) + if isNegative then 1 else 0
  if n % d = 0 ∧ n / d < limit then .integer (signed isNegative (n / d))
  else .real (signed isNegative (n * unit / d))

def ofNumeral? (cs : List Char) : Option Cell :=
  let (isNegative, cs) := splitSign cs
  let whole := cs.takeWhile Text.Decimal.isDigit
  let (fraction, rest) := splitFraction (cs.dropWhile Text.Decimal.isDigit)
  if whole = [] ∧ fraction = [] then none
  else
    (readExponent? rest).map fun exponent =>
      let power : Int := exponent - (fraction.length : Int)
      ofRatio isNegative
        (Text.Decimal.value (whole ++ fraction) * Text.Decimal.scale power.toNat)
        (Text.Decimal.scale (-power).toNat)

def rank : Cell → Nat × Int
  | .null => (0, 0)
  | .integer n => (1, n * unit)
  | .real units => (1, units)
  | .text _ => (2, 0)
  | .blob _ => (3, 0)

def atMost (a b : Cell) : Bool :=
  a.rank.1 < b.rank.1 || (a.rank.1 = b.rank.1 && a.rank.2 ≤ b.rank.2)

def typeName : Cell → String
  | .null => "Null"
  | .integer _ => "Integer"
  | .real _ => "Real"
  | .text _ => "Text"
  | .blob _ => "Blob"

end Cell

inductive Affinity where
  | any
  | text
  | number
  | real
  deriving DecidableEq, Repr

namespace Affinity

def mentions (type : List Char) (word : String) : Bool := Text.occursIn word.toList type

def ofType (type : List Char) : Affinity :=
  if type = [] then .any
  else if mentions type "int" then .number
  else if ["char", "clob", "text"].any (mentions type) then .text
  else if mentions type "blob" then .any
  else if ["real", "floa", "doub"].any (mentions type) then .real
  else .number

def read : Affinity → Cell → Cell
  | .real, .integer n => .real (n * Cell.unit)
  | _, cell => cell

def ofNumeral (a : Affinity) (cs : List Char) : Cell :=
  let isWhole := (Cell.splitSign cs).2.all Text.Decimal.isDigit
  match a, Cell.ofNumeral? cs with
  | .text, some (.integer n) =>
    .text (Text.utf8 (if isWhole then Text.Decimal.intText n else String.ofList cs))
  | .text, _ => .text (Text.utf8 (String.ofList cs))
  | .any, some cell => if isWhole then cell else Affinity.real.read cell
  | a, some cell => a.read cell
  | _, none => .null

def ofText (a : Affinity) (cs : List Char) : Cell :=
  let text := Cell.text (Text.utf8 (String.ofList cs))
  match a with
  | .any | .text => text
  | a => ((Cell.ofNumeral? cs).map a.read).getD text

def equals (a : Affinity) (n : Int) : Cell → Bool
  | .integer m => m = n
  | .real units => units = n * Cell.unit
  | .text bs => a = .text && bs = Text.utf8 (Text.Decimal.intText n)
  | _ => false

end Affinity

end ShieldedPool.Store
