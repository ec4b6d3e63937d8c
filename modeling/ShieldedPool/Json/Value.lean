import ShieldedPool.Text.Decimal
import ShieldedPool.Text.Hex

namespace ShieldedPool.Json

inductive Value where
  | null
  | bool (b : Bool)
  | number (n : Nat)
  | text (s : String)
  | array (items : List Value)
  | object (fields : List (String × Value))

namespace Value

def quoteMark : Char := Char.ofNat 34

def escape (c : Char) : List Char :=
  let n := c.toNat
  if n = 34 then ['\\', quoteMark]
  else if c = '\\' then ['\\', '\\']
  else if n = 8 then ['\\', 'b']
  else if n = 9 then ['\\', 't']
  else if n = 10 then ['\\', 'n']
  else if n = 12 then ['\\', 'f']
  else if n = 13 then ['\\', 'r']
  else if n < 32 then ['\\', 'u', '0', '0'] ++ Text.Hex.encodeByte (UInt8.ofNat n)
  else [c]

def quote (s : String) : List Char := quoteMark :: s.toList.flatMap escape ++ [quoteMark]

def newline (depth : Nat) : List Char := '\n' :: List.replicate (2 * depth) ' '

inductive Layout where
  | compact
  | indented

def Layout.gap : Layout → Nat → List Char
  | .compact, _ => []
  | .indented, depth => newline depth

def Layout.colon : Layout → List Char
  | .compact => [':']
  | .indented => [':', ' ']

def bracket (layout : Layout) (depth : Nat) (open_ close : Char) : List (List Char) → List Char
  | [] => [open_, close]
  | item :: items =>
    open_ :: layout.gap (depth + 1) ++ item ++
      items.flatMap (fun i => ',' :: layout.gap (depth + 1) ++ i) ++
      layout.gap depth ++ [close]

mutual

def write (layout : Layout) (depth : Nat) : Value → List Char
  | .null => "null".toList
  | .bool b => if b then "true".toList else "false".toList
  | .number n => Text.Decimal.render n
  | .text s => quote s
  | .array items => bracket layout depth '[' ']' (writeItems layout (depth + 1) items)
  | .object fields => bracket layout depth (Char.ofNat 123) (Char.ofNat 125)
      (writeFields layout (depth + 1) fields)

def writeItems (layout : Layout) (depth : Nat) : List Value → List (List Char)
  | [] => []
  | v :: vs => write layout depth v :: writeItems layout depth vs

def writeFields (layout : Layout) (depth : Nat) : List (String × Value) → List (List Char)
  | [] => []
  | (name, v) :: rest =>
    (quote name ++ layout.colon ++ write layout depth v) :: writeFields layout depth rest

end

mutual

def sorted : Value → Value
  | .array items => .array (sortedItems items)
  | .object fields => .object ((sortedFields fields).mergeSort fun a b => a.1 ≤ b.1)
  | v => v

def sortedItems : List Value → List Value
  | [] => []
  | v :: vs => v.sorted :: sortedItems vs

def sortedFields : List (String × Value) → List (String × Value)
  | [] => []
  | (name, v) :: rest => (name, v.sorted) :: sortedFields rest

end

def compact (v : Value) : String := String.ofList (write .compact 0 v)

def pretty (v : Value) : String := String.ofList (write .indented 0 v)

end Value

end ShieldedPool.Json
