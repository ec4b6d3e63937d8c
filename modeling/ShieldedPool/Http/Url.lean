import ShieldedPool.Http.HostName

namespace ShieldedPool.Http

structure Url where
  host : HostName
  port : Option Nat
  path : List Char
  query : Option (List Char)
  deriving DecidableEq, Repr

namespace Url

def clean (cs : List Char) : List Char :=
  let isEdge (c : Char) : Bool := c.toNat ≤ 0x20
  let inner := ((cs.dropWhile isEdge).reverse.dropWhile isEdge).reverse
  inner.filter fun c => c != '\t' && c != '\n' && c != '\r'

def isSlash (c : Char) : Bool := c == '/' || c == '\\'

def endsHost (c : Char) : Bool := isSlash c || c == '?' || c == '#'

def afterLastAt (cs : List Char) : List Char := (cs.reverse.takeWhile (· != '@')).reverse

def hostPart : Bool → List Char → List Char
  | _, [] => []
  | inBrackets, c :: cs =>
    if c = ':' ∧ !inBrackets then []
    else c :: hostPart (if c = '[' then true else if c = ']' then false else inBrackets) cs

def port? : List Char → Option (Option Nat)
  | [] => some none
  | _ :: [] => some none
  | _ :: digits =>
    if digits.all Text.Decimal.isDigit && Text.Decimal.value digits < UInt16.size then
      some (some (Text.Decimal.value digits))
    else none

def isPlain (escaped : List Char) (c : Char) : Bool :=
  0x20 < c.toNat && c.toNat < 0x7f && !escaped.contains c

def pathEscaped : List Char := "\"#<>?".toList ++ [Char.ofNat 96, Char.ofNat 123, Char.ofNat 125]

def queryEscaped : List Char := "\"#<>'".toList

def dotCount : List Char → Option Nat
  | [] => some 0
  | '.' :: rest => (dotCount rest).map (· + 1)
  | '%' :: '2' :: e :: rest => if e.toLower = 'e' then (dotCount rest).map (· + 1) else none
  | _ => none

def isDrive : List Char → Bool
  | [c, mark] => c.isAlpha && (mark == ':' || mark == '|')
  | _ => false

def leave (segments : List (List Char)) : List (List Char) :=
  if (segments.getLast?.map isDrive).getD false then segments else segments.dropLast

def resolve (before : List (List Char)) : List (List Char) → List (List Char)
  | [] => before
  | segment :: rest =>
    let stay (segments : List (List Char)) : List (List Char) :=
      if rest = [] then segments ++ [[]] else segments
    match dotCount segment with
    | some 1 => resolve (stay before) rest
    | some 2 => resolve (stay (leave before)) rest
    | _ => resolve (before ++ [Text.Percent.encode (isPlain pathEscaped) segment]) rest

def pathOf (cs : List Char) : List Char :=
  let cs := cs.map fun c => if c = '\\' then '/' else c
  let inner := match cs with
    | '/' :: rest => rest
    | cs => cs
  (resolve [] (Text.splitAt '/' inner)).flatMap fun segment => '/' :: segment

def scheme : List Char := "http:".toList

def parse? (s : String) : Option Url := do
  let cs := clean s.toList
  if (cs.take scheme.length).map Char.toLower ≠ scheme then none
  else
    let rest := (cs.drop scheme.length).dropWhile isSlash
    let authority := rest.takeWhile (!endsHost ·)
    let after := rest.drop authority.length
    let place := afterLastAt authority
    let written := hostPart false place
    let host ← HostName.parse? written
    let port ← port? (place.drop written.length)
    let target := after.takeWhile (· != '#')
    let query := target.dropWhile (· != '?')
    return {
      host, port
      path := pathOf (target.takeWhile (· != '?'))
      query := if query = [] then none
        else some (Text.Percent.encode (isPlain queryEscaped) (query.drop 1)) }

def target (u : Url) : String :=
  String.ofList (u.path ++ match u.query with
    | none => []
    | some query => '?' :: query)

end Url

end ShieldedPool.Http
