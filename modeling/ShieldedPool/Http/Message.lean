import ShieldedPool.Json.Value
import ShieldedPool.Text.Chars
import ShieldedPool.Text.Hex

namespace ShieldedPool.Http

structure Request where
  method : String
  target : String
  contentType : Option String := none
  body : Bytes := []

structure Response where
  status : Nat
  headers : List (String × String) := []
  body : Option Json.Value := none

def isSchemeChar (c : Char) : Bool := c.isAlphanum || c == '+' || c == '-' || c == '.'

def afterHost? (target : List Char) : Option (List Char) :=
  match target.dropWhile isSchemeChar with
  | ':' :: '/' :: '/' :: rest => some (rest.dropWhile fun c => c != '/' && c != '?' && c != '#')
  | _ => none

def Request.path (r : Request) : List Char :=
  let path (cs : List Char) : List Char := cs.takeWhile fun c => c != '?' && c != '#'
  match r.target.toList with
  | '/' :: rest => '/' :: path rest
  | target =>
    match (afterHost? target).map path with
    | none => []
    | some [] => ['/']
    | some found => found

def Request.segments (r : Request) : List (List Char) := (Text.splitAt '/' r.path).drop 1

def segmentText? (segment : List Char) : Option String :=
  Text.ofUtf8? (Text.Percent.decode (Text.utf8 (String.ofList segment)))

end ShieldedPool.Http
