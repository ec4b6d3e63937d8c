namespace ShieldedPool.Http

def isTokenChar (c : Char) : Bool :=
  c.isAlphanum || "!#$%&*+-.^_|~".toList.contains c || c.toNat == 39 || c.toNat == 96

def isQuotedChar (c : Char) : Bool := 32 ≤ c.toNat && c.toNat < 127

structure MediaType where
  mainType : List Char
  subtype : List Char
  suffix : Option (List Char)
  deriving DecidableEq, Repr

namespace MediaType

inductive Place where
  | name (started : Bool)
  | value (started : Bool)
  | quoted (started : Bool)
  | afterQuoted

def scan : Place → List Char → Bool
  | .name started, [] => !started
  | .value _, [] => true
  | .quoted _, [] => false
  | .afterQuoted, [] => true
  | .name started, c :: cs =>
    if c = ' ' && !started then scan (.name false) cs
    else if isTokenChar c then scan (.name true) cs
    else if c = '=' && started then scan (.value false) cs
    else false
  | .value started, c :: cs =>
    if c.toNat = 34 && !started then scan (.quoted false) cs
    else if isTokenChar c then scan (.value true) cs
    else if c = ';' && started then scan (.name false) cs
    else false
  | .quoted started, c :: cs =>
    if c.toNat = 34 && started then scan .afterQuoted cs
    else if isQuotedChar c then scan (.quoted true) cs
    else false
  | .afterQuoted, c :: cs =>
    if c = ';' then scan (.name false) cs
    else if c = ' ' then scan .afterQuoted cs
    else false

def splitSuffix (cs : List Char) : List Char × Option (List Char) :=
  let after := (cs.reverse.takeWhile (· != '+')).reverse
  let before := cs.take (cs.length - after.length - 1)
  if after.length < cs.length && !before.isEmpty then (before, some after) else (cs, none)

def parse? (text : String) : Option MediaType :=
  let cs := text.toList.map Char.toLower
  let mainType := cs.takeWhile isTokenChar
  match cs.dropWhile isTokenChar with
  | '/' :: rest =>
    let (subtype, suffix) := splitSuffix (rest.takeWhile isTokenChar)
    let wellFormed := match rest.dropWhile isTokenChar with
      | [] => true
      | ';' :: parameters => !subtype.isEmpty && scan (.name false) parameters
      | _ => false
    if mainType.isEmpty || !wellFormed then none else some ⟨mainType, subtype, suffix⟩
  | _ => none

def isJson (m : MediaType) : Bool :=
  m.mainType == "application".toList &&
    (m.subtype == "json".toList || m.suffix == some "json".toList)

end MediaType

end ShieldedPool.Http
