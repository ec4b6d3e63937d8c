import ShieldedPool.Store.Cell
import ShieldedPool.Text.Chars
import ShieldedPool.Text.Hex

namespace ShieldedPool.Store

inductive Lexeme where
  | word (text : List Char)
  | quoted (text : List Char)
  | literal (text : List Char)
  | mark (c : Char)
  deriving DecidableEq, Repr

namespace Lexeme

def lower (cs : List Char) : List Char := cs.map Char.toLower

def isWordStart (c : Char) : Bool := c.isAlpha || c == '_' || 127 < c.toNat

def isWordPart (c : Char) : Bool := isWordStart c || c.isDigit || c == '$'

def closing? (c : Char) : Option Char :=
  if c = '[' then some ']'
  else if c = '"' ∨ c = '\'' ∨ c = Char.ofNat 96 then some c
  else none

def readQuoted (close : Char) : List Char → List Char × List Char
  | [] => ([], [])
  | [c] => if c = close then ([], []) else ([c], [])
  | c :: d :: rest =>
    if c = close then
      if d = close ∧ close ≠ ']' then
        let (text, after) := readQuoted close rest
        (c :: text, after)
      else ([], d :: rest)
    else
      let (text, after) := readQuoted close (d :: rest)
      (c :: text, after)

def dropComment : List Char → List Char
  | '*' :: '/' :: rest => rest
  | _ :: rest => dropComment rest
  | [] => []

def next? : List Char → Option (Option Lexeme × List Char)
  | [] => none
  | '-' :: '-' :: rest => some (none, rest.dropWhile (· ≠ '\n'))
  | '/' :: '*' :: rest => some (none, dropComment rest)
  | c :: rest =>
    if Text.isBlank c then some (none, rest)
    else if isWordStart c then
      some (some (.word (c :: rest.takeWhile isWordPart)), rest.dropWhile isWordPart)
    else if c.isDigit then
      some (some (.literal (c :: rest.takeWhile isWordPart)), rest.dropWhile isWordPart)
    else
      match closing? c with
      | none => some (some (.mark c), rest)
      | some close =>
        let (text, after) := readQuoted close rest
        some (some (.quoted text), after)

def split : Nat → List Char → List Lexeme
  | 0, _ => []
  | fuel + 1, cs =>
    match next? cs with
    | none => []
    | some (none, rest) => split fuel rest
    | some (some lexeme, rest) => lexeme :: split fuel rest

def ofText (cs : List Char) : List Lexeme := split cs.length cs

def isWord (word : String) : Lexeme → Bool
  | .word text => lower text == word.toList
  | _ => false

def name? : Lexeme → Option (List Char)
  | .word text => some text
  | .quoted text => some text
  | _ => none

end Lexeme

structure Column where
  name : List Char
  affinity : Affinity
  isWhole : Bool
  isKey : Bool
  isAscending : Bool
  isStored : Bool
  default : Cell
  deriving DecidableEq, Repr

structure Table where
  name : List Char
  columns : List Column
  rowColumn : Option Nat
  isKeyed : Bool
  order : List Nat
  deriving DecidableEq, Repr

namespace Table

def parts : Nat → List Lexeme → List (List Lexeme) × List Lexeme
  | _, [] => ([[]], [])
  | depth, l :: rest =>
    if depth = 0 ∧ l = .mark ')' then ([[]], rest)
    else if depth = 0 ∧ l = .mark ',' then
      let (items, after) := parts 0 rest
      ([] :: items, after)
    else
      let depth :=
        if l = .mark '(' then depth + 1 else if l = .mark ')' then depth - 1 else depth
      match parts depth rest with
      | ([], after) => ([[l]], after)
      | (item :: items, after) => ((l :: item) :: items, after)

def columnRules : List String :=
  ["constraint", "primary", "not", "null", "unique", "check", "default", "collate", "references",
    "generated", "as"]

def tableRules : List String := ["constraint", "primary", "unique", "check", "foreign"]

def startsWith (words : List String) (l : Lexeme) : Bool := words.any l.isWord

def typeText (ls : List Lexeme) : List Char :=
  (ls.map fun
    | .word text | .quoted text | .literal text => text
    | .mark c => [c]).flatten

def afterKey? : List Lexeme → Option (List Lexeme)
  | a :: b :: rest =>
    if a.isWord "primary" && b.isWord "key" then some rest else afterKey? (b :: rest)
  | _ => none

def isComputed (rules : List Lexeme) : Bool :=
  match rules.dropWhile (!·.isWord "as") with
  | _ :: .mark '(' :: rest => !((parts 0 rest).2.head?.any (·.isWord "stored"))
  | _ => false

def numeralText (afterMark : Bool) : List Lexeme → List Char
  | .literal text :: rest => text ++ numeralText (text.getLast?.any (·.toLower = 'e')) rest
  | .mark c :: rest =>
    if c = '.' ∨ (afterMark ∧ (c = '-' ∨ c = '+')) then c :: numeralText false rest else []
  | _ => []

def valueOf (a : Affinity) (isNegative : Bool) : List Lexeme → Cell
  | .mark '-' :: rest => valueOf a (!isNegative) rest
  | .mark '(' :: rest | .mark '+' :: rest => valueOf a isNegative rest
  | .word mark :: .quoted digits :: _ =>
    if Lexeme.lower mark = ['x'] then
      .blob ((Text.Hex.decode (Text.utf8 (String.ofList digits))).toOption.getD [])
    else .null
  | .word text :: _ =>
    if Lexeme.lower text = "null".toList then .null
    else if Lexeme.lower text = "true".toList then a.ofNumeral ['1']
    else if Lexeme.lower text = "false".toList then a.ofNumeral ['0']
    else a.ofText text
  | .quoted text :: _ => a.ofText text
  | pieces =>
    let text := numeralText false pieces
    if text = [] then .null else a.ofNumeral (if isNegative then '-' :: text else text)

def defaultOf (a : Affinity) (rules : List Lexeme) : Cell :=
  valueOf a false ((rules.dropWhile (!·.isWord "default")).drop 1)

def anyType : List Char := "any".toList

def column? (isStrict : Bool) (item : List Lexeme) : Option Column :=
  match item with
  | [] => none
  | first :: rest =>
    let type := Lexeme.lower (typeText (rest.takeWhile fun l => !startsWith columnRules l))
    let rules := rest.dropWhile fun l => !startsWith columnRules l
    let affinity := if isStrict && type = anyType then .any else Affinity.ofType type
    first.name?.map fun name =>
      { name, affinity
        isWhole := type = "integer".toList
        isKey := (afterKey? rules).isSome
        isAscending := !((afterKey? rules).any fun after => after.head?.any (·.isWord "desc"))
        isStored := !isComputed rules
        default := defaultOf affinity rules }

def keyNames? (rule : List Lexeme) : Option (List (List Char)) :=
  match afterKey? rule with
  | some (.mark '(' :: rest) =>
    some ((parts 0 rest).1.filterMap fun item => item.head?.bind Lexeme.name?)
  | _ => none

def sameName (a b : List Char) : Bool := Lexeme.lower a == Lexeme.lower b

def positionOf? (columns : List Column) (name : List Char) : Option Nat :=
  columns.findIdx? fun c => sameName c.name name

def recordOrder (columns : List Column) (key : List Nat) : List Nat :=
  let stored := (List.range columns.length).filter fun i => columns[i]?.any Column.isStored
  key ++ stored.filter (!key.contains ·)

def ofBody? (name : List Char) (body : List Lexeme) : Option Table :=
  match body with
  | .mark '(' :: rest =>
    let (items, options) := parts 0 rest
    let isRule (item : List Lexeme) : Bool := item.head?.any (startsWith tableRules)
    let isStrict := options.any (·.isWord "strict")
    let columns := (items.takeWhile (!isRule ·)).filterMap (column? isStrict)
    let isKeyed := options.any (·.isWord "rowid")
    let named := (items.dropWhile (!isRule ·)).findSome? keyNames?
    let key := match named with
      | some names => (names.filterMap (positionOf? columns)).eraseDups
      | none => (columns.findIdx? Column.isKey).toList
    let mayNumber (i : Nat) : Bool :=
      columns[i]?.any fun c => c.isWhole && (named.isSome || c.isAscending)
    let rowColumn := match key with
      | [i] => if mayNumber i && !isKeyed && (named.all (·.length = 1)) then some i else none
      | _ => none
    some { name, columns, rowColumn, isKeyed
           order := recordOrder columns (if isKeyed then key else []) }
  | _ => none

def ofText? (text : List Char) : Option Table :=
  match Lexeme.ofText text with
  | create :: table :: name :: rest =>
    if create.isWord "create" && table.isWord "table" then
      name.name?.bind fun name => ofBody? name rest
    else none
  | _ => none

def position? (t : Table) (column : String) : Option Nat := positionOf? t.columns column.toList

end Table

end ShieldedPool.Store
