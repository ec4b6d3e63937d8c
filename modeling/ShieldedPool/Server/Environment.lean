import ShieldedPool.Text.Alphanumeric
import ShieldedPool.Text.Chars

namespace ShieldedPool.Server

abbrev Environment := List (String × String)

namespace Environment

inductive LineState where
  | complete
  | blank
  | escape
  | weak
  | weakEscape
  | strong
  | strongEscape
  deriving DecidableEq, Repr

def LineState.opened (c : Char) : LineState :=
  if c = '\\' then .escape
  else if c = '"' then .weak
  else if c = '\'' then .strong
  else .complete

def LineState.step (c : Char) : LineState → LineState
  | .complete =>
    if Text.isBlank c ∧ c ≠ '\n' ∧ c ≠ '\r' then .blank else .opened c
  | .blank => .opened c
  | .escape => .complete
  | .weak => if c = '\\' then .weakEscape else if c = '"' then .complete else .weak
  | .weakEscape => .weak
  | .strong => if c = '\\' then .strongEscape else if c = '\'' then .complete else .strong
  | .strongEscape => .strong

def scanLine : LineState → List Char → LineState × List Char
  | state, [] => (state, [])
  | state, c :: cs =>
    if state = .blank ∧ c = '#' then (.complete, [])
    else
      let (after, kept) := scanLine (state.step c) cs
      (after, c :: kept)

def dropEnd (cs : List Char) : List Char :=
  match cs.reverse with
  | '\n' :: '\r' :: rest => rest.reverse
  | '\n' :: rest => rest.reverse
  | _ => cs

def isComment (cs : List Char) : Bool := (Text.trimStart cs).head? = some '#'

def joinLines (state : LineState) (before : List Char) :
    List (List Char) → List (Option (List Char))
  | [] => if state = .complete then [] else [none]
  | line :: lines =>
    if isComment (before ++ line) then some [] :: joinLines .complete [] lines
    else
      let (after, kept) := scanLine state line
      if after = .complete then some (dropEnd (before ++ kept)) :: joinLines .complete [] lines
      else joinLines after (before ++ line) lines

def linesOf (cs : List Char) : List (List Char) :=
  let parts := Text.splitAt '\n' cs
  (parts.dropLast.map (· ++ ['\n'])) ++ (parts.drop (parts.length - 1)).filter (· ≠ [])

structure Draft where
  output : List Char := []
  isWeak : Bool := false
  isStrong : Bool := false
  isEscaped : Bool := false
  isOver : Bool := false
  name : Option (Bool × List Char) := none

namespace Draft

def push (p : Draft) (c : Char) : Draft := { p with output := c :: p.output }

def resolve (env : Environment) (name : List Char) (p : Draft) : Draft :=
  let value := (env.lookup (String.ofList name)).getD ""
  { p with output := value.toList.reverse ++ p.output, name := none }

def stepEscaped (p : Draft) (c : Char) : Option Draft :=
  let p := { p with isEscaped := false }
  if c = 'n' then some (p.push '\n')
  else if c = '\\' ∨ c = '\'' ∨ c = '"' ∨ c = '$' ∨ c = ' ' then some (p.push c)
  else none

def stepName (env : Environment) (p : Draft) (inBraces : Bool) (name : List Char) (c : Char) :
    Draft :=
  if Text.isAlphanumeric c then { p with name := some (inBraces, name ++ [c]) }
  else if inBraces then
    if c = '}' then p.resolve env name else { p with name := some (true, name ++ [c]) }
  else if c = '{' ∧ name = [] then { p with name := some (true, []) }
  else
    let p := p.resolve env name
    if c = '$' then { p with name := some (false, []) } else p.push c

def stepPlain (p : Draft) (c : Char) : Draft :=
  if c = '$' then { p with name := some (false, []) }
  else if c = '\\' then { p with isEscaped := true }
  else if p.isWeak then if c = '"' then { p with isWeak := false } else p.push c
  else if c = '\'' then { p with isStrong := true }
  else if c = '"' then { p with isWeak := true }
  else if c = ' ' ∨ c = '\t' then { p with isOver := true }
  else p.push c

def step (env : Environment) (p : Draft) (c : Char) : Option Draft :=
  if p.isEscaped then p.stepEscaped c
  else if p.isStrong then
    some (if c = '\'' then { p with isStrong := false } else p.push c)
  else
    match p.name with
    | some (inBraces, name) => some (p.stepName env inBraces name c)
    | none => some (p.stepPlain c)

def finish (env : Environment) (p : Draft) : Option (List Char) :=
  if p.isStrong || p.isWeak then none
  else
    match p.name with
    | some (true, _) => none
    | some (false, name) => some (p.resolve env name).output.reverse
    | none => some p.output.reverse

end Draft

def readValue (env : Environment) : Draft → List Char → Option (List Char)
  | p, [] => p.finish env
  | p, c :: cs =>
    if p.isOver then
      if c = ' ' ∨ c = '\t' then readValue env p cs
      else if c = '#' then p.finish env
      else none
    else (p.step env c).bind fun p => readValue env p cs

inductive Line where
  | blank
  | setting (name value : List Char)
  | malformed

def isKeyStart (c : Char) : Bool := c.isAlpha || c == '_'

def isKeyPart (c : Char) : Bool := c.isAlphanum || c == '_' || c == '.'

def takeKey? (cs : List Char) : Option (List Char × List Char) :=
  if (cs.head?.map isKeyStart).getD false then
    some (cs.takeWhile isKeyPart, Text.trimStart (cs.dropWhile isKeyPart))
  else none

def takeName? (cs : List Char) : Option (List Char × List Char) :=
  match takeKey? cs with
  | none => none
  | some (key, '=' :: rest) => some (key, rest)
  | some (key, rest) =>
    if key = "export".toList then
      match takeKey? rest with
      | some (key, '=' :: rest) => some (key, rest)
      | _ => none
    else none

def Line.parse (env : Environment) (cs : List Char) : Line :=
  let cs := Text.trimList cs
  if cs.isEmpty || isComment cs then .blank
  else
    match takeName? cs with
    | none => .malformed
    | some (name, rest) =>
      let rest := Text.trimStart rest
      if isComment rest then .setting name []
      else
        match readValue env {} rest with
        | none => .malformed
        | some value => .setting name value

def addLines (env : Environment) : List (Option (List Char)) → Environment
  | [] => env
  | none :: _ => env
  | some line :: lines =>
    match Line.parse env line with
    | .blank => addLines env lines
    | .malformed => env
    | .setting name value =>
      let name := String.ofList name
      let isSet := env.any (·.1 = name)
      addLines (if isSet then env else env ++ [(name, String.ofList value)]) lines

def encodingMark : Char := Char.ofNat 0xfeff

def withDefaults (file : Option String) (env : Environment) : Environment :=
  match file with
  | none => env
  | some text =>
    let cs := text.toList
    let cs := if cs.head? = some encodingMark then cs.drop 1 else cs
    addLines env (joinLines .complete [] (linesOf cs))

end Environment

end ShieldedPool.Server
