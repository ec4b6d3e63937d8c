import ShieldedPool.Protocol
import ShieldedPool.Text.Decimal

namespace ShieldedPool.Cli

inductive Command where
  | keygen (out : String) (force : Bool)
  | decrypt (blob : String)
  | decryptNotes (database : String)
  | inspectNote (text : String)
  | newNote (amount : String)
  | fee (noteAmount amount : String) (policy : FeePolicy)
  deriving DecidableEq, Repr

structure Invocation where
  json : Bool
  command : Command
  deriving DecidableEq, Repr

inductive Stop where
  | help
  | misuse
  deriving DecidableEq, Repr

namespace Arguments

inductive Token where
  | plain (text : String)
  | option (name : String) (value : Option String)
  | help
  | separator
  | unknown
  deriving DecidableEq, Repr

def token (arg : String) : Token :=
  match arg.toList with
  | ['-', '-'] => .separator
  | '-' :: '-' :: rest =>
    let name := String.ofList (rest.takeWhile (· != '='))
    match rest.dropWhile (· != '=') with
    | [] => if name = "help" then .help else .option name none
    | _ :: value => .option name (some (String.ofList value))
  | ['-'] => .plain arg
  | '-' :: 'h' :: _ => .help
  | '-' :: _ => .unknown
  | _ => .plain arg

structure Shape where
  flags : List String := []
  options : List (String × (String → Bool)) := []
  arguments : Nat

structure Given where
  flags : List String := []
  options : List (String × String) := []
  arguments : List String := []

namespace Given

def hasFlag (g : Given) (name : String) : Bool := g.flags.contains name

def option (g : Given) (name default : String) : String := (g.options.lookup name).getD default

def addFlag (g : Given) (name : String) : Except Stop Given :=
  if g.hasFlag name then .error .misuse else .ok { g with flags := name :: g.flags }

def addOption (g : Given) (name value : String) (accepts : String → Bool) : Except Stop Given :=
  if (g.options.lookup name).isSome || !accepts value then .error .misuse
  else .ok { g with options := (name, value) :: g.options }

def addArgument (g : Given) (limit : Nat) (text : String) : Except Stop Given :=
  if limit ≤ g.arguments.length then .error .misuse
  else .ok { g with arguments := g.arguments ++ [text] }

end Given

def isFlag (shape : Shape) (name : String) : Bool := name = "json" || shape.flags.contains name

def read (shape : Shape) : Given → List String → Except Stop Given
  | g, [] => if g.arguments.length = shape.arguments then .ok g else .error .misuse
  | g, arg :: args =>
    match token arg with
    | .plain text => (g.addArgument shape.arguments text).bind fun g => read shape g args
    | .help => .error .help
    | .unknown => .error .misuse
    | .separator =>
      let g := { g with arguments := g.arguments ++ args }
      if g.arguments.length = shape.arguments then .ok g else .error .misuse
    | .option name value =>
      match shape.options.lookup name, value with
      | some accepts, some value =>
        (g.addOption name value accepts).bind fun g => read shape g args
      | some accepts, none =>
        match args with
        | [] => .error .misuse
        | value :: args =>
          match token value with
          | .plain value => (g.addOption name value accepts).bind fun g => read shape g args
          | _ => .error .misuse
      | none, some _ => .error .misuse
      | none, none =>
        if isFlag shape name then (g.addFlag name).bind fun g => read shape g args
        else .error .misuse

def subcommand : Bool → List String → Except Stop (Bool × String × List String)
  | _, [] => .error .misuse
  | json, arg :: args =>
    match token arg with
    | .plain name => .ok (json, name, args)
    | .help => .error .help
    | .option "json" none => if json then .error .misuse else subcommand true args
    | _ => .error .misuse

def isNumber (s : String) : Bool := (Text.Decimal.readUInt64 s).isOk

def isPath (s : String) : Bool := s ≠ ""

def number (s : String) : UInt64 := ((Text.Decimal.readUInt64 s).toOption).getD 0

def noteNames : List String := ["inspect", "new"]

def commandNames : List String := ["keygen", "decrypt", "decrypt-notes", "note", "fee"]

def readHelp : List String → Stop
  | [] => .help
  | ["help"] => .help
  | ["note", name] => if noteNames.contains name || name = "help" then .help else .misuse
  | [name] => if commandNames.contains name then .help else .misuse
  | _ => .misuse

def noteHelp : List String → Stop
  | [] => .help
  | [name] => if noteNames.contains name || name = "help" then .help else .misuse
  | _ => .misuse

def finish (json : Bool) (shape : Shape) (args : List String) (command : Given → Command) :
    Except Stop Invocation :=
  (read shape {} args).map fun g => ⟨json || g.hasFlag "json", command g⟩

def argument (g : Given) (i : Nat) : String := g.arguments[i]?.getD ""

def readNote (json : Bool) (args : List String) : Except Stop Invocation :=
  match subcommand false args with
  | .error stop => .error stop
  | .ok (inner, name, args) =>
    let json := json || inner
    if name = "inspect" then
      finish json { arguments := 1 } args fun g => .inspectNote (argument g 0)
    else if name = "new" then finish json { arguments := 1 } args fun g => .newNote (argument g 0)
    else if name = "help" then .error (noteHelp args)
    else .error .misuse

def feePolicy (g : Given) : FeePolicy :=
  ⟨number (g.option "divisor" "0"),
    (g.options.lookup "minimum").elim Protocol.withdrawalMinimumFee number⟩

def parse (args : List String) : Except Stop Invocation :=
  match subcommand false args with
  | .error stop => .error stop
  | .ok (json, name, args) =>
    if name = "keygen" then
      finish json { flags := ["force"], options := [("out", isPath)], arguments := 0 } args
        fun g => .keygen (g.option "out" "public_key.bin") (g.hasFlag "force")
    else if name = "decrypt" then
      finish json { arguments := 1 } args fun g => .decrypt (argument g 0)
    else if name = "decrypt-notes" then
      finish json { options := [("db", isPath)], arguments := 0 } args
        fun g => .decryptNotes (g.option "db" "hermesvault.db")
    else if name = "note" then readNote json args
    else if name = "fee" then
      finish json { options := [("divisor", isNumber), ("minimum", isNumber)], arguments := 2 } args
        fun g => .fee (argument g 0) (argument g 1) (feePolicy g)
    else if name = "help" then .error (readHelp args)
    else .error .misuse

end Arguments

end ShieldedPool.Cli
