namespace ShieldedPool.Server

inductive LogLevel where
  | error
  | warn
  | info
  | debug
  | trace
  deriving DecidableEq, Repr

namespace LogLevel

def all : List LogLevel := [.error, .warn, .info, .debug, .trace]

def name : LogLevel → String
  | .error => "ERROR"
  | .warn => "WARN"
  | .info => "INFO"
  | .debug => "DEBUG"
  | .trace => "TRACE"

def detail : LogLevel → Nat
  | .error => 1
  | .warn => 2
  | .info => 3
  | .debug => 4
  | .trace => 5

end LogLevel

structure LogEvent where
  level : LogLevel
  target : String
  message : String
  deriving DecidableEq, Repr

structure Logger where
  detail : Nat
  json : Bool
  deriving DecidableEq, Repr

namespace Logger

def detailOf (text : String) : Nat :=
  let named (l : LogLevel) : Bool := l.name.toList == text.toList.map Char.toUpper
  if text = "" then LogLevel.error.detail
  else ((LogLevel.all.find? named).map LogLevel.detail).getD 0

def admits (l : Logger) (e : LogEvent) : Bool := e.level.detail ≤ l.detail

def taken : String :=
  "failed to init logging: a global default trace dispatcher has already been set"

def install (current : Option Logger) (filter : Option String) (level : String) (json : Bool) :
    Except String Logger :=
  match current with
  | some _ => .error taken
  | none => .ok ⟨detailOf (filter.getD level), json⟩

end Logger

end ShieldedPool.Server
