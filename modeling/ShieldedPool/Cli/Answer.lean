import ShieldedPool.Fault
import ShieldedPool.Json.Value

namespace ShieldedPool.Cli

inductive Line where
  | label (name value : String)
  | notice (text : String)
  | data (text : String)
  deriving DecidableEq, Repr

def Line.text : Line → String
  | .label name value => name ++ ": " ++ value
  | .notice text => text
  | .data text => text

def Line.isData : Line → Bool
  | .data _ => true
  | _ => false

structure Answer where
  json : Json.Value
  lines : List Line

structure Printed where
  stdout : String := ""
  stderr : String := ""
  exitCode : UInt8 := 0
  deriving DecidableEq, Repr

def printLines (lines : List Line) : String :=
  String.ofList (lines.flatMap fun l => l.text.toList ++ ['\n'])

def Answer.print (json : Bool) (a : Answer) : Printed :=
  if json then { stdout := String.ofList (a.json.sorted.pretty.toList ++ ['\n']) }
  else
    { stdout := printLines (a.lines.filter Line.isData),
      stderr := printLines (a.lines.filter fun l => !l.isData) }

def printFailure (chain : List String) : Printed :=
  { stderr := Report.render chain, exitCode := 1 }

def usage : String :=
  printLines
    [.data "Usage: hv [--json] <command>", .data "", .data "Commands:",
      .data "  keygen [--out <file>] [--force]   make a key pair; write the public key",
      .data "  decrypt <blob>                    open one sealed nullifier",
      .data "  decrypt-notes [--db <file>]       open every nullifier of a database",
      .data "  note inspect <note>               show what a note holds",
      .data "  note new <amount>                 make a note",
      .data "  fee <note amount> <amount> [--divisor <n>] [--minimum <n>]",
      .data "                                    show the fee and change of a withdrawal"]

end ShieldedPool.Cli
