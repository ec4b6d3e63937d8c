import ShieldedPool.Text.Decimal
import ShieldedPool.Text.Utf8

namespace ShieldedPool

inductive FileFault where
  | missing
  | directory
  | notFolder
  | nameTooLong
  | notText
  | other (reason : String)
  deriving DecidableEq, Repr

def FileFault.message : FileFault → String
  | .missing => "No such file or directory (os error 2)"
  | .directory => "Is a directory (os error 21)"
  | .notFolder => "Not a directory (os error 20)"
  | .nameTooLong => "File name too long (os error 36)"
  | .notText => "stream did not contain valid UTF-8"
  | .other reason => reason

abbrev FileContent := Except FileFault Bytes

def FileContent.text (c : FileContent) : Except FileFault String :=
  match c with
  | .error fault => .error fault
  | .ok bs =>
    match Text.ofUtf8? bs with
    | none => .error .notText
    | some s => .ok s

namespace Report

def pad (width : Nat) (s : String) : List Char :=
  List.replicate (width - s.toList.length) ' ' ++ s.toList

def hang (width : Nat) (s : String) : List Char :=
  s.toList.flatMap fun c => if c = '\n' then '\n' :: List.replicate width ' ' else [c]

def causes : List String → List Char
  | [] => []
  | [cause] => "\n\nCaused by:\n    ".toList ++ hang 4 cause
  | several =>
    "\n\nCaused by:".toList ++
      (several.zipIdx.flatMap fun (cause, i) =>
        '\n' :: pad 5 (Text.Decimal.text i) ++ ": ".toList ++ hang 7 cause)

def render : List String → String
  | [] => ""
  | error :: rest => String.ofList ("Error: ".toList ++ error.toList ++ causes rest ++ ['\n'])

end Report

end ShieldedPool
