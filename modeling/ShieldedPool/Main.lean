import ShieldedPool.Cli.Run

namespace ShieldedPool.Cli

def faultOf : IO.Error → FileFault
  | .noFileOrDirectory .. => .missing
  | .inappropriateType .. => .directory
  | e => .other (toString e)

def attempt {α : Type} (action : IO α) : IO (Except FileFault α) := do
  match ← action.toBaseIO with
  | .ok a => return .ok a
  | .error e => return .error (faultOf e)

def isTaken (path : String) : IO Bool := do
  match ← attempt (IO.FS.readBinFile path) with
  | .error .missing => return false
  | _ => return true

def drawSize : Nat := 64

def drawCount : Nat := 8

def freshSource : IO Random.Source := do
  let bytes ← IO.getRandomBytes (USize.ofNat (drawSize * drawCount))
  return Random.Source.ofBytes drawSize bytes.toList

def openFile (name path : String) : IO (Except EngineFault Store.Snapshot) := do
  match ← attempt (IO.FS.readBinFile path) with
  | .ok bytes => return .ok (.ofBytes bytes)
  | .error .directory => return .error .inputOutput
  | .error _ => return .error (.cannotOpen name)

def openDatabase (name : String) : IO (Except EngineFault Store.Snapshot) := do
  match Store.Location.parse .readOnly name with
  | .error fault => return .error fault
  | .ok location =>
    match location.path with
    | none => return .ok (.ofBytes .empty)
    | some path => openFile name path

def Terminal.perform {α : Type} : Terminal α → IO α
  | .done a => pure a
  | .readSecret next => do
    let line ← (← IO.getStdin).getLine
    (next line).perform
  | .fileExists path next => do
    let taken ← isTaken path
    (next taken).perform
  | .writeFile path content next => do
    let written ← attempt (IO.FS.writeBinFile path (ByteArray.mk content.toArray))
    (next written).perform
  | .openDatabase name next => do
    let opened ← Cli.openDatabase name
    (next opened).perform
  | .random next => do
    let source ← freshSource
    (next source).perform

def Printed.write (p : Printed) : IO UInt32 := do
  (← IO.getStdout).putStr p.stdout
  (← IO.getStderr).putStr p.stderr
  return p.exitCode.toUInt32

end ShieldedPool.Cli

open ShieldedPool.Cli

def main (args : List String) : IO UInt32 := do
  match Arguments.parse args with
  | .error stop => stop.printed.write
  | .ok invocation =>
    let result ← invocation.command.run.perform
    (printed invocation.json result).write
