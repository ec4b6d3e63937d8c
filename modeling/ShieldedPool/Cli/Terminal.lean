import ShieldedPool.Store.Location
import ShieldedPool.Store.Query

namespace ShieldedPool.Cli

inductive Terminal (α : Type) where
  | done (a : α)
  | readSecret (next : String → Terminal α)
  | fileExists (path : String) (next : Bool → Terminal α)
  | writeFile (path : String) (content : Bytes) (next : Except FileFault Unit → Terminal α)
  | openDatabase (name : String) (next : Except EngineFault Store.Snapshot → Terminal α)
  | random (next : Random.Source → Terminal α)

structure Host where
  input : String
  folder : Folder
  databases : List (Place × Store)
  source : Random.Source

def Host.firstLine (h : Host) : String := String.ofList (h.input.toList.takeWhile (· != '\n'))

def Host.openDatabase (h : Host) (name : String) : Except EngineFault Store.Snapshot := do
  let location ← Store.Location.parse .readOnly name
  let found ← location.locate name h.folder
  match found.place.bind fun place => h.databases.lookup place with
  | some store => return store.snapshot
  | none => return .ofBytes (found.content.getD []).toByteArray

namespace Terminal

def run {α : Type} : Terminal α → Host → α × Host
  | .done a, h => (a, h)
  | .readSecret next, h => (next h.firstLine).run h
  | .fileExists path next, h => (next (h.folder.contains path)).run h
  | .writeFile path content next, h =>
    match h.folder.write path content with
    | .error fault => (next (.error fault)).run h
    | .ok folder => (next (.ok ())).run { h with folder }
  | .openDatabase name next, h => (next (h.openDatabase name)).run h
  | .random next, h => (next h.source).run h

end Terminal

end ShieldedPool.Cli
