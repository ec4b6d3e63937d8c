import ShieldedPool.Fault
import ShieldedPool.Text.Chars

namespace ShieldedPool

abbrev Place := List String

structure Folder where
  files : List (Place × Bytes) := []
  folders : List Place := []
  home : Place := []

namespace Folder

inductive Entry where
  | folder
  | file (content : Bytes)

def standing : List Place :=
  [["bin"], ["dev"], ["etc"], ["home"], ["lib"], ["proc"], ["root"], ["sys"], ["tmp"], ["usr"],
    ["var"]]

def sink : Place := ["dev", "null"]

def workplace : Place := ["tmp", "workplace"]

def ofFiles (files : List (Place × Bytes)) (folders : List Place) : Folder :=
  { files := (sink, []) :: files.map fun file => (workplace ++ file.1, file.2)
    folders := workplace :: standing ++ folders.map (workplace ++ ·)
    home := workplace }

def hasFolder (f : Folder) (place : Place) : Bool :=
  place = [] || f.folders.contains place ||
    f.files.any fun file => file.1 ≠ place && place.isPrefixOf file.1

def entry? (f : Folder) (place : Place) : Option Entry :=
  if f.hasFolder place then some .folder else (f.files.lookup place).map .file

def maxName : Nat := 255

def pathLimit : Nat := 4096

def enter (f : Folder) (place : Place) (name : String) : Except FileFault Place :=
  match f.entry? place with
  | none => .error .missing
  | some (.file _) => .error .notFolder
  | some .folder =>
    if name = "." then .ok place
    else if name = ".." then .ok place.dropLast
    else if maxName < name.utf8ByteSize then .error .nameTooLong
    else .ok (place ++ [name])

def walk (f : Folder) (place : Place) (names : List String) : Except FileFault Place :=
  names.foldlM f.enter place

def names (path : String) : List String :=
  ((Text.splitAt '/' path.toList).filter (· ≠ [])).map String.ofList

def endsInSlash (path : String) : Bool := path.toList.getLast? = some '/'

def start (f : Folder) (path : String) : Except FileFault Place :=
  if path = "" then .error .missing
  else if pathLimit ≤ path.utf8ByteSize then .error .nameTooLong
  else .ok (if path.toList.head? = some '/' then [] else f.home)

def find (f : Folder) (path : String) : Except FileFault Entry := do
  let start ← f.start path
  let place ← f.walk start (names path ++ if endsInSlash path then ["."] else [])
  match f.entry? place with
  | none => .error .missing
  | some entry => .ok entry

def read (f : Folder) (path : String) : FileContent := do
  match ← f.find path with
  | .folder => .error .directory
  | .file content => .ok content

def contains (f : Folder) (path : String) : Bool := (f.find path).isOk

def put (f : Folder) (place : Place) (content : Bytes) : Folder :=
  if place = sink then f
  else { f with files := (place, content) :: f.files.filter (·.1 ≠ place) }

def write (f : Folder) (path : String) (content : Bytes) : Except FileFault Folder := do
  let start ← f.start path
  let place ← f.walk start (names path).dropLast
  match (names path).getLast? with
  | none => .error .directory
  | some name =>
    let place ← f.enter place (if endsInSlash path then "." else name)
    if f.hasFolder place then .error .directory else .ok (f.put place content)

end Folder

end ShieldedPool
