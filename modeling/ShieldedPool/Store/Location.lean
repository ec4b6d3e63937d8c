import ShieldedPool.Folder
import ShieldedPool.Store.Error
import ShieldedPool.Text.Hex

namespace ShieldedPool.Store

inductive Access where
  | inMemory
  | readOnly
  | readWrite
  | create
  deriving DecidableEq, Repr

def Access.demand : Access → Nat
  | .inMemory => 0
  | .readOnly => 1
  | .readWrite => 2
  | .create => 6

def Access.limit : Access → Nat
  | .inMemory => 128
  | a => a.demand

structure Location where
  path : Option String
  access : Access
  isWritable : Bool
  pattern : Option String := none
  deriving DecidableEq, Repr

namespace Location

def scheme : List Char := "file:".toList

abbrev Options := List (String × String)

def textOf (bs : Bytes) : String :=
  (Text.ofUtf8? bs).getD (String.ofList (bs.map fun b => Char.ofNat b.toNat))

def partText (cs : List Char) : String :=
  textOf ((Text.Percent.decode (Text.utf8 (String.ofList cs))).takeWhile (· ≠ 0))

def afterAuthority : List Char → Except EngineFault (List Char)
  | '/' :: '/' :: rest =>
    let host := rest.takeWhile (· ≠ '/')
    if host = [] ∨ host = "localhost".toList then .ok (rest.dropWhile (· ≠ '/'))
    else .error (.general (String.ofList ("invalid uri authority: ".toList ++ host)))
  | cs => .ok cs

def optionOf (cs : List Char) : String × String :=
  (partText (cs.takeWhile (· ≠ '=')), partText ((cs.dropWhile (· ≠ '=')).drop 1))

def optionsOf (cs : List Char) : Options :=
  ((Text.splitAt '&' (cs.drop 1)).map optionOf).filter (·.1 ≠ "")

def accessOf? : String → Option Access
  | "ro" => some .readOnly
  | "rw" => some .readWrite
  | "rwc" => some .create
  | "memory" => some .inMemory
  | _ => none

def applyOption (access : Access) (option : String × String) : Except EngineFault Access :=
  if option.1 = "cache" then
    if option.2 = "shared" ∨ option.2 = "private" then .ok access
    else .error (.general ("no such cache mode: " ++ option.2))
  else if option.1 = "mode" then
    match accessOf? option.2 with
    | none => .error (.general ("no such access mode: " ++ option.2))
    | some asked =>
      if access.limit < asked.demand then
        .error (.coded .denied ("access mode not allowed: " ++ option.2))
      else .ok asked
  else .ok access

def systems : List String := ["unix", "unix-none", "unix-dotfile", "unix-excl", "memdb"]

def leadingNumber (cs : List Char) : Nat :=
  Text.Decimal.value (cs.takeWhile Text.Decimal.isDigit)

def isOn (value : String) : Bool :=
  let cs := value.toList
  if (cs.head?.map Text.Decimal.isDigit).getD false then (leadingNumber cs) % 256 != 0
  else ["on", "yes", "true"].contains (String.ofList (cs.map Char.toLower))

def isPrivate (path : String) : Bool := path = "" || path = ":memory:"

def ofPath (access : Access) (path : String) : Location :=
  { path := if isPrivate path then none else some path, access, isWritable := access ≠ .readOnly }

def ofUri (allowed : Access) (cs : List Char) : Except EngineFault Location := do
  let uri := (← afterAuthority cs).takeWhile (· ≠ '#')
  let path := partText (uri.takeWhile (· ≠ '?'))
  let options := optionsOf (uri.dropWhile (· ≠ '?'))
  let access ← options.foldlM applyOption allowed
  let system := ((options.reverse.lookup "vfs").getD "unix")
  if !systems.contains system then .error (.general ("no such vfs: " ++ system))
  else
    let fixed := !(isPrivate path || access = .inMemory) &&
      ((options.lookup "immutable").map isOn).getD false
    let location := ofPath access path
    return { location with
      path := if access = .inMemory ∨ system = "memdb" then none else location.path
      isWritable := location.isWritable && !fixed
      pattern := options.lookup "modeof" }

def parse (allowed : Access) (name : String) : Except EngineFault Location :=
  let cs := name.toList
  if scheme.isPrefixOf cs then ofUri allowed (cs.drop scheme.length)
  else .ok (ofPath allowed name)

def maxPath : Nat := 504

def pathSize (place : Place) : Nat := place.foldl (fun n name => n + 1 + name.utf8ByteSize) 0

def enter (f : Folder) (place : Place) (name : String) : Option Place :=
  if name = "." then some place
  else if name = ".." then some place.dropLast
  else
    let place := place ++ [name]
    if maxPath < pathSize place then none
    else
      match f.walk [] place with
      | .ok _ | .error .missing => some place
      | .error _ => none

def place? (f : Folder) (path : String) : Option Place :=
  let start := if path.toList.head? = some '/' then [] else f.home
  ((Folder.names path).foldlM (enter f) start).filter (· ≠ [])

structure Found where
  place : Option Place
  isWritable : Bool
  folder : Folder

def Found.content (found : Found) : Option Bytes :=
  found.place.bind fun place => found.folder.files.lookup place

def locate (l : Location) (name : String) (f : Folder) : Except EngineFault Found :=
  match l.path with
  | none => .ok ⟨none, l.isWritable, f⟩
  | some path =>
    match place? f path with
    | none => .error (.cannotOpen name)
    | some place =>
      if !((l.pattern.map f.contains).getD true) then .error .inputOutput
      else
        match f.entry? place with
        | some (.file _) => .ok ⟨place, l.isWritable, f⟩
        | some .folder => .error (if l.access = .readOnly then .inputOutput else .cannotOpen name)
        | none =>
          if l.access = .create ∧ f.hasFolder place.dropLast then
            .ok ⟨place, l.isWritable, f.put place []⟩
          else .error (.cannotOpen name)

def maxName : Nat := 247

def Found.refusal (found : Found) : Option EngineFault :=
  if !found.isWritable then some .readOnly
  else
    match found.place with
    | none => none
    | some place =>
      if place = Folder.sink then some .unflushed
      else if (place.getLast?.any fun name => maxName < name.utf8ByteSize) then some .noJournal
      else none

end Location

end ShieldedPool.Store
