import ShieldedPool.Text.Utf8

/-!
The part of MessagePack that transactions use. Writing takes the shortest header for every
value. Reading is wider: integers of any width, texts and byte strings for each other, arrays
for records, and field numbers for field names.
-/

namespace ShieldedPool.Ledger.MessagePack

def uint (n : UInt64) : Bytes :=
  if n < 128 then [n.toUInt8]
  else if n < 256 then [0xcc, n.toUInt8]
  else if n < 65536 then 0xcd :: Bytes.natBE 2 n.toNat
  else if n < 4294967296 then 0xce :: Bytes.natBE 4 n.toNat
  else 0xcf :: Bytes.natBE 8 n.toNat

def textHeader (n : Nat) : Bytes :=
  if n < 32 then [UInt8.ofNat (0xa0 + n)]
  else if n < 256 then 0xd9 :: Bytes.natBE 1 n
  else if n < 65536 then 0xda :: Bytes.natBE 2 n
  else 0xdb :: Bytes.natBE 4 n

def blobHeader (n : Nat) : Bytes :=
  if n < 256 then 0xc4 :: Bytes.natBE 1 n
  else if n < 65536 then 0xc5 :: Bytes.natBE 2 n
  else 0xc6 :: Bytes.natBE 4 n

def arrayHeader (n : Nat) : Bytes :=
  if n < 16 then [UInt8.ofNat (0x90 + n)]
  else if n < 65536 then 0xdc :: Bytes.natBE 2 n
  else 0xdd :: Bytes.natBE 4 n

def mapHeader (n : Nat) : Bytes :=
  if n < 16 then [UInt8.ofNat (0x80 + n)]
  else if n < 65536 then 0xde :: Bytes.natBE 2 n
  else 0xdf :: Bytes.natBE 4 n

def text (s : String) : Bytes :=
  let bs := Text.utf8 s
  textHeader bs.length ++ bs

def blob (bs : Bytes) : Bytes := blobHeader bs.length ++ bs

def blobs (items : List Bytes) : Bytes := arrayHeader items.length ++ items.flatMap blob

def record (fields : List (String × Bytes)) : Bytes :=
  mapHeader fields.length ++ fields.flatMap fun f => text f.1 ++ f.2

abbrev Reader (α : Type) := Bytes → Option (α × Bytes)

def takeBytes (n : Nat) : Reader Bytes := fun bs =>
  if n ≤ bs.length then some (bs.take n, bs.drop n) else none

def takeNat (n : Nat) : Reader Nat := fun bs =>
  (takeBytes n bs).map fun (raw, rest) => (Bytes.valueBE raw, rest)

inductive Marker where
  | nil
  | number (n : Nat)
  | signed (n : Nat)
  | text (n : Nat)
  | blob (n : Nat)
  | array (n : Nat)
  | map (n : Nat)

def takeSized (width : Nat) (mark : Nat → Marker) : Reader Marker := fun bs =>
  (takeNat width bs).map fun (n, rest) => (mark n, rest)

def takeSigned (width : Nat) : Reader Marker := fun bs =>
  match takeNat width bs with
  | none => none
  | some (n, rest) => if n < Bytes.capacity width / 2 then some (.signed n, rest) else none

def marker : Reader Marker
  | [] => none
  | b :: bs =>
    let n := b.toNat
    if n < 0x80 then some (.number n, bs)
    else if n < 0x90 then some (.map (n - 0x80), bs)
    else if n < 0xa0 then some (.array (n - 0x90), bs)
    else if n < 0xc0 then some (.text (n - 0xa0), bs)
    else match n with
      | 0xc0 => some (.nil, bs)
      | 0xc4 => takeSized 1 .blob bs
      | 0xc5 => takeSized 2 .blob bs
      | 0xc6 => takeSized 4 .blob bs
      | 0xcc => takeSized 1 .number bs
      | 0xcd => takeSized 2 .number bs
      | 0xce => takeSized 4 .number bs
      | 0xcf => takeSized 8 .number bs
      | 0xd0 => takeSigned 1 bs
      | 0xd1 => takeSigned 2 bs
      | 0xd2 => takeSigned 4 bs
      | 0xd3 => takeSigned 8 bs
      | 0xd9 => takeSized 1 .text bs
      | 0xda => takeSized 2 .text bs
      | 0xdb => takeSized 4 .text bs
      | 0xdc => takeSized 2 .array bs
      | 0xdd => takeSized 4 .array bs
      | 0xde => takeSized 2 .map bs
      | 0xdf => takeSized 4 .map bs
      | _ => none

def readMany {α : Type} (item : Reader α) : Nat → Reader (List α)
  | 0, bs => some ([], bs)
  | n + 1, bs =>
    match item bs with
    | none => none
    | some (x, rest) => (readMany item n rest).map fun (xs, rest) => (x :: xs, rest)

def readNat : Reader Nat := fun bs =>
  match marker bs with
  | some (.number n, rest) => some (n, rest)
  | some (.signed n, rest) => some (n, rest)
  | _ => none

def readUInt : Reader UInt64 := fun bs =>
  (readNat bs).map fun (n, rest) => (UInt64.ofNat n, rest)

def readByte : Reader UInt8 := fun bs =>
  match readNat bs with
  | none => none
  | some (n, rest) => if n < 256 then some (UInt8.ofNat n, rest) else none

def readText : Reader String := fun bs =>
  let take (n : Nat) (rest : Bytes) : Option (String × Bytes) :=
    match takeBytes n rest with
    | none => none
    | some (raw, rest) => (Text.ofUtf8? raw).map fun s => (s, rest)
  match marker bs with
  | some (.text n, rest) => take n rest
  | some (.blob n, rest) => take n rest
  | _ => none

def readBlob : Reader Bytes := fun bs =>
  match marker bs with
  | some (.text n, rest) => takeBytes n rest
  | some (.blob n, rest) => takeBytes n rest
  | some (.array n, rest) => readMany readByte n rest
  | _ => none

def readBlobs : Reader (List Bytes) := fun bs =>
  match marker bs with
  | some (.array n, rest) => readMany readBlob n rest
  | some (.blob 0, rest) => some ([], rest)
  | _ => none

def readOptional {α : Type} (item : Reader α) : Reader (Option α) := fun bs =>
  match marker bs with
  | some (.nil, rest) => some (none, rest)
  | _ => (item bs).map fun (x, rest) => (some x, rest)

abbrev Fields (α : Type) := List (String × Reader α)

def readKey {α : Type} (fields : Fields α) : Reader (String × Reader α) := fun bs =>
  match marker bs with
  | some (.number i, rest) => (fields[i]?).map fun f => (f, rest)
  | _ =>
    match readText bs with
    | none => none
    | some (name, rest) => (fields.find? (·.1 == name)).map fun f => (f, rest)

def readEntries {α : Type} (fields : Fields α) :
    Nat → List (String × α) → Reader (List (String × α))
  | 0, found, bs => some (found.reverse, bs)
  | n + 1, found, bs =>
    match readKey fields bs with
    | none => none
    | some ((name, value), rest) =>
      if found.any (·.1 == name) then none
      else
        match value rest with
        | none => none
        | some (x, rest) => readEntries fields n ((name, x) :: found) rest

def readPlaces {α : Type} : Fields α → Nat → Reader (List (String × α))
  | _, 0, bs => some ([], bs)
  | [], _ + 1, _ => none
  | (name, value) :: fields, n + 1, bs =>
    match value bs with
    | none => none
    | some (x, rest) => (readPlaces fields n rest).map fun (xs, rest) => ((name, x) :: xs, rest)

def readRecord {α : Type} (fields : Fields α) : Reader (List (String × α)) := fun bs =>
  match marker bs with
  | some (.map n, rest) => readEntries fields n [] rest
  | some (.array n, rest) => readPlaces fields n rest
  | _ => none

end ShieldedPool.Ledger.MessagePack
