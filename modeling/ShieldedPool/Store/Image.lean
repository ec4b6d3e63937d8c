import ShieldedPool.Store.Basic
import ShieldedPool.Store.Cell

/-!
The file that a database is stored in. It consists of pages of one size; each table is a tree of
pages whose leaves hold the rows in the order of their numbers. What is read first is checked
first, so of several faults the one that lies before the others in that order is found.
-/

namespace ShieldedPool.Store

inductive TextForm where
  | utf8
  | utf16LE
  | utf16BE
  deriving DecidableEq, Repr

structure Image where
  bytes : ByteArray
  pageSize : Nat
  usable : Nat
  pageCount : Nat
  textForm : TextForm
  isFixed : Bool

structure Record where
  size : Nat
  kept : Bytes
  textForm : TextForm

structure Row where
  number : Int
  record : Record

structure Scan where
  rows : List Row
  fault : Option EngineFault

def Scan.andThen (a : Scan) (next : Unit → Scan) : Scan :=
  if a.fault.isSome then a
  else
    let b := next ()
    ⟨a.rows ++ b.rows, b.fault⟩

namespace Image

def magic : Bytes := Text.utf8 "SQLite format 3" ++ [0]

def slice (bytes : ByteArray) (start length : Nat) : Bytes :=
  (bytes.extract start (start + length)).toList

def number (bytes : ByteArray) (start length : Nat) : Nat :=
  Bytes.valueBE (slice bytes start length)

def padded (bytes : ByteArray) (size : Nat) : ByteArray :=
  bytes ++ ⟨Array.replicate (size - bytes.size) 0⟩

def isPageSize (n : Nat) : Bool := (List.range 8).any fun i => n = 512 <<< i

def textFormOf (n : Nat) : TextForm :=
  if n % 4 = 2 then .utf16LE else if n % 4 = 3 then .utf16BE else .utf8

def ofBytes (bytes : ByteArray) : Except EngineFault (Option Image) :=
  if bytes.size ≤ 1 then .ok none
  else
    let head := padded bytes 100
    let byte (i : Nat) : Nat := number head i 1
    let pageSize := byte 16 * 256 + byte 17 * 65536
    if slice head 0 16 ≠ magic ∨ 2 < byte 19 ∨ slice head 21 3 ≠ [64, 32, 32] ∨
        !isPageSize pageSize then .error .notDatabase
    else
      let present := (bytes.size + pageSize - 1) / pageSize
      let told := number head 28 4
      let count := if told = 0 ∨ slice head 24 4 ≠ slice head 92 4 then present else told
      let usable := pageSize - byte 20
      if present < count then .error .malformed
      else if usable < 480 then .error .notDatabase
      else if 4 < number head 47 1 then .error (.general "unsupported file format")
      else
        .ok (some
          { bytes := padded bytes (count * pageSize), pageSize, usable, pageCount := count,
            textForm := textFormOf (number head 59 1), isFixed := 2 < byte 18 })

def pageStart (image : Image) (page : Nat) : Nat := (page - 1) * image.pageSize

/-- A number of one to nine bytes: seven bits of each while the top bit is set, and all eight of
the ninth. -/
def readVarint : Nat → Nat → Bytes → Nat × Bytes
  | _, acc, [] => (acc, [])
  | 0, acc, b :: rest => (acc * 256 + b.toNat, rest)
  | more + 1, acc, b :: rest =>
    if b < 0x80 then (acc * 128 + b.toNat, rest)
    else readVarint more (acc * 128 + (b.toNat - 128)) rest

def varint (bs : Bytes) : Nat × Bytes := readVarint 8 0 bs

def signedValue (bs : Bytes) : Int :=
  let n := Bytes.valueBE bs
  let values := Bytes.capacity bs.length
  if 2 * n < values then n else (n : Int) - values

def kindSize (kind : Nat) : Nat :=
  if kind ≤ 4 then kind
  else if kind = 5 then 6
  else if kind ≤ 7 then 8
  else if kind < 12 then 0
  else (kind - 12) / 2

def unitsOf (isLittle : Bool) : Bytes → List Nat
  | a :: b :: rest =>
    (if isLittle then a.toNat + 256 * b.toNat else 256 * a.toNat + b.toNat) :: unitsOf isLittle rest
  | _ => []

def joinUnits : List Nat → List Char
  | a :: b :: rest =>
    if 0xd800 ≤ a ∧ a < 0xe000 then
      Char.ofNat ((a / 64 % 16 + 1) * 65536 + a % 64 * 1024 + b % 1024) :: joinUnits rest
    else Char.ofNat a :: joinUnits (b :: rest)
  | [a] => [Char.ofNat a]
  | [] => []

def textBytes (form : TextForm) (bs : Bytes) : Bytes :=
  match form with
  | .utf8 => bs
  | .utf16LE => Text.utf8 (String.ofList (joinUnits (unitsOf true bs)))
  | .utf16BE => Text.utf8 (String.ofList (joinUnits (unitsOf false bs)))

def cellOf (form : TextForm) (kind : Nat) (bs : Bytes) : Cell :=
  if kind = 0 then .null
  else if kind ≤ 6 then .integer (signedValue bs)
  else if kind = 7 then .ofDouble (Bytes.valueBE bs)
  else if kind = 8 then .integer 0
  else if kind = 9 then .integer 1
  else if kind < 12 then .null
  else if kind % 2 = 0 then .blob bs
  else .text (textBytes form bs)

def maxHead : Nat := 98307

def columnFrom (r : Record) : Nat → Bytes → Nat → Nat → Except EngineFault (Option Cell)
  | index, kinds, head, start =>
    if head = 0 then .ok none
    else
      let (kind, rest) := varint kinds
      let taken := kinds.length - rest.length
      let after := start + kindSize kind
      if head < taken ∨ (head = taken ∧ after ≠ r.size) ∨ r.size < after then .error .malformed
      else
        match index with
        | 0 =>
          if r.kept.length < after then .error .malformed
          else .ok (cellOf r.textForm kind ((r.kept.drop start).take (kindSize kind)))
        | index + 1 => columnFrom r index rest (head - taken) after

def column (r : Record) (index : Nat) : Except EngineFault (Option Cell) :=
  let (size, kinds) := varint r.kept
  if r.size = 0 then .ok none
  else if r.kept.length < max 1 size ∨ maxHead < size ∨ r.size < size then .error .malformed
  else columnFrom r index kinds (size - (r.kept.length - kinds.length)) size

def localSize (image : Image) (most size : Nat) : Nat :=
  if size ≤ most then size
  else
    let least := (image.usable - 12) * 32 / 255 - 23
    let kept := least + (size - least) % (image.usable - 4)
    if kept ≤ most then kept else least

def overflow (image : Image) : Nat → Nat → Nat → Bytes
  | 0, _, _ => []
  | fuel + 1, page, left =>
    if page = 0 ∨ image.pageCount < page ∨ left = 0 then []
    else
      let start := image.pageStart page
      let here := min left (image.usable - 4)
      slice image.bytes (start + 4) here ++
        image.overflow fuel (number image.bytes start 4) (left - here)

def readRecord (image : Image) (most size page content : Nat) : Record :=
  let start := image.pageStart page + content
  let kept := image.localSize most size
  let head := slice image.bytes start (min kept (image.pageSize - content))
  let next := number image.bytes (start + kept) 4
  let rest :=
    if kept = size ∨ head.length < kept then []
    else image.overflow image.pageCount next (size - kept)
  ⟨size, head ++ rest, image.textForm⟩

def readRow (image : Image) (page offset : Nat) : Row :=
  let start := image.pageStart page + offset
  let (size, afterSize) := varint (slice image.bytes start 18)
  let (key, afterKey) := varint afterSize
  let length := min 18 (image.bytes.size - start)
  let content := offset + (length - afterKey.length)
  ⟨signed (UInt64.ofNat key), image.readRecord (image.usable - 35) size page content⟩

def readKeyed (image : Image) (page offset : Nat) : Row :=
  let start := image.pageStart page + offset
  let (size, after) := varint (slice image.bytes start 9)
  let content := offset + (min 9 (image.bytes.size - start) - after.length)
  ⟨0, image.readRecord ((image.usable - 12) * 64 / 255 - 23) size page content⟩

structure Page where
  isLeaf : Bool
  cells : List Nat
  last : Nat

def pageKinds (isKeyed : Bool) : Nat × Nat := if isKeyed then (10, 2) else (13, 5)

def page? (image : Image) (isKeyed : Bool) (page : Nat) : Option Page :=
  let start := image.pageStart page
  let header := if page = 1 then start + 100 else start
  let kind := number image.bytes header 1
  let (leaf, inner) := pageKinds isKeyed
  let count := number image.bytes (header + 3) 2
  if page = 0 ∨ image.pageCount < page ∨ (kind ≠ leaf ∧ kind ≠ inner) ∨
      (image.pageSize - 8) / 6 < count then none
  else
    let first := header + (if kind = leaf then 8 else 12)
    some ⟨kind = leaf,
      (List.range count).map fun i => number image.bytes (first + 2 * i) 2 % image.pageSize,
      number image.bytes (header + 8) 4⟩

def scanAll (scan : Nat → Scan) : List Nat → Scan
  | [] => ⟨[], none⟩
  | place :: places => (scan place).andThen fun _ => scanAll scan places

/-- The rows of the tree below a page, at most `fuel` pages deep. Only the whole tree's first page
may be empty. In a tree without numbers each page above the leaves holds the rows that stand
between the pages below it. -/
def scanBelow (image : Image) (isKeyed : Bool) : Nat → Bool → Nat → Scan
  | 0, _, _ => ⟨[], some .malformed⟩
  | fuel + 1, isTop, page =>
    match image.page? isKeyed page with
    | none => ⟨[], some .malformed⟩
    | some p =>
      if p.isLeaf then
        if p.cells.isEmpty && !isTop then ⟨[], some .malformed⟩
        else ⟨p.cells.map (if isKeyed then image.readKeyed page else image.readRow page), none⟩
      else if p.cells.isEmpty && !(isTop && page = 1) then ⟨[], some .malformed⟩
      else
        let below (offset : Nat) : Scan :=
          (image.scanBelow isKeyed fuel false
              (number image.bytes (image.pageStart page + offset) 4)).andThen fun _ =>
            ⟨if isKeyed then [image.readKeyed page (offset + 4)] else [], none⟩
        (scanAll below p.cells).andThen fun _ => image.scanBelow isKeyed fuel false p.last

def maxDepth : Nat := 20

def scan (image : Image) (isKeyed : Bool) (root : Nat) : Scan :=
  image.scanBelow isKeyed maxDepth true root

end Image

end ShieldedPool.Store
