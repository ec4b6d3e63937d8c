import ShieldedPool.Store.Basic
import ShieldedPool.Store.Image
import ShieldedPool.Store.Schema

namespace ShieldedPool.Store

inductive Listed where
  | table (t : Table) (root : Nat)
  | index
  | ruleIndex (root : Option Nat)
  | other

abbrev Listing := List (List Char × Listed)

namespace Image

def latin (bs : Bytes) : List Char := bs.map fun b => Char.ofNat b.toNat

def cellText? : Cell → Option (List Char)
  | .null => none
  | .integer n => some (Text.Decimal.intText n).toList
  | .real _ => some ['.']
  | .text bs =>
    some ((((Text.ofUtf8? bs).map String.toList).getD (latin bs)).takeWhile (·.toNat ≠ 0))
  | .blob bs => some ((latin bs).takeWhile (·.toNat ≠ 0))

def badSchema (name : Option (List Char)) (reason : String) : EngineFault :=
  .coded .malformed
    (String.ofList ("malformed database schema (".toList ++ name.getD ['?'] ++ [')']) ++
      (if reason = "" then "" else " - " ++ reason))

def pageNumber? (cs : List Char) : Option Nat :=
  if !cs.isEmpty && cs.all Text.Decimal.isDigit && Text.Decimal.value cs < UInt32.size then
    some (Text.Decimal.value cs)
  else none

def rootPage? (image : Image) (cs : List Char) : Option Nat :=
  (pageNumber? cs).filter (· ≤ image.pageCount)

def isDefinition (sql : List Char) : Bool := Lexeme.lower (sql.take 2) = ['c', 'r']

def kindOf (kind name owner : Option (List Char)) (root : Nat) (sql : List Char) :
    Except EngineFault Listed :=
  match Table.ofText? sql with
  | some t =>
    let agrees (cs : Option (List Char)) (expected : List Char) : Bool :=
      (cs.map (Table.sameName expected)).getD false
    if agrees kind "table".toList && agrees name t.name && agrees owner t.name then
      .ok (.table t root)
    else .error (badSchema name "")
  | none =>
    if (kind.map (Table.sameName "index".toList)).getD false then .ok .index else .ok .other

def entry (image : Image) (row : Row) : Except EngineFault (List Char × Listed) := do
  let cell (i : Nat) : Except EngineFault (Option (List Char)) :=
    (column row.record i).map fun cell => cell.bind cellText?
  let kind ← cell 0
  let name ← cell 1
  let owner ← cell 2
  let root ← cell 3
  let sql ← cell 4
  match root, sql with
  | none, _ => .error (badSchema name "")
  | some root, some (c :: cs) =>
    if isDefinition (c :: cs) then
      match image.rootPage? root with
      | none => .error (badSchema name "invalid rootpage")
      | some root => do
        let listed ← kindOf kind name owner root (c :: cs)
        return (name.getD [], listed)
    else .error (badSchema name "")
  | some root, _ =>
    match name with
    | none => .error (badSchema none "")
    | some name => .ok (name, .ruleIndex (image.rootPage? root))

def isRuleIndex (entries : Listing) (name : List Char) : Bool :=
  entries.any fun e =>
    match e.2 with
    | .table t _ =>
      ("sqlite_autoindex_".toList ++ Lexeme.lower t.name ++ ['_']).isPrefixOf (Lexeme.lower name)
    | _ => false

def extend (image : Image) (entries : Listing) (row : Row) : Except EngineFault Listing := do
  let (name, listed) ← image.entry row
  match listed with
  | .ruleIndex root =>
    if !isRuleIndex entries name then throw (badSchema name "orphan index")
    else if root.all (· < 2) then throw (badSchema name "invalid rootpage")
    else return entries ++ [(name, .index)]
  | listed => return entries ++ [(name, listed)]

def collect {α : Type} (read : Row → Except EngineFault α) (scan : Scan) :
    Except EngineFault (List α) := do
  let found ← scan.rows.mapM read
  match scan.fault with
  | none => .ok found
  | some fault => .error fault

def listingRoot : Nat := 1

def listing (image : Image) : Except EngineFault Listing := do
  let scan := image.scan false listingRoot
  let entries ← scan.rows.foldlM image.extend []
  match scan.fault with
  | none => return entries
  | some fault => throw fault

end Image

structure Source where
  image : Option Image

namespace Source

def ofBytes (bytes : ByteArray) : Except EngineFault Source := (Image.ofBytes bytes).map Source.mk

def listing (s : Source) : Except EngineFault Listing :=
  match s.image with
  | none => .ok []
  | some image => image.listing

def find? (name : String) (entries : Listing) : Option Listed :=
  (entries.find? fun e => Table.sameName e.1 name.toList).map Prod.snd

end Source

structure Question where
  columns : List String
  table : String
  rest : String

namespace Question

def text (q : Question) : String :=
  "SELECT " ++ String.intercalate ", " q.columns ++ " FROM " ++ q.table ++ q.rest

def offset (q : Question) (column : String) : Nat :=
  (q.columns.takeWhile (· ≠ column)).foldl (fun n c => n + c.length + ", ".length) "SELECT ".length

def noColumn (q : Question) (column : String) : EngineFault :=
  .general ("no such column: " ++ column ++ " in " ++ q.text ++ " at offset " ++
    Text.Decimal.text (q.offset column))

structure Target where
  table : Table
  rows : Scan
  positions : List Nat

def position (q : Question) (t : Table) (column : String) : Except EngineFault Nat :=
  match t.position? column with
  | none => .error (q.noColumn column)
  | some i => .ok i

def target (q : Question) (image : Option Image) (entries : Listing) : Except EngineFault Target :=
  match image, Source.find? q.table entries with
  | some image, some (.table t root) => do
    let positions ← q.columns.mapM (q.position t)
    return ⟨t, image.scan t.isKeyed root, positions⟩
  | _, _ => .error (.general ("no such table: " ++ q.table))

def Target.cell (t : Target) (row : Row) (i : Nat) : Except EngineFault Cell :=
  if t.table.rowColumn = some i then .ok (.integer row.number)
  else
    match t.table.columns[i]?, t.table.order.idxOf? i with
    | some column, some slot =>
      (Image.column row.record slot).map fun found =>
        (found.map column.affinity.read).getD column.default
    | _, _ => .ok .null

def Target.cells (t : Target) (row : Row) : Except EngineFault (List (String × Cell)) :=
  t.positions.mapM fun i =>
    (t.cell row i).map fun cell =>
      (String.ofList ((t.table.columns[i]?.map Column.name).getD []), cell)

def before (a b : List (String × Cell)) : Bool :=
  match a, b with
  | (_, x) :: _, (_, y) :: _ => x.atMost y
  | _, _ => true

def Target.select {α : Type} (t : Target) (test : Row → Except EngineFault Bool)
    (read : List (String × Cell) → Except EngineFault α) : Except EngineFault (List α) :=
  let chosen (row : Row) : Except EngineFault (Option (List (String × Cell))) := do
    if ← test row then return some (← t.cells row) else return none
  if t.table.rowColumn = t.positions.head? then
    (Image.collect (fun row => do (← chosen row).mapM read) t.rows).map fun xs => xs.filterMap id
  else do
    let found ← Image.collect chosen t.rows
    ((found.filterMap id).mergeSort before).mapM read

def Target.firstOf {α : Type} (t : Target) (test : Row → Except EngineFault Bool)
    (read : List (String × Cell) → Except EngineFault α) : List Row → Except EngineFault (Option α)
  | [] =>
    match t.rows.fault with
    | none => .ok none
    | some fault => .error fault
  | row :: rows => do
    if ← test row then return some (← read (← t.cells row)) else t.firstOf test read rows

end Question

abbrev Reading := StateT (Nat × List (String × Cell)) (Except EngineFault)

namespace Reading

def take {α : Type} (as? : Cell → Option α) : Reading α := fun (i, cells) =>
  match cells with
  | [] => .error (.wrongType "Null" i "")
  | (name, cell) :: rest =>
    match as? cell with
    | none => .error (.wrongType cell.typeName i name)
    | some a => .ok (a, i + 1, rest)

def integer : Reading Int := take fun | .integer n => some n | _ => none

def blob : Reading Bytes := take fun | .blob bs => some bs | _ => none

def text : Reading String := do
  let (i, _) ← get
  let bs ← take fun | .text bs => some bs | _ => none
  match Text.ofUtf8? bs with
  | some s => return s
  | none => throw (.notText i (Text.utf8Fault 0 bs))

def optionalBlob : Reading (Option Bytes) :=
  take fun | .null => some none | .blob bs => some (some bs) | _ => none

def run {α : Type} (r : Reading α) (cells : List (String × Cell)) : Except EngineFault α :=
  (StateT.run r (0, cells)).map Prod.fst

def sealedNullifier : Reading (UInt64 × Bytes) := do
  let leaf ← integer
  let nullifier ← blob
  return (unsigned leaf, nullifier)

def transaction : Reading TxnRow := do
  let leaf ← integer
  let commitment ← blob
  let txnId ← text
  let txnType ← integer
  let amount ← integer
  let fee ← integer
  let fromNullifier ← optionalBlob
  return { leaf, commitment, txnId, txnType, amount, fee, fromNullifier }

end Reading

namespace Source

def notesQuestion : Question :=
  ⟨["leaf_index", "nullifier"], "notes", " ORDER BY leaf_index"⟩

def txnColumns : List String :=
  ["leaf_index", "commitment", "txn_id", "txn_type", "amount", "fee", "from_nullifier"]

def depositsQuestion : Question :=
  ⟨txnColumns, "txns", " WHERE txn_type = ?1 ORDER BY leaf_index"⟩

def spentQuestion : Question :=
  ⟨txnColumns, "txns", " WHERE txn_type = ?1 AND from_nullifier = ?2"⟩

def isOfType (t : Question.Target) (type : TxnType) (row : Row) : Except EngineFault Bool :=
  match t.positions[3]?.bind fun i => (t.table.columns[i]?).map fun c => (i, c.affinity) with
  | none => .ok false
  | some (i, affinity) => (t.cell row i).map (affinity.equals type.code)

def isSpending (t : Question.Target) (nullifier : Bytes) (row : Row) : Except EngineFault Bool := do
  if ← isOfType t .withdrawal row then
    match t.positions[6]? with
    | none => return false
    | some i => (t.cell row i).map (· = .blob nullifier)
  else return false

def snapshot (s : Source) : Snapshot :=
  let ask (q : Question) : Except EngineFault Question.Target := do
    let entries ← s.listing
    q.target s.image entries
  let notes := do
    let t ← ask notesQuestion
    t.select (fun _ => .ok true) Reading.sealedNullifier.run
  let deposits := do
    let t ← ask depositsQuestion
    t.select (isOfType t .deposit) Reading.transaction.run
  let spending := ask spentQuestion
  { sealedNullifiers := notes.mapError .engine
    deposits := (deposits.mapError .engine).bind fun rows => rows.mapM TxnRow.toRecord
    spentBy := fun nullifier =>
      match spending.bind fun t =>
          t.firstOf (isSpending t nullifier) Reading.transaction.run t.rows.rows with
      | .error fault => .error (.engine fault)
      | .ok none => .ok none
      | .ok (some row) => row.toRecord.map some }

end Source

def Snapshot.ofBytes (bytes : ByteArray) : Snapshot :=
  match Source.ofBytes bytes with
  | .ok source => source.snapshot
  | .error fault =>
    let error := StoreError.engine fault
    ⟨.error error, .error error, fun _ => .error error⟩

namespace Source

def poolTables : List String := ["notes", "unconfirmed_notes", "txns", "roots", "stats"]

def addTable (refusal : Option EngineFault) (entries : Listing) (name : String) :
    Except EngineFault Unit :=
  match find? name entries with
  | some .index => .error (.general ("there is already an index named " ++ name))
  | some _ => .ok ()
  | none =>
    match refusal with
    | some fault => .error fault
    | none => .ok ()

def addTables (s : Source) (refusal : Option EngineFault) : Except EngineFault Unit := do
  let entries ← s.listing
  let isFixed := (s.image.map Image.isFixed).getD false
  poolTables.forM (addTable (if isFixed then some .readOnly else refusal) entries)

end Source

end ShieldedPool.Store
