import ShieldedPool.Cli.Answer
import ShieldedPool.Cli.Arguments
import ShieldedPool.Cli.Terminal
import ShieldedPool.Funds
import ShieldedPool.Http.Body
import ShieldedPool.Http.Service

namespace ShieldedPool.Cli

open Json (Value)

inductive Failure where
  | amount (e : AmountError)
  | note (e : NoteError)
  | malformedNote (e : NoteError)
  | keyExists (path : String)
  | keyUnwritten (path : String) (fault : FileFault)
  | blobNotHex (fault : Text.Hex.HexError)
  | badSecret (e : VaultError)
  | vault (e : VaultError)
  | database (name : String) (fault : EngineFault)
  | store (e : StoreError)
  deriving DecidableEq, Repr

def withHint (error hint : String) : String := error ++ "\nhint: " ++ hint

def keygenMark : String := String.ofList (Char.ofNat 96 :: "hv keygen".toList ++ [Char.ofNat 96])

def Failure.chain : Failure → List String
  | .amount e => [e.message]
  | .note e => [e.message]
  | .malformedNote e => [withHint e.message "a note is the hex string shown after a deposit"]
  | .keyExists path =>
    [withHint (path ++ " already exists")
      ("pass --force to replace it; notes sealed to the old key stay readable only with " ++
        "the old secret")]
  | .keyUnwritten path fault => ["writing " ++ path, fault.message]
  | .blobNotHex fault => ["sealed nullifier is not valid hex", fault.message]
  | .badSecret e =>
    [withHint ("invalid vault secret: " ++ e.message)
      ("expected the 64-character hex printed by " ++ keygenMark)]
  | .vault e => [e.message]
  | .database name fault =>
    ("opening " ++ name) :: (StoreError.engine fault).message :: fault.causes
  | .store e => e.message :: e.causes

abbrev Task := Terminal (Except Failure Answer)

def fail (f : Failure) : Task := .done (.error f)

def answer (json : List (String × Value)) (lines : List Line) : Task :=
  .done (.ok ⟨.object json, lines⟩)

def hexText (bs : Bytes) : String := Text.Hex.encode bs

def withSecret (next : Vault.Secret → Task) : Task :=
  .readSecret fun line =>
    match Vault.Secret.ofHex line with
    | .error e => fail (.badSecret e)
    | .ok secret => next secret

def keyWritten (path : String) (secret : Vault.Secret) : Task :=
  let publicKey := hexText secret.publicKey.key.bytes
  answer
    [("public_key_path", .text path), ("public_key", .text publicKey),
      ("secret_key", .text secret.hex)]
    [.notice ("public key written to " ++ path), .label "public_key" publicKey,
      .notice "store the secret below offline; it is not saved anywhere", .data secret.hex]

def keygen (path : String) (force : Bool) : Task :=
  .fileExists path fun taken =>
    if taken && !force then fail (.keyExists path)
    else
      .random fun source =>
        match (Vault.generate source).1 with
        | .error e => fail (.vault e)
        | .ok secret =>
          .writeFile path secret.publicKey.key.bytes fun written =>
            match written with
            | .error fault => fail (.keyUnwritten path fault)
            | .ok () => keyWritten path secret

def decodeBlob (text : String) : Except Text.Hex.HexError Bytes :=
  Text.Hex.decode (Text.utf8 (String.ofList (Http.stripMarks (Text.trimList text.toList))))

def decrypt (blob : String) : Task :=
  match decodeBlob blob with
  | .error fault => fail (.blobNotHex fault)
  | .ok bs =>
    withSecret fun secret =>
      match Vault.decrypt secret bs with
      | .error e => fail (.vault e)
      | .ok nullifier =>
        answer [("nullifier", .text (hexText nullifier))] [.data (hexText nullifier)]

def optional {α : Type} (f : α → Value) : Option α → Value
  | none => .null
  | some a => f a

def number (n : UInt64) : Value := .number n.toNat

def numberText (n : UInt64) : String := Text.Decimal.text n.toNat

def statusJson (n : Funds.NoteStatus) : Value :=
  .object
    [("leaf_index", number n.leafIndex),
      ("nullifier", optional (fun bs => .text (hexText bs)) n.nullifier),
      ("spent_by", optional number n.spentBy)]

def statusText (n : Funds.NoteStatus) : String :=
  match n.spentBy, n.nullifier with
  | some w, _ => "spent by " ++ numberText w
  | none, some _ => "unspent"
  | none, none => "-"

def statusLine (n : Funds.NoteStatus) : Line :=
  .data (numberText n.leafIndex ++ "\t" ++ (n.nullifier.map hexText).getD "-" ++ "\t" ++
    statusText n)

def endJson (deposit : UInt64) : Funds.ChainEnd → Value
  | .unspent leaf amount =>
    .object
      [("deposit", number deposit), ("status", .text "unspent"), ("leaf_index", number leaf),
        ("amount", number amount), ("change", .bool (leaf != deposit))]
  | .exhausted => .object [("deposit", number deposit), ("status", .text "spent")]
  | .broken leaf fault =>
    .object
      [("deposit", number deposit), ("status", .text "unknown"), ("leaf_index", number leaf),
        ("reason", .text fault.message)]

def endLines (deposit : UInt64) : Funds.ChainEnd → List Line
  | .unspent leaf amount =>
    [.label ("deposit " ++ numberText deposit)
      ((if leaf = deposit then "deposit" else "change") ++ " at leaf " ++ numberText leaf ++
        " holds " ++ numberText amount)]
  | .exhausted => []
  | .broken leaf fault =>
    [.notice ("deposit " ++ numberText deposit ++ ": chain stops at leaf " ++ numberText leaf ++
      ": " ++ fault.message)]

def failedLines (failed : Nat) : List Line :=
  if failed = 0 then []
  else [.notice (Text.Decimal.text failed ++ " nullifier(s) did not open with this secret")]

def showNotes (notes : List Funds.NoteStatus) (ends : List (UInt64 × Funds.ChainEnd)) : Task :=
  let failed := notes.countP fun n => n.nullifier.isNone
  answer
    [("notes", .array (notes.map statusJson)),
      ("deposits", .array (ends.map fun e => endJson e.1 e.2)),
      ("failed", .number failed)]
    (notes.map statusLine ++ .label "notes" (Text.Decimal.text notes.length) ::
      ends.flatMap (fun e => endLines e.1 e.2) ++ failedLines failed)

def showFunds (s : Store.Snapshot) (nullifiers : Funds.Opened) : Task :=
  match Funds.statuses s nullifiers with
  | .error e => fail (.store e)
  | .ok notes =>
    match Funds.ends s nullifiers with
    | .error e => fail (.store e)
    | .ok ends => showNotes notes ends

def decryptNotes (name : String) : Task :=
  .openDatabase name fun opened =>
    match opened with
    | .error fault => fail (.database name fault)
    | .ok s =>
      match s.sealedNullifiers with
      | .error e => fail (.store e)
      | .ok blobs => withSecret fun secret => showFunds s (Funds.openAll secret blobs)

def inspectNote (text : String) : Task :=
  match Note.parse text with
  | .error e => fail (.malformedNote e)
  | .ok n =>
    let amount := Amount.ofUnits n.amount
    let commitment := hexText n.commitment.bytes
    let nullifier := hexText n.nullifier.bytes
    answer
      [("amount", Http.Body.amount amount), ("commitment", .text commitment),
        ("nullifier", .text nullifier)]
      [.label "amount" amount.display, .label "commitment" commitment,
        .label "nullifier" nullifier]

def newNote (text : String) : Task :=
  match Amount.parse text with
  | .error e => fail (.amount e)
  | .ok amount =>
    .random fun source =>
      match (Note.generate amount.units source).1 with
      | .error e => fail (.note e)
      | .ok n =>
        answer
          [("amount", Http.Body.amount amount), ("note", .text n.text),
            ("commitment", .text (hexText n.commitment.bytes))]
          [.label "amount" amount.display,
            .notice "anyone holding this text can spend the note", .data n.text]

def showPreview (p : Withdrawal.Preview) : Task :=
  let fee := Amount.ofUnits p.fee
  let most := Amount.ofUnits p.maxWithdrawal
  answer
    [("fee", Http.Body.amount fee),
      ("change", optional (fun c => Http.Body.amount (Amount.ofUnits c)) p.change),
      ("max_withdrawal", Http.Body.amount most)]
    [.label "fee" fee.display, .label "max withdrawal" most.display,
      match p.change with
      | some c => .label "change" (Amount.ofUnits c).display
      | none => .notice ("note too small: at most " ++ most.display ++ " can be withdrawn")]

def fee (noteAmount amount : String) (p : FeePolicy) : Task :=
  match Amount.parse noteAmount with
  | .error e => fail (.amount e)
  | .ok noteAmount =>
    match Amount.parse amount with
    | .error e => fail (.amount e)
    | .ok amount => showPreview (Withdrawal.preview p noteAmount.units amount.units)

def Command.run : Command → Task
  | .keygen out force => Cli.keygen out force
  | .decrypt blob => Cli.decrypt blob
  | .decryptNotes database => Cli.decryptNotes database
  | .inspectNote text => Cli.inspectNote text
  | .newNote amount => Cli.newNote amount
  | .fee noteAmount amount policy => Cli.fee noteAmount amount policy

def Stop.printed : Stop → Printed
  | .help => { stdout := usage }
  | .misuse => { stderr := usage, exitCode := 2 }

def printed (json : Bool) : Except Failure Answer → Printed
  | .ok a => a.print json
  | .error f => printFailure f.chain

end ShieldedPool.Cli
