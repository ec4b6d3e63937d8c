import ShieldedPool.Pool.Deposit
import ShieldedPool.Pool.Withdraw

namespace ShieldedPool.Http.Body

open Json (Value)

def units (n : UInt64) : Value := .number n.toNat

def hex (w : Word) : Value := .text (Text.Hex.encode w.bytes)

def amount (a : Amount) : Value := .object [("units", units a.units), ("display", .text a.display)]

def health : Value := .object [("status", .text "ok")]

def stats (s : Stats) : Value :=
  Value.sorted <| .object
    [("deposit_total", amount s.depositTotal),
      ("withdrawal_total", amount s.withdrawalTotal),
      ("fee_total", amount s.feeTotal),
      ("tvl", amount s.tvl),
      ("deposit_count", units s.depositCount),
      ("note_count", units s.noteCount),
      ("spent_note_count", units s.spentNoteCount)]

def root (r : Word × UInt64) : Value :=
  Value.sorted <| .object [("root", hex r.1), ("leaf_count", units r.2)]

def witness (w : Pool.Witness) : Value :=
  .object
    [("leaf_index", units w.leafIndex),
      ("root", hex w.root),
      ("siblings", .array (w.siblings.map hex)),
      ("indices", .array (w.rights.map .bool))]

def maxDeposit (a : Amount) : Value := Value.sorted <| .object [("max_amount", amount a)]

def ticket (t : Pool.DepositTicket) : Value :=
  .object
    [("group_id", .text t.groupId.toBase64),
      ("amount", amount t.amount),
      ("txns", .array (t.txns.map .text)),
      ("index_to_sign", .number t.indexToSign),
      ("note_text", .text t.noteText)]

def depositReceipt (r : Pool.DepositReceipt) : Value :=
  .object
    [("txn_id", .text r.txnId), ("leaf_index", units r.leafIndex), ("amount", amount r.amount)]

def withdrawal (w : Withdrawal) : Value :=
  Value.sorted <| .object
    [("amount", amount w.amount),
      ("fee", amount w.fee),
      ("address", .text w.address.encode),
      ("change_amount", amount (Amount.ofUnits w.changeNote.amount)),
      ("change_note", .text w.changeNote.text),
      ("leaf_index", match w.fromNote.position with
        | none => .null
        | some i => units i)]

def withdrawalReceipt (r : Pool.WithdrawalReceipt) : Value :=
  .object
    [("txn_id", .text r.txnId),
      ("amount", amount r.amount),
      ("fee", amount r.fee),
      ("change_amount", amount r.changeAmount),
      ("change_leaf_index", units r.changeLeafIndex)]

end ShieldedPool.Http.Body
