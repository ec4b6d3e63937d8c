import ShieldedPool.Ledger.Abi
import ShieldedPool.Ledger.Client
import ShieldedPool.Ledger.Signed

namespace ShieldedPool.Ledger.Mock

inductive Behavior where
  | confirm (afterRounds : UInt64)
  | reject (message : String)
  | poolError (message : String)
  | neverConfirm
  | transportFailure
  deriving DecidableEq, Repr

structure Entry where
  submittedRound : UInt64
  behavior : Behavior
  leafIndex : UInt64

structure State where
  round : UInt64 := 1000
  behavior : Behavior := .confirm 1
  nextLeaf : UInt64 := 0
  params : ChainParams := ⟨0, 1000, 1000, 2000, "mocknet-v1", Block.fill 32 0x11⟩
  submitted : List (List SignedTransaction) := []
  entries : List (String × Entry) := []
  accounts : List (Address × AccountInfo) := []

def refusal : Behavior → Option LedgerError
  | .reject message => some (.api 400 message)
  | .transportFailure => some (.transport (some "connection refused"))
  | _ => none

def submit (group : Bytes) (s : State) : Reply String × State :=
  match decodeGroup group with
  | .error e => (.error e, s)
  | .ok [] => (.error (.decode .emptyGroup), s)
  | .ok (first :: rest) =>
    match refusal s.behavior with
    | some e => (.error e, s)
    | none =>
      let txid := first.txn.id
      (.ok txid,
        { s with
          nextLeaf := s.nextLeaf + 1
          entries := (txid, ⟨s.round, s.behavior, s.nextLeaf⟩) :: s.entries
          submitted := s.submitted ++ [first :: rest] })

def look (round : UInt64) (e : Entry) : PendingTransaction :=
  match e.behavior with
  | .confirm after =>
    let included := e.submittedRound + after
    if included ≤ round then
      { confirmedRound := some included
        logs := [Abi.encodeReturn e.leafIndex (Block.zero 32)] }
    else {}
  | .poolError message => { poolError := message }
  | _ => {}

def pending (txid : String) (s : State) : Reply PendingTransaction :=
  match s.entries.lookup txid with
  | none => .error (.api 404 (txid ++ " not found"))
  | some e => .ok (look s.round e)

def account (a : Address) (s : State) : Reply AccountInfo :=
  match s.accounts.find? (·.1 = a) with
  | none => .error (.api 404 ("account " ++ a.encode ++ " not found"))
  | some (_, info) => .ok info

def advance (round : UInt64) (s : State) : State := { s with round := max s.round (round + 1) }

def client : Client State where
  answer q s := match q with
    | .params => (.ok s.params, s)
    | .submit group => submit group s
    | .pending txid => (pending txid s, s)
    | .status => (.ok s.round, s)
    | .statusAfter round => (.ok (advance round s).round, advance round s)
    | .account a => (account a s, s)

end ShieldedPool.Ledger.Mock
