import ShieldedPool.Ledger.Client

namespace ShieldedPool.Ledger.Script

inductive Call where
  | submit (group : Bytes)
  | status
  | pending (txid : String)
  | after (round : UInt64)

structure State where
  submit : List (Reply String) := []
  status : List (Reply UInt64) := []
  pending : List (Reply PendingTransaction) := []
  after : List (Reply UInt64) := []
  calls : List Call := []

def exhausted {α : Type} : Reply α := .error (.transport (some "script exhausted"))

def next {α : Type} : List (Reply α) → Reply α × List (Reply α)
  | [] => (exhausted, [])
  | r :: rs => (r, rs)

def client : Client State where
  answer q s := match q with
    | .params => (exhausted, s)
    | .submit group =>
      let (r, rest) := next s.submit
      (r, { s with submit := rest, calls := s.calls ++ [.submit group] })
    | .pending txid =>
      let (r, rest) := next s.pending
      (r, { s with pending := rest, calls := s.calls ++ [.pending txid] })
    | .status =>
      let (r, rest) := next s.status
      (r, { s with status := rest, calls := s.calls ++ [.status] })
    | .statusAfter round =>
      let (r, rest) := next s.after
      (r, { s with after := rest, calls := s.calls ++ [.after round] })
    | .account _ => (exhausted, s)

end ShieldedPool.Ledger.Script
