import ShieldedPool.Flow
import ShieldedPool.Store.Basic

namespace ShieldedPool

structure SweepReport where
  promoted : Nat := 0
  discarded : Nat := 0
  retained : Nat := 0
  deriving DecidableEq, Repr

namespace Sweep

def isStale (now retention : UInt64) (r : UnconfirmedRecord) : Bool :=
  retention.toNat ≤ now.toNat - r.createdAt.toNat

def resolve (now retention : UInt64) :
    List UnconfirmedRecord → List Int → SweepReport →
      Flow Store (Except StoreError (List Int × SweepReport))
  | [], stale, report => .done (.ok (stale, report))
  | r :: rs, stale, report =>
    .act (fun s => (s.leafOf r.commitment, s)) fun found =>
      match found with
      | .ok leaf =>
        .act (fun s => ((), s.promote r leaf)) fun _ =>
          resolve now retention rs stale { report with promoted := report.promoted + 1 }
      | .error .notFound =>
        if isStale now retention r then resolve now retention rs (stale ++ [r.id]) report
        else resolve now retention rs stale { report with retained := report.retained + 1 }
      | .error e => .done (.error e)

/-- Works through the batches after an id. A sweep is allowed a number of batches; one that is
cancelled is allowed no more. -/
def batches (now retention batchSize : UInt64) :
    Nat → Int → SweepReport → Flow Store (Except StoreError SweepReport)
  | 0, _, report => .done (.ok report)
  | allowed + 1, afterId, report =>
    .act (fun s => (s.unconfirmedBatch afterId (max batchSize 1), s)) fun batch =>
      match batch with
      | .error e => .done (.error e)
      | .ok batch =>
        match batch.getLast? with
        | none => .done (.ok report)
        | some last =>
          (resolve now retention batch [] report).bind fun resolved =>
            match resolved with
            | .error e => .done (.error e)
            | .ok (stale, report) =>
              .act (fun s => s.deleteUnconfirmedBatch stale) fun deleted =>
                match deleted with
                | .error e => .done (.error e)
                | .ok n =>
                  batches now retention batchSize allowed last.id
                    { report with discarded := report.discarded + n }

def enough (s : Store) : Nat := s.pending.length + 1

def run (now retention batchSize : UInt64) (cancelled : Bool) (s : Store) :
    Except StoreError SweepReport × Store :=
  let allowed := if cancelled then 0 else enough s
  let (r, s, _) := (batches now retention batchSize allowed 0 {}).run Ledger.Client.offline s ()
  (r, s)

def batchSize : UInt64 := 256

end Sweep

end ShieldedPool
