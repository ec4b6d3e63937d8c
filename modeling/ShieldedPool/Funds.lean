import ShieldedPool.Store.Basic

namespace ShieldedPool

namespace Funds

abbrev Opened := List (UInt64 × Option Bytes)

def latest : List (UInt64 × Bytes) → List (UInt64 × Bytes)
  | [] => []
  | b :: blobs =>
    if blobs.head?.any fun next => next.1 = b.1 then latest blobs else b :: latest blobs

def openAll (secret : Vault.Secret) (blobs : List (UInt64 × Bytes)) : Opened :=
  (latest (blobs.mergeSort fun a b => a.1 ≤ b.1)).map fun b =>
    (b.1, (Vault.decrypt secret b.2).toOption)

structure NoteStatus where
  leafIndex : UInt64
  nullifier : Option Bytes
  spentBy : Option UInt64
  deriving DecidableEq, Repr

def spender (s : Store.Snapshot) : Option Bytes → Except StoreError (Option UInt64)
  | none => .ok none
  | some nullifier => (s.spentBy nullifier).map fun w => w.map TxnRecord.leafIndex

def statuses (s : Store.Snapshot) (opened : Opened) : Except StoreError (List NoteStatus) :=
  opened.mapM fun note => (spender s note.2).map fun by_ => ⟨note.1, note.2, by_⟩

inductive ChainFault where
  | unreadable
  | precedes
  | exceeds
  deriving DecidableEq, Repr

def ChainFault.message : ChainFault → String
  | .unreadable => "no readable note at this leaf"
  | .precedes => "withdrawal precedes the note it spends"
  | .exceeds => "withdrawal exceeds the note amount"

inductive ChainEnd where
  | unspent (leafIndex amount : UInt64)
  | exhausted
  | broken (leafIndex : UInt64) (fault : ChainFault)
  deriving DecidableEq, Repr

def remainder (amount : UInt64) (w : TxnRecord) : Option UInt64 :=
  let spent := w.amount.toNat + w.fee.toNat
  if spent ≤ amount.toNat then some (UInt64.ofNat (amount.toNat - spent)) else none

theorem above_measure {leaf next : UInt64} (h : ¬ next ≤ leaf) :
    UInt64.size - next.toNat < UInt64.size - leaf.toNat := by
  have := next.toNat_lt_size
  have := UInt64.lt_iff_toNat_lt.1 (UInt64.not_le.1 h)
  omega

def follow (s : Store.Snapshot) (opened : Opened) (leaf amount : UInt64) :
    Except StoreError ChainEnd :=
  match opened.lookup leaf with
  | some (some nullifier) =>
    match s.spentBy nullifier with
    | .error e => .error e
    | .ok none => .ok (.unspent leaf amount)
    | .ok (some w) =>
      if h : w.leafIndex ≤ leaf then .ok (.broken leaf .precedes)
      else
        have := above_measure h
        match remainder amount w with
        | none => .ok (.broken leaf .exceeds)
        | some change =>
          if change = 0 then .ok .exhausted else follow s opened w.leafIndex change
  | _ => .ok (.broken leaf .unreadable)
termination_by UInt64.size - leaf.toNat

def ends (s : Store.Snapshot) (opened : Opened) : Except StoreError (List (UInt64 × ChainEnd)) := do
  let deposits ← s.deposits
  deposits.mapM fun d => (follow s opened d.leafIndex d.amount).map fun e => (d.leafIndex, e)

end Funds

end ShieldedPool
