import ShieldedPool.Ledger.Transaction

namespace ShieldedPool

inductive SessionError where
  | alreadyExists
  | notFound
  deriving DecidableEq, Repr

def SessionError.message : SessionError → String
  | .alreadyExists => "a deposit session already exists for this group"
  | .notFound => "deposit session not found or expired"

structure Session (δ : Type) where
  data : δ
  created : Nat

structure Sessions (δ : Type) where
  ttl : Nat
  entries : List (Ledger.GroupId × Session δ) := []

namespace Sessions

variable {δ : Type}

def isExpired (ttl now : Nat) (s : Session δ) : Bool := ttl ≤ now - s.created

def find? (t : Sessions δ) (key : Ledger.GroupId) : Option (Session δ) := t.entries.lookup key

def live? (t : Sessions δ) (now : Nat) (key : Ledger.GroupId) : Option (Session δ) :=
  match t.find? key with
  | none => none
  | some s => if isExpired t.ttl now s then none else some s

def delete (key : Ledger.GroupId) (t : Sessions δ) : Sessions δ :=
  { t with entries := t.entries.filter fun e => e.1 ≠ key }

def store (now : Nat) (key : Ledger.GroupId) (data : δ) (t : Sessions δ) :
    Except SessionError Ledger.GroupId × Sessions δ :=
  match t.live? now key with
  | some _ => (.error .alreadyExists, t)
  | none => (.ok key, { t with entries := (key, ⟨data, now⟩) :: (t.delete key).entries })

def retrieve (now : Nat) (key : Ledger.GroupId) (t : Sessions δ) : Except SessionError δ :=
  match t.live? now key with
  | some s => .ok s.data
  | none => .error .notFound

def take (now : Nat) (key : Ledger.GroupId) (t : Sessions δ) :
    Except SessionError δ × Sessions δ :=
  (t.retrieve now key, t.delete key)

def sweep (now : Nat) (t : Sessions δ) : Nat × Sessions δ :=
  let kept := t.entries.filter fun e => !isExpired t.ttl now e.2
  (t.entries.length - kept.length, { t with entries := kept })

def size (t : Sessions δ) : Nat := t.entries.length

end Sessions

end ShieldedPool
