import ShieldedPool.Pool.State
import ShieldedPool.Store.Sweep

namespace ShieldedPool.Pool

structure Schedule where
  cleanupInterval : Nat
  sessionInterval : Nat
  retention : UInt64

namespace Schedule

def due (interval start finish : Nat) : Nat := finish / max interval 1 - start / max interval 1

end Schedule

def State.sweepNotes (retention : UInt64) (cancelled : Bool) (s : State) : State :=
  { s with store := (Sweep.run s.clock retention Sweep.batchSize cancelled s.store).2 }

def State.sweepSessions (s : State) : State := { s with sessions := (s.sessions.sweep s.now).2 }

def Schedule.begin (c : Schedule) (cancelled : Bool) (s : State) : State :=
  s.sweepNotes c.retention cancelled

def Schedule.advance (c : Schedule) (start finish : Nat) (s : State) : State :=
  let s := Nat.repeat (State.sweepNotes c.retention false) (due c.cleanupInterval start finish) s
  if 0 < due c.sessionInterval start finish then s.sweepSessions else s

end ShieldedPool.Pool
