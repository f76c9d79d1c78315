namespace HostMonitor.Shutdown

structure Consumer : Type where
  pending : Bool
  present : Bool
  deriving DecidableEq

inductive Reception : Type
  | signal
  | empty
  | closed
  deriving DecidableEq

structure Fanout : Type where
  consumers : List Consumer
  live : Bool
  deriving DecidableEq

namespace Consumer

def fresh : Consumer := ⟨false, true⟩

/-- A signal arrives; one that is pending already is not doubled. -/
def hand (c : Consumer) : Consumer := { c with pending := c.pending || c.present }

def receive (live : Bool) (c : Consumer) : Reception × Consumer :=
  if c.pending then (.signal, { c with pending := false })
  else (if live then .empty else .closed, c)

def leave (_ : Consumer) : Consumer := ⟨false, false⟩

end Consumer

namespace Fanout

def start : Fanout := ⟨[], true⟩

def register (f : Fanout) : Fanout × Nat :=
  ({ f with consumers := f.consumers ++ [.fresh] }, f.consumers.length)

def broadcast (f : Fanout) : Fanout × Nat :=
  ({ f with consumers := f.consumers.map Consumer.hand }, f.consumers.countP Consumer.present)

def receive (f : Fanout) (i : Nat) : Reception × Fanout :=
  match f.consumers[i]? with
  | some c =>
    let (r, c) := c.receive f.live
    (r, { f with consumers := f.consumers.set i c })
  | none => (.closed, f)

def leave (f : Fanout) (i : Nat) : Fanout :=
  { f with consumers := f.consumers.modify i Consumer.leave }

def close (f : Fanout) : Fanout := { f with live := false }

end Fanout

structure Quit : Type where
  raised : Bool
  orphaned : Bool
  deriving DecidableEq

namespace Quit

def start : Quit := ⟨false, false⟩

def raise (q : Quit) : Quit := if q.orphaned then q else { q with raised := true }

def orphan (q : Quit) : Quit := { q with orphaned := true }

/-- Waiting for the broadcast is over. Without anyone who could raise it there is no use in
waiting. -/
def isOver (q : Quit) : Bool := q.raised || q.orphaned

end Quit

end HostMonitor.Shutdown
