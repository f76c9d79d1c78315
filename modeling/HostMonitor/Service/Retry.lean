import HostMonitor.Dialogue
import HostMonitor.Service.Error

namespace HostMonitor.Service

structure Retry : Type where
  attempts : UInt32
  spacing : Span
  deriving DecidableEq

namespace Retry

def standard : Retry := ⟨20, .ofSeconds 3⟩

def lookup : Retry := ⟨3, .ofSeconds 2⟩

def isFinal {α : Type} : Except Error α → Bool
  | .ok _ => true
  | .error e => e.isClient

variable {Q : Type} {A : Q → Type} {α : Type}

def repeated (spacing : Span) (op : Dialogue Q A (Except Error α)) :
    Nat → Dialogue Q A (Except Error α)
  | 0 => op
  | further + 1 => op.bind fun r =>
    if isFinal r then .done r else .rest spacing (repeated spacing op further)

/-- At least one attempt is made. -/
def run (p : Retry) (op : Dialogue Q A (Except Error α)) : Dialogue Q A (Except Error α) :=
  repeated p.spacing op (p.attempts.toNat - 1)

end Retry

end HostMonitor.Service
