import HostMonitor.Time.Instant

namespace HostMonitor

structure Moment : Type where
  uptime : Nat
  wall : Instant
  deriving Inhabited

def earlier : Option Nat → Option Nat → Option Nat
  | some a, some b => some (min a b)
  | some a, none => some a
  | none, b => b

end HostMonitor
