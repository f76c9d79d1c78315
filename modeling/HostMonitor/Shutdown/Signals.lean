namespace HostMonitor.Shutdown

structure Signals : Type where
  capacity : Nat
  pending : Nat
  live : Bool

namespace Signals

def start (capacity : Nat) : Signals := ⟨capacity, 0, true⟩

def send (s : Signals) : Signals :=
  if s.live && s.pending < s.capacity then { s with pending := s.pending + 1 } else s

def close (s : Signals) : Signals := { s with live := false }

def isReady (s : Signals) : Bool := 0 < s.pending || !s.live

def receive (s : Signals) : Signals := { s with pending := s.pending - 1 }

end Signals

end HostMonitor.Shutdown
