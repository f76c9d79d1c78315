namespace HostMonitor

structure Span : Type where
  seconds : UInt64
  nanos : Nat := 0
  lower : nanos < 1_000_000_000 := by decide
  deriving DecidableEq

namespace Span

def zero : Span := ⟨0, 0, by decide⟩

def ofSeconds (s : UInt64) : Span := ⟨s, 0, by decide⟩

instance : Inhabited Span := ⟨zero⟩

def millis (s : Span) : Nat := s.seconds.toNat * 1000 + s.nanos / 1_000_000

def inNanos (s : Span) : Nat := s.seconds.toNat * 1_000_000_000 + s.nanos

def ofMillis (n : Nat) : Span :=
  ⟨UInt64.ofNat (n / 1000), n % 1000 * 1_000_000,
    by have := Nat.mod_lt n (by decide : 0 < 1000); omega⟩

def half (s : Span) : Span :=
  ⟨s.seconds / 2, (s.seconds.toNat % 2 * 1_000_000_000 + s.nanos) / 2, by have := s.lower; omega⟩

end Span

end HostMonitor
