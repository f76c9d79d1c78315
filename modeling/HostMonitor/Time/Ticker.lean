namespace HostMonitor

inductive Lateness : Type
  | delay
  | skip
  deriving DecidableEq

structure Ticker : Type where
  period : Nat
  due : Nat
  lateness : Lateness

namespace Ticker

/-- A tick served by so many milliseconds after it was due is not late. -/
def tolerance : Nat := 5

/-- In milliseconds, where a clock ends that counts seconds in 63 bits. -/
def clockLimit : Nat := 0x8000_0000_0000_0000 * 1000

/-- The clock can tell when the first tick is due. -/
def canStart (period now : Nat) : Bool := now + period < clockLimit

def start (period now : Nat) (lateness : Lateness) : Ticker := ⟨period, now + period, lateness⟩

def isDue (t : Ticker) (now : Nat) : Bool := t.due ≤ now

def serve (t : Ticker) (now : Nat) : Ticker :=
  { t with due :=
      if now ≤ t.due + tolerance then t.due + t.period
      else match t.lateness with
        | .delay => now + t.period
        | .skip => now + t.period - (now - t.due) % t.period }

variable {t : Ticker} {now : Nat}

theorem due_serve_of_skip (skip : t.lateness = .skip) (positive : 0 < t.period)
    (due : t.due ≤ now) : ∃ k, 0 < k ∧ (t.serve now).due = t.due + k * t.period ∧
      (t.due + tolerance < now → now < (t.serve now).due ∧
        (t.serve now).due ≤ now + t.period) := by
  by_cases late : now ≤ t.due + tolerance
  · refine ⟨1, Nat.one_pos, ?_, fun after => absurd late (Nat.not_le_of_lt after)⟩
    simp [serve, late]
  · have next : (t.serve now).due = now + t.period - (now - t.due) % t.period := by
      simp [serve, late, skip]
    have passed := Nat.div_add_mod (now - t.due) t.period
    have part := Nat.mod_lt (now - t.due) positive
    refine ⟨(now - t.due) / t.period + 1, Nat.succ_pos _, ?_, fun _ => ?_⟩
    · rw [next, Nat.succ_mul, Nat.mul_comm]
      omega
    · omega

end Ticker

end HostMonitor
