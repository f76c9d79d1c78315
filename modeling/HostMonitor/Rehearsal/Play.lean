import HostMonitor.Iteration
import HostMonitor.Rehearsal.Log
import HostMonitor.Time.Moment

/-!
Running a world in virtual time. Whatever can happen at a time happens before time goes on, and time
then goes on to the next event or to the next thing that is due of itself.
-/

namespace HostMonitor.Rehearsal

/-- A world `W` in which events `E` happen. -/
structure Play (W E : Type) : Type where
  now : W → Nat
  setTime : Nat → W → W
  move? : W → Option W
  due? : W → Option Nat
  act : E → W → W

namespace Play

variable {W E : Type}

def patience : Nat := 100000

def settle (p : Play W E) : W → W := exhaust p.move? patience

def rounds (p : Play W E) (limit : Nat) : Nat → List (Nat × E) → W → W
  | 0, _, w => w
  | n + 1, es, w =>
    let w := p.settle w
    let due := (p.due? w).filter (· ≤ limit)
    match es, due with
    | [], none => w
    | [], some d => rounds p limit n [] (p.setTime (max d (p.now w)) w)
    | (t, e) :: es, none => rounds p limit n es (p.act e (p.setTime (max t (p.now w)) w))
    | (t, e) :: es, some d =>
      if d < t then rounds p limit n ((t, e) :: es) (p.setTime (max d (p.now w)) w)
      else rounds p limit n es (p.act e (p.setTime (max t (p.now w)) w))

def run (p : Play W E) (limit : Nat) (events : List (Nat × E)) (w : W) : W :=
  p.rounds limit (limit + events.length + 1) (events.filter (·.1 ≤ limit)) w

end Play

structure Clock : Type where
  base : Int
  now : Nat

def Clock.moment (c : Clock) : Moment :=
  ⟨c.now, (Instant.ofMillis? (c.base + c.now)).getD .epoch⟩

end HostMonitor.Rehearsal
