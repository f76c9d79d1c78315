import HostMonitor.Host.Record
import HostMonitor.Time.Moment

namespace HostMonitor.Host

inductive Refresher.Phase : Type
  | collecting
  | updating
  | resting (deadline : Nat)
  | stopped
  deriving DecidableEq

structure Refresher : Type where
  interval : Nat
  phase : Refresher.Phase

inductive Refresher.Event : Type
  | collected (spec : Option Spec)
  | reply (accepted : Bool)
  | elapse
  | signal

inductive Refresher.Effect : Type
  | updates (spec : Spec)

namespace Refresher

def start (interval : Nat) : Refresher := ⟨interval, .collecting⟩

def step (now : Nat) (r : Refresher) (e : Event) : Option (Refresher × List Effect) :=
  match r.phase, e with
  | .collecting, .collected none => some ({ r with phase := .resting (now + r.interval) }, [])
  | .collecting, .collected (some spec) => some ({ r with phase := .updating }, [.updates spec])
  | .updating, .reply _ => some ({ r with phase := .resting (now + r.interval) }, [])
  | .resting t, .elapse => if t ≤ now then some ({ r with phase := .collecting }, []) else none
  | .resting _, .signal => some ({ r with phase := .stopped }, [])
  | _, _ => none

end Refresher

end HostMonitor.Host
