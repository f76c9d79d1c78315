import HostMonitor.Check.Aggregator
import HostMonitor.Check.Filter
import HostMonitor.Time.Ticker

namespace HostMonitor.Check

inductive Runner.Phase : Type
  | waiting
  | checking
  | forwarding (r : Report) (urgent : Bool)
  | escalating
  | stopped
  deriving DecidableEq

structure Runner : Type where
  ticker : Ticker
  memory : Memory
  phase : Runner.Phase

inductive Runner.Event : Type
  | tick
  | result (r : Option Report)
  | forwarded (accepted : Bool)
  | escalated
  | quit

namespace Runner

def start (interval now : Nat) : Runner := ⟨.start interval now .delay, .blank, .waiting⟩

/-- A first tick beyond the end of the clock ends the task at once, by a panic. -/
def spawn (interval now : Nat) : Runner :=
  if Ticker.canStart interval now then start interval now
  else { start interval now with phase := .stopped }

def step (now : Nat) (r : Runner) (e : Event) : Option Runner :=
  match r.phase, e with
  | .waiting, .tick =>
    if r.ticker.isDue now then some { r with ticker := r.ticker.serve now, phase := .checking }
    else none
  | .waiting, .quit => some { r with phase := .stopped }
  | .checking, .result none => some { r with phase := .waiting }
  | .checking, .result (some report) =>
    let (d, memory) := r.memory.observe report
    some { r with
      memory := memory
      phase := if d.forward then .forwarding report d.urgent else .waiting }
  | .checking, .quit => some { r with phase := .stopped }
  | .forwarding _ urgent, .forwarded accepted =>
    some { r with phase := if accepted then if urgent then .escalating else .waiting else .stopped }
  | .escalating, .escalated => some { r with phase := .waiting }
  | _, _ => none

end Runner

structure Watch : Type where
  runners : List Runner
  aggregator : Aggregator

inductive Watch.Event : Type
  | runner (i : Nat) (e : Runner.Event)
  | forward (i : Nat)
  | escalate (i : Nat)
  | aggregator (e : Aggregator.Event)

namespace Watch

def stepRunner (now : Moment) (w : Watch) (i : Nat) (e : Runner.Event) : Option Watch := do
  let r ← (← w.runners[i]?).step now.uptime e
  return { w with runners := w.runners.set i r }

def stepForward (now : Moment) (w : Watch) (i : Nat) :
    Option (Watch × List Aggregator.Effect) := do
  match (← w.runners[i]?).phase with
  | .forwarding report _ =>
    let (a, effects) ← w.aggregator.step now (.forward report)
    let w ← stepRunner now { w with aggregator := a } i (.forwarded !w.aggregator.isStopped)
    return (w, effects)
  | _ => none

def stepEscalate (now : Moment) (w : Watch) (i : Nat) :
    Option (Watch × List Aggregator.Effect) := do
  let (a, effects) ← w.aggregator.step now .escalate
  return (← stepRunner now { w with aggregator := a } i .escalated, effects)

def step (now : Moment) (w : Watch) : Event → Option (Watch × List Aggregator.Effect)
  | .runner _ (.forwarded _) => none
  | .runner _ .escalated => none
  | .runner i e => (w.stepRunner now i e).map (·, [])
  | .forward i => w.stepForward now i
  | .escalate i => w.stepEscalate now i
  | .aggregator (.forward _) => none
  | .aggregator .escalate => none
  | .aggregator e => do
    let (a, effects) ← w.aggregator.step now e
    return ({ w with aggregator := a }, effects)

end Watch

end HostMonitor.Check
