import HostMonitor.Metric.Sample
import HostMonitor.Time.Moment
import HostMonitor.Time.Ticker

namespace HostMonitor.Metric

structure Finding : Type where
  customIdentifier : Option String
  values : Option (Table Binary64)

def Finding.set? (f : Finding) : Option ValueSet := f.values.map fun vs => ⟨f.customIdentifier, vs⟩

def Snapshot.ofFindings (created : Instant) (findings : List Finding) : Snapshot :=
  ⟨created, findings.filterMap Finding.set?⟩

inductive Producer.Phase : Type
  | waiting
  | collecting
  | sending (s : Snapshot)
  | stopped

structure Producer : Type where
  ticker : Ticker
  phase : Producer.Phase

inductive Producer.Event : Type
  | tick
  /-- The collectors were run. The moment of the event is that of their start, when the snapshot
    gets its date. -/
  | collected (findings : List Finding)
  | taken
  | consumerGone
  | quit

inductive Producer.Effect : Type
  | collects
  | sends (s : Snapshot)
  | dropped (s : Snapshot)

namespace Producer

def start (interval now : Nat) : Producer := ⟨.start interval now .skip, .waiting⟩

/-- A first tick beyond the end of the clock ends the task at once, by a panic. -/
def spawn (interval now : Nat) : Producer :=
  if Ticker.canStart interval now then start interval now
  else { start interval now with phase := .stopped }

def step (now : Moment) (p : Producer) (e : Event) : Option (Producer × List Effect) :=
  match p.phase, e with
  | .waiting, .tick =>
    if p.ticker.isDue now.uptime then
      some ({ ticker := p.ticker.serve now.uptime, phase := .collecting }, [.collects])
    else none
  | .waiting, .quit => some ({ p with phase := .stopped }, [])
  | .collecting, .collected fs =>
    let s := Snapshot.ofFindings now.wall fs
    some ({ p with phase := .sending s }, [.sends s])
  | .sending _, .taken => some ({ p with phase := .waiting }, [])
  | .sending s, .consumerGone => some ({ p with phase := .stopped }, [.dropped s])
  | .sending s, .quit => some ({ p with phase := .stopped }, [.dropped s])
  | _, _ => none

end Producer

end HostMonitor.Metric
