import HostMonitor.Metric.Producer
import HostMonitor.Posting.Ingest
import HostMonitor.Posting.Scheduler

namespace HostMonitor.Posting

open HostMonitor.Metric (Producer Snapshot)

structure Pipeline : Type where
  producer : Producer
  handed : Option Snapshot
  ingestor : Ingestor
  scheduler : Scheduler

inductive Pipeline.Event : Type
  | tick
  | collected (findings : List Metric.Finding)
  | quit
  | handOver
  | giveUp
  | receive
  | runDry
  | signal
  | enter
  | bounce
  | schedule (e : Scheduler.Event)

inductive Pipeline.Effect : Type
  | collects
  | posts (cycle : List Metric.Batch)

namespace Pipeline

def start (producer : Producer) (ingestor : Ingestor) (scheduler : Scheduler) : Pipeline :=
  ⟨producer, none, ingestor, scheduler⟩

def heard? : Scheduler.Effect → Option Ingestor.Event
  | .accepted _ => some .accepted
  | .refused _ => some .refused
  | _ => none

def shown? : Scheduler.Effect → Option Effect
  | .posts cycle => some (.posts cycle)
  | _ => none

def tell (i : Ingestor) (e : Ingestor.Event) : Option Ingestor := (i.step e).map Prod.fst

def stepQueue (now : Moment) (p : Pipeline) (e : Scheduler.Event) : Option Pipeline := do
  let (s, effects) ← p.scheduler.step now e
  let i ← (effects.filterMap heard?).foldlM tell p.ingestor
  return { p with scheduler := s, ingestor := i }

def stepIngestor (now : Moment) (p : Pipeline) (e : Ingestor.Event) : Option Pipeline := do
  let (i, effects) ← p.ingestor.step e
  let p := { p with ingestor := i }
  match effects with
  | .sends b :: _ => p.stepQueue now (.offer b)
  | .calledOff _ :: _ =>
    let (s, _) ← p.scheduler.step now (.withdraw 0)
    return { p with scheduler := s }
  | [] => return p

def stepProducer (now : Moment) (p : Pipeline) (e : Producer.Event) :
    Option (Pipeline × List Effect) := do
  let (producer, effects) ← p.producer.step now e
  return ({ p with producer := producer }, effects.filterMap fun
    | .collects => some .collects
    | _ => none)

def handOver? (now : Moment) (p : Pipeline) : Option (Pipeline × List Effect) :=
  match p.producer.phase, p.handed with
  | .sending s, none => { p with handed := some s }.stepProducer now .taken
  | _, _ => none

def quiet (p : Option Pipeline) : Option (Pipeline × List Effect) := p.map (·, [])

def step (now : Moment) (p : Pipeline) : Event → Option (Pipeline × List Effect)
  | .tick => p.stepProducer now .tick
  | .collected findings => p.stepProducer now (.collected findings)
  | .quit => p.stepProducer now .quit
  | .handOver => if p.ingestor.phase = .stopped then none else p.handOver? now
  | .giveUp => if p.ingestor.phase = .stopped then p.stepProducer now .consumerGone else none
  | .receive => do
    let s ← p.handed
    quiet ({ p with handed := none }.stepIngestor now (.snapshot s))
  | .runDry =>
    match p.producer.phase, p.handed with
    | .stopped, none => quiet (p.stepIngestor now .producerGone)
    | _, _ => none
  | .signal => quiet (p.stepIngestor now .signal)
  | .enter => quiet (p.stepQueue now (.enter 0))
  | .bounce => if p.scheduler.ended then quiet (p.stepQueue now (.withdraw 0)) else none
  | .schedule (.offer _) => none
  | .schedule (.enter _) => none
  | .schedule (.withdraw _) => none
  | .schedule e => do
    let (s, effects) ← p.scheduler.step now e
    return ({ p with scheduler := s }, effects.filterMap shown?)

end Pipeline

end HostMonitor.Posting
