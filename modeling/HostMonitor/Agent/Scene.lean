import HostMonitor.Agent
import HostMonitor.Iteration

namespace HostMonitor.Agent

structure Surroundings (σ : Type) : Type where
  call : σ → Moment → Caller → Service.Call → σ
  reply? : σ → Moment → Option (Caller × Bool × σ)
  replyDue? : σ → Option Nat
  describe : σ → Option Host.Spec × σ
  collect : σ → List Metric.Finding × σ
  beginCheck : σ → Moment → Nat → σ
  result? : σ → Moment → Nat → Option (Option Check.Report)
  resultDue? : σ → Nat → Option Nat
  ended : σ → Moment → Agent → σ

structure Scene (σ : Type) : Type where
  now : Moment
  agent : Agent
  around : σ

def isOver (a : Agent) : Bool :=
  match a.phase with
  | .finished _ | .overflown => true
  | _ => false

def replyTo (accepted : Bool) : Caller → Event
  | .refresher => .refresh (.reply accepted)
  | .scheduler => .pipeline (.schedule (.reply accepted))
  | .checks => .watch (.aggregator (.reply accepted))
  | .agent => .reply accepted

def dues (a : Agent) : List (Option Nat) := [
  match a.phase with
    | .staggering t => some t
    | _ => none,
  match a.pipeline.scheduler.phase with
    | .waiting _ t => some t
    | _ => none,
  match a.refresher.phase with
    | .resting t => some t
    | _ => none,
  match a.pipeline.producer.phase with
    | .waiting => some a.pipeline.producer.ticker.due
    | _ => none,
  match a.checks with
    | .absent _ => none
    | .present w => w.aggregator.due?]

namespace Scene

variable {σ : Type} (s : Surroundings σ)

def observe (w : Scene σ) : Effect → Scene σ
  | .collects => w
  | .calls caller c => { w with around := s.call w.around w.now caller c }

def step? (w : Scene σ) (e : Event) : Option (Scene σ) := do
  let (a, effects) ← w.agent.step w.now e
  let after := effects.foldl (observe s) { w with agent := a }
  return if a.isOver && !w.agent.isOver then
    { after with around := s.ended after.around w.now a }
  else after

def firstStep? (w : Scene σ) : List Event → Option (Scene σ)
  | [] => none
  | e :: es => w.step? s e <|> w.firstStep? es

def reply? (w : Scene σ) : Option (Scene σ) := do
  let (caller, accepted, around) ← s.reply? w.around w.now
  { w with around := around }.step? s (replyTo accepted caller)

def schedule? (w : Scene σ) : Option (Scene σ) := do
  let e ← w.agent.pipeline.scheduler.next? w.now
  w.step? s (.pipeline (.schedule e))

def describe? (w : Scene σ) : Option (Scene σ) :=
  match w.agent.refresher.phase with
  | .collecting =>
    let (spec, around) := s.describe w.around
    { w with around := around }.step? s (.refresh (.collected spec))
  | _ => w.step? s (.refresh .elapse)

def collect? (w : Scene σ) : Option (Scene σ) :=
  match w.agent.pipeline.producer.phase with
  | .collecting =>
    let (findings, around) := s.collect w.around
    { w with around := around }.step? s (.pipeline (.collected findings))
  | _ => none

def moveRunner? (w : Scene σ) (i : Nat) (r : Check.Runner) : Option (Scene σ) :=
  match r.phase with
  | .waiting => do
    let w ← w.step? s (.watch (.runner i .tick))
    return { w with around := s.beginCheck w.around w.now i }
  | .checking => do
    let report ← s.result? w.around w.now i
    w.step? s (.watch (.runner i (.result report)))
  | .forwarding .. => w.step? s (.watch (.forward i))
  | .escalating => w.step? s (.watch (.escalate i))
  | .stopped => none

def firstRunner? (w : Scene σ) : Nat → List Check.Runner → Option (Scene σ)
  | _, [] => none
  | i, r :: rs => w.moveRunner? s i r <|> w.firstRunner? (i + 1) rs

def runners (w : Scene σ) : List Check.Runner :=
  match w.agent.checks with
  | .absent _ => []
  | .present watch => watch.runners

def check? (w : Scene σ) : Option (Scene σ) :=
  w.firstStep? s [.watch (.aggregator .drain), .watch (.aggregator .giveBack),
    .watch (.aggregator .elapse)] <|>
  w.firstRunner? s 0 w.runners <|> w.step? s (.watch (.aggregator .wake))

def quitRunners (w : Scene σ) : List Event :=
  (List.range w.runners.length).map fun i => .watch (.runner i .quit)

/-- The next step at this time. A signal reaches the other listeners before the scheduler, which
goes on as far as it can before it looks for one. -/
def move? (w : Scene σ) : Option (Scene σ) :=
  w.reply? s <|>
  w.firstStep? s [.relay, .receive .refresher, .receive .ingestor, .receive .checks] <|>
  w.schedule? s <|> w.firstStep? s [.receive .scheduler, .begin, .conclude] <|>
  w.describe? s <|> w.collect? s <|>
  w.firstStep? s [.pipeline .tick, .pipeline .handOver, .pipeline .receive, .pipeline .enter,
    .pipeline .bounce, .pipeline .giveUp] <|>
  w.check? s <|>
  w.firstStep? s ([.closeFanout, .pipeline .quit, .pipeline .runDry] ++ w.quitRunners ++ [.join])

def runnerDue? (w : Scene σ) (i : Nat) (r : Check.Runner) : Option Nat :=
  match r.phase with
  | .waiting => some r.ticker.due
  | .checking => s.resultDue? w.around i
  | _ => none

def due? (w : Scene σ) : Option Nat :=
  if w.agent.isOver then none
  else
    let tasks := if w.agent.isRunning then
        w.agent.dues ++ w.runners.mapIdx (w.runnerDue? s)
      else []
    tasks.foldl earlier (s.replyDue? w.around)

def settle : Scene σ → Scene σ := exhaust (move? s) 100000

def accept (w : Scene σ) (e : Event) : Scene σ := (w.step? s e).getD w

end Scene

end HostMonitor.Agent
