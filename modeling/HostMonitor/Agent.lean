import HostMonitor.Check.Runner
import HostMonitor.Config
import HostMonitor.Host.Refresher
import HostMonitor.Posting.Pipeline
import HostMonitor.Service.Call
import HostMonitor.Shutdown.Fanout
import HostMonitor.Shutdown.Signals

/-!
The agent: a registered host and the tasks that report for it. They run side by side; each step
belongs to one of them. The agent waits for a part of the posting interval, lets the scheduler run
until it has drained, tells the other tasks to quit, waits for them, and at last sets the status of
the host. A forced termination ends all tasks where they are.
-/

namespace HostMonitor

open Shutdown (Fanout Quit Signals)

inductive Agent.Checks : Type
  | absent (listening : Bool)
  | present (w : Check.Watch)

inductive Agent.Listener : Type
  | refresher
  | ingestor
  | checks
  | scheduler
  deriving DecidableEq

inductive Agent.Caller : Type
  | refresher
  | scheduler
  | checks
  | agent
  deriving DecidableEq

inductive Agent.Phase : Type
  | staggering (deadline : Nat)
  | posting
  | joining
  | parting
  | finished (result : Except Failure Unit)
  | overflown

structure Agent : Type where
  hostId : String
  onStop : Option String
  external : Signals
  fanout : Fanout
  quit : Quit
  refresher : Host.Refresher
  pipeline : Posting.Pipeline
  checks : Agent.Checks
  phase : Agent.Phase

inductive Agent.Event : Type
  | terminate
  | hangUp
  | relay
  | closeFanout
  | refresh (e : Host.Refresher.Event)
  | pipeline (e : Posting.Pipeline.Event)
  | watch (e : Check.Watch.Event)
  | receive (listener : Agent.Listener)
  | begin
  | conclude
  | join
  | reply (accepted : Bool)

inductive Agent.Effect : Type
  | calls (caller : Agent.Caller) (c : Service.Call)
  | collects

namespace Agent

open Posting (Pipeline Scheduler)

def Listener.place : Listener → Nat
  | .refresher => 0
  | .ingestor => 1
  | .checks => 2
  | .scheduler => 3

def listeners : List Listener := [.refresher, .ingestor, .checks, .scheduler]

def Checks.isStopped : Checks → Bool
  | .absent listening => !listening
  | .present w => w.aggregator.isStopped && w.runners.all fun r => r.phase = .stopped

def signalRoom : Nat := 4

def newFanout : Fanout := listeners.foldl (fun f _ => f.register.1) .start

def Checks.start (now : Nat) (ceiling : Nat) : List Nat → Checks
  | [] => .absent true
  | intervals => .present ⟨intervals.map (.spawn · now), .start ceiling now⟩

def millis (seconds : UInt64) : Nat := (Span.ofSeconds seconds).millis

def start (now : Nat) (c : Config) (host : Host.Record) (customHosts : Posting.CustomHosts)
    (checkIntervals : List Nat) (queue : Posting.Queue) : Agent :=
  let settings := c.settings
  let offset := Posting.offset host.id settings.interval
  { hostId := host.id
    onStop := c.onStop
    external := .start signalRoom
    fanout := newFanout
    quit := .start
    refresher := .start (millis c.specInterval)
    pipeline := .start (.spawn (millis c.metricsInterval) now) (.start host.id customHosts)
      (.start settings offset queue)
    checks := .start now (millis c.reportInterval) checkIntervals
    phase := .staggering (now + offset.half.millis) }

/-- Without a queue the agent ends at once, by a panic. -/
def start? (now : Nat) (c : Config) (host : Host.Record) (customHosts : Posting.CustomHosts)
    (checkIntervals : List Nat) : Option Agent :=
  c.queue?.map (start now c host customHosts checkIntervals)

def isRunning (a : Agent) : Bool :=
  match a.phase with
  | .staggering _ | .posting | .joining => true
  | _ => false

def isPosting (a : Agent) : Bool :=
  match a.phase with
  | .posting => true
  | _ => false

def isQuiet (a : Agent) : Bool :=
  a.refresher.phase = .stopped &&
  (match a.pipeline.producer.phase with
    | .stopped => true
    | _ => false) &&
  a.pipeline.ingestor.phase = .stopped && a.checks.isStopped && !a.fanout.live

def shownPipeline : Pipeline.Effect → Effect
  | .collects => .collects
  | .posts cycle => .calls .scheduler (.postMetrics (Scheduler.samplesOf cycle))

def shownRefresher (a : Agent) : Host.Refresher.Effect → Effect
  | .updates spec => .calls .refresher (.updateHost a.hostId spec)

def shownChecks? (a : Agent) : Check.Aggregator.Effect → Option Effect
  | .delivers reports => some (.calls .checks (.reportChecks a.hostId reports))
  | _ => none

def stepRefresher (now : Moment) (a : Agent) (e : Host.Refresher.Event) :
    Option (Agent × List Effect) := do
  let (r, effects) ← a.refresher.step now.uptime e
  return ({ a with refresher := r }, effects.map a.shownRefresher)

def stepPipeline (now : Moment) (a : Agent) (e : Pipeline.Event) :
    Option (Agent × List Effect) := do
  let (p, effects) ← a.pipeline.step now e
  return ({ a with pipeline := p }, effects.map shownPipeline)

def stepWatch (now : Moment) (a : Agent) (e : Check.Watch.Event) :
    Option (Agent × List Effect) :=
  match a.checks with
  | .absent _ => none
  | .present w => do
    let (w, effects) ← w.step now e
    return ({ a with checks := .present w }, effects.filterMap a.shownChecks?)

def stopChecks (now : Moment) (a : Agent) (r : Shutdown.Reception) :
    Option (Agent × List Effect) :=
  match a.checks, r with
  | .absent true, .closed => some ({ a with checks := .absent false }, [])
  | .absent true, .signal => some (a, [])
  | .absent _, _ => none
  | .present _, _ => a.stepWatch now (.aggregator .signal)

def stopScheduler (now : Moment) (a : Agent) (r : Shutdown.Reception) :
    Option (Agent × List Effect) :=
  match a.phase, r with
  | .staggering _, .signal => some ({ a with phase := .joining, quit := a.quit.raise }, [])
  | .posting, .signal => a.stepPipeline now (.schedule .signal)
  | .posting, _ => a.stepPipeline now (.schedule .hangUp)
  | _, _ => none

def receive (now : Moment) (a : Agent) (l : Listener) : Option (Agent × List Effect) :=
  let (r, fanout) := a.fanout.receive l.place
  let a := { a with fanout := fanout }
  match r with
  | .empty => none
  | r =>
    match l with
    | .refresher => a.stepRefresher now .signal
    | .ingestor => a.stepPipeline now .signal
    | .checks => a.stopChecks now r
    | .scheduler => a.stopScheduler now r

def allows (a : Agent) : Pipeline.Event → Bool
  | .signal | .schedule .signal | .schedule .hangUp => false
  | .schedule _ => a.isPosting
  | .quit => a.quit.isOver
  | _ => true

def allowsWatch (a : Agent) : Check.Watch.Event → Bool
  | .aggregator .signal => false
  | .runner _ .quit => a.quit.isOver
  | _ => true

def stepTask (now : Moment) (a : Agent) : Event → Option (Agent × List Effect)
  | .relay =>
    if a.fanout.live && 0 < a.external.pending then
      some ({ a with external := a.external.receive, fanout := a.fanout.broadcast.1 }, [])
    else none
  | .closeFanout =>
    if a.fanout.live && a.quit.isOver then some ({ a with fanout := a.fanout.close }, []) else none
  | .refresh .signal => none
  | .refresh e => a.stepRefresher now e
  | .pipeline e => if a.allows e then a.stepPipeline now e else none
  | .watch e => if a.allowsWatch e then a.stepWatch now e else none
  | .receive l => a.receive now l
  | _ => none

/-- What the agent itself does. When it ends, in whichever way, its tasks are given up where they
are: an agent that is not running takes no step of theirs. -/
def stepSelf (now : Moment) (a : Agent) : Phase → Event → Option (Agent × List Effect)
  | .staggering deadline, .begin =>
    if deadline ≤ now.uptime then some ({ a with phase := .posting }, []) else none
  | .posting, .conclude =>
    match a.pipeline.scheduler.phase with
    | .stopped (.ok _) => some ({ a with phase := .joining, quit := a.quit.raise }, [])
    | .stopped (.error e) =>
      some ({ a with phase := .finished (.error e), quit := a.quit.raise }, [])
    | .overflown => some ({ a with phase := .overflown }, [])
    | _ => none
  | .joining, .join =>
    if a.isQuiet then
      match a.onStop with
      | none => some ({ a with phase := .finished (.ok ()) }, [])
      | some status =>
        some ({ a with phase := .parting }, [.calls .agent (.updateHostStatus a.hostId status)])
    else none
  | .parting, .reply _ => some ({ a with phase := .finished (.ok ()) }, [])
  | _, _ => none

def step (now : Moment) (a : Agent) (e : Event) : Option (Agent × List Effect) :=
  match e with
  | .terminate => some ({ a with external := a.external.send }, [])
  | .hangUp => some ({ a with external := a.external.close }, [])
  | .begin | .conclude | .join | .reply _ => a.stepSelf now a.phase e
  | _ => if a.isRunning then a.stepTask now e else none

end Agent

end HostMonitor
