import HostMonitor.Agent.Scene
import HostMonitor.Rehearsal.Checking
import HostMonitor.Rehearsal.Producing
import HostMonitor.Rehearsal.Refreshing

namespace HostMonitor.Rehearsal

open Agent (Caller Scene Surroundings)

structure Cast : Type where
  source : Source
  collectors : List Collector
  checkers : List Checker
  script : Script
  inFlight : List (Caller × Nat × Bool)
  log : List Entry

inductive AgentEvent : Type
  | terminate
  | closeTermination

namespace Cast

def start (source : Source) (collectors : List Collector) (checkers : List Checker)
    (script : Script) : Cast := ⟨source, collectors, checkers, script, [], []⟩

def note (c : Cast) (now : Moment) (what : Happening) : Cast :=
  { c with log := ⟨now.uptime, what⟩ :: c.log }

def call (c : Cast) (now : Moment) (caller : Caller) (call : Service.Call) : Cast :=
  let (r, script) := c.script.respond call
  { c.note now (.call call r.verdict) with
    script := script
    inFlight := c.inFlight ++ [(caller, now.uptime + r.delay, decide (r.verdict = .ok))] }

def reply? (c : Cast) (now : Moment) : Option (Caller × Bool × Cast) := do
  let (caller, _, accepted) ← c.inFlight.find? fun (_, t, _) => t ≤ now.uptime
  return (caller, accepted, { c with inFlight := c.inFlight.filter fun (d, _) => d ≠ caller })

def describe (c : Cast) : Option Host.Spec × Cast :=
  let (spec, source) := RefreshWorld.nextSpec c.source
  (spec, { c with source := source })

def collect (c : Cast) : List Metric.Finding × Cast :=
  let runs := c.collectors.map Collector.run
  (runs.map Prod.fst, { c with collectors := runs.map Prod.snd })

def result? (c : Cast) (now : Moment) (i : Nat) : Option (Option Check.Report) := do
  let checker ← c.checkers[i]?
  let (t, result) ← checker.inFlight
  if t ≤ now.uptime then some (checker.report now.wall result) else none

def ending (a : Agent) : Ending :=
  match a.phase with
  | .finished (.error e) => .failed e
  | .overflown => .overflow Metric.Batch.overflowMessage
  | _ => .well

def surroundings : Surroundings Cast where
  call := call
  reply? := reply?
  replyDue? c := (c.inFlight.map fun (_, t, _) => some t).foldl earlier none
  describe := describe
  collect := collect
  beginCheck c now i := { c with checkers := c.checkers.modify i (·.begin now.uptime) }
  result? := result?
  resultDue? c i := do Prod.fst <$> (← c.checkers[i]?).inFlight
  ended c now a := c.note now (.finished "agent" (ending a))

end Cast

def agentPlay {σ : Type} (s : Surroundings σ) (base : Int) : Play (Scene σ) AgentEvent where
  now w := w.now.uptime
  setTime t w := { w with now := (Clock.mk base t).moment }
  move? := Scene.move? s
  due? := Scene.due? s
  act e w := w.accept s (match e with
    | .terminate => .terminate
    | .closeTermination => .hangUp)

/-- Calls of one time stand in the order of their names, and the ending of the agent last. -/
def comesBefore (a b : Entry) : Bool :=
  let key (e : Entry) : String :=
    match e.what with
    | .call c _ => callName c
    | _ => ""
  a.time < b.time || (a.time == b.time && (a.what.rank < b.what.rank ||
    (a.what.rank == b.what.rank && nameLE (key a) (key b))))

def runAgent {σ : Type} (s : Surroundings σ) (base : Int) (start limit : Nat)
    (events : List (Nat × AgentEvent)) (a : Agent) (around : σ) : Scene σ :=
  (agentPlay s base).run (start + limit) (events.map fun (t, e) => (start + t, e))
    ⟨(Clock.mk base start).moment, a, around⟩

def logAgent (base : Int) (start limit : Nat) (events : List (Nat × AgentEvent)) (a : Agent)
    (cast : Cast) : List Entry :=
  (runAgent Cast.surroundings base start limit events a cast).around.log.reverse.mergeSort
    comesBefore

/-- The log of an agent with this configuration, which is empty if the agent cannot start. -/
def logConfigured (base : Int) (start limit : Nat) (events : List (Nat × AgentEvent)) (c : Config)
    (host : Host.Record) (hosts : Posting.CustomHosts) (checkIntervals : List Nat) (cast : Cast) :
    List Entry :=
  match Agent.start? start c host hosts checkIntervals with
  | none => []
  | some a => logAgent base start limit events a cast

def identifiers (cs : List Collector) : List String := cs.filterMap Collector.customIdentifier

end HostMonitor.Rehearsal
