import HostMonitor.Agent.Scene
import HostMonitor.Check.Execution
import HostMonitor.Metric.Builtin

namespace HostMonitor

def CheckConfig.toCommand (c : CheckConfig) (name : String) : Check.Command :=
  ⟨name, c.command, .ofSeconds c.intervalSeconds, .ofSeconds c.timeoutSeconds⟩

def Config.spec (c : Config) (m : Host.Machine) : Except (List String) Host.Spec :=
  m.spec c.roles c.displayName c.checkNames

namespace Agent

structure Carrier (κ : Type) : Type where
  call : κ → Caller → Service.Call → κ
  reply? : κ → Option (Caller × Bool × κ)

structure Local (κ : Type) : Type where
  config : Config
  machine : Host.Machine
  collectors : List Metric.Builtin
  checks : List Check.Command
  runs : List (Nat × Nat × Option Check.Completion)
  carrier : κ

namespace Local

variable {κ : Type}

def start (c : Config) (m : Host.Machine) (carrier : κ) : Local κ where
  config := c
  machine := m
  collectors := Metric.Builtin.all c.isIgnored
  checks := c.checks.map fun (name, check) => check.toCommand name
  runs := []
  carrier := carrier

def collect (l : Local κ) : List Metric.Finding × Local κ :=
  let runs := l.collectors.map (·.collect l.machine)
  (runs.map fun (values, _) => ⟨none, some values⟩, { l with collectors := runs.map Prod.snd })

def beginCheck (l : Local κ) (now : Moment) (i : Nat) : Local κ :=
  let run : Nat × Option Check.Completion :=
    match l.checks[i]? >>= Check.Command.execute? with
    | some (completion, time) => (now.uptime + time, some completion)
    | none => (now.uptime, none)
  { l with runs := (i, run) :: l.runs.filter fun (j, _) => j ≠ i }

def result? (l : Local κ) (now : Moment) (i : Nat) : Option (Option Check.Report) := do
  let c ← l.checks[i]?
  let (t, completion) ← l.runs.lookup i
  if t ≤ now.uptime then some (completion.map (c.report now.wall)) else none

def surroundings (k : Carrier κ) : Surroundings (Local κ) where
  call l _ caller c := { l with carrier := k.call l.carrier caller c }
  reply? l _ := (k.reply? l.carrier).map fun (caller, accepted, carrier) =>
    (caller, accepted, { l with carrier := carrier })
  replyDue? _ := none
  describe l := ((l.config.spec l.machine).toOption, l)
  collect := collect
  beginCheck := beginCheck
  result? := result?
  resultDue? l i := Prod.fst <$> l.runs.lookup i
  ended l _ _ := l

def agent (l : Local κ) (now : Nat) (host : Host.Record) (queue : Posting.Queue) : Agent :=
  .start now l.config host ∅ (l.checks.map fun c => c.interval.millis) queue

end Local

end Agent

end HostMonitor
