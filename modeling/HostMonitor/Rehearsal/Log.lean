import HostMonitor.Failure
import HostMonitor.Rehearsal.Script

namespace HostMonitor.Rehearsal

inductive Ending : Type
  | well
  | failed (reason : Failure)
  | overflow (message : String)

inductive Happening : Type
  | check (name : String)
  | call (c : Service.Call) (verdict : Verdict)
  | load
  | save (id : String)
  | forwarded (name : String) (accepted : Bool)
  | sent (name : Option String) (accepted : Bool)
  | handedOver (id : Nat) (accepted : Bool)
  | event (name : String) (got : Option Metric.Batch) (length : Option Nat)
  | received (snapshots : List Metric.Snapshot)
  | heard (consumer result : String)
  | ranOut (name : String)
  | finished (task : String) (ending : Ending)

structure Entry : Type where
  time : Nat
  what : Happening

def Happening.rank : Happening → Nat
  | .check _ => 0
  | .call .. | .load | .save _ | .forwarded .. => 1
  | .sent .. | .handedOver .. => 2
  | .event .. | .received _ | .heard .. | .ranOut _ => 3
  | .finished .. => 4

def Happening.orderName : Happening → String
  | .check name => name
  | .finished task _ => task
  | _ => ""

def Entry.comesBefore (a b : Entry) : Bool :=
  a.time < b.time || (a.time == b.time && (a.what.rank < b.what.rank ||
    (a.what.rank == b.what.rank && nameLE a.what.orderName b.what.orderName)))

def callName : Service.Call → String
  | .createHost _ => "create_host"
  | .findHost _ => "find_host"
  | .findHostBy _ => "find_host_by_custom_identifier"
  | .updateHost .. => "update_host"
  | .updateHostStatus .. => "update_host_status"
  | .postMetrics _ => "post_metrics_values"
  | .reportChecks .. => "report_check_monitors"

def report (log : List Entry) : List Entry := log.mergeSort Entry.comesBefore

end HostMonitor.Rehearsal
