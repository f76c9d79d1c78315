import HostMonitor.Check.Report
import HostMonitor.Host.Record
import HostMonitor.Metric.Sample
import HostMonitor.Service.Error

namespace HostMonitor.Service

inductive Call : Type
  | createHost (spec : Host.Spec)
  | findHost (id : String)
  | findHostBy (customIdentifier : String)
  | updateHost (id : String) (spec : Host.Spec)
  | updateHostStatus (id status : String)
  | postMetrics (samples : List Metric.Sample)
  | reportChecks (hostId : String) (reports : List Check.Report)

def Call.Answer : Call → Type
  | .createHost _ => String
  | .findHost _ => Host.Record
  | .findHostBy _ => Host.Record
  | .updateHost .. => Unit
  | .updateHostStatus .. => Unit
  | .postMetrics _ => Unit
  | .reportChecks .. => Unit

abbrev Call.Reply (c : Call) : Type := Except Error c.Answer

end HostMonitor.Service
