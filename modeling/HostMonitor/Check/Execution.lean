import HostMonitor.Check.Command
import HostMonitor.Shell.Run

namespace HostMonitor.Check.Command

/-- A command that would end just when its time is over is overdue. -/
def completion (timeout : Span) (o : Shell.Outcome) : Completion :=
  if timeout.millis ≤ o.time then .overdue
  else
    match o.ending with
    | .running => .overdue
    | .exited code => .ended (some code) o.output o.errors
    | .killed => .ended none o.output o.errors

def execute? (c : Command) : Option (Completion × Nat) :=
  if c.isRunnable then
    let o := Shell.execute c.text
    match completion c.timeout o with
    | .overdue => some (.overdue, c.timeout.millis)
    | ended => some (ended, o.time)
  else none

def run (c : Command) (now : Instant) : Except String Report :=
  match c.execute? with
  | some (completion, _) => .ok (c.report now completion)
  | none => .error c.failure

end HostMonitor.Check.Command
