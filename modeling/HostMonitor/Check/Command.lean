import HostMonitor.Check.Message
import HostMonitor.Check.Report
import HostMonitor.Text.Quoted
import HostMonitor.Text.Utf8
import HostMonitor.Time.Span

namespace HostMonitor.Check

structure Command : Type where
  name : String
  text : String
  interval : Span
  timeout : Span

inductive Completion : Type
  | ended (code : Option Nat) (output errors : List UInt8)
  | overdue

namespace Command

def isRunnable (c : Command) : Bool := !(c.text.contains '\x00')

def failure (c : Command) : String := "failed to run check command " ++ Text.quoted c.text

def overdueMessage (c : Command) : String :=
  "command timed out after " ++ toString c.timeout.seconds.toNat ++ "s"

def report (c : Command) (now : Instant) : Completion → Report
  | .ended code output errors =>
    ⟨c.name, .ofExitCode (code.map Int.ofNat),
      message (Text.decodeLossy output ++ Text.decodeLossy errors), now⟩
  | .overdue => ⟨c.name, .unknown, c.overdueMessage, now⟩

end Command

end HostMonitor.Check
