import HostMonitor.Posting.Offset

namespace HostMonitor.Posting

inductive Mode : Type
  | first
  | regular
  | backlog
  | failed
  | draining
  deriving DecidableEq, Inhabited

structure Settings : Type where
  backlogDelay : Span
  retryDelay : Span
  retryLimit : UInt32
  interval : Span

def drainingDelay : Span := .ofSeconds 1

/-- The delay of a cycle that begins at the second `now` of a host that posts at `offset`. -/
def Settings.delay (s : Settings) (offset : Span) (now : Int) : Mode → Span
  | .first => .zero
  | .regular => untilOffset offset s.interval now
  | .backlog => s.backlogDelay
  | .failed => s.retryDelay
  | .draining => drainingDelay

namespace Mode

def afterTaking (m : Mode) (more : Bool) : Mode :=
  if m = .draining then m else if more then .backlog else .regular

def afterFailure (m : Mode) : Mode := if m = .draining then m else .failed

def signalled? (m : Mode) : Option Mode := if m = .draining then none else some .draining

end Mode

end HostMonitor.Posting
