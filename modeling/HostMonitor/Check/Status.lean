import HostMonitor.Text.Uppercase

namespace HostMonitor.Check

/-- `undefined` is never reported: a checker remembers it before its first result. -/
inductive Status : Type
  | ok
  | warning
  | critical
  | unknown
  | undefined
  deriving DecidableEq, Inhabited

namespace Status

def all : List Status := [.ok, .warning, .critical, .unknown, .undefined]

def name : Status → String
  | .ok => "OK"
  | .warning => "WARNING"
  | .critical => "CRITICAL"
  | .unknown => "UNKNOWN"
  | .undefined => "UNDEFINED"

def ofName? (s : String) : Option Status := all.find? fun x => Text.uppercaseIs s x.name

def ofExactName? (s : String) : Option Status := all.find? fun x => x.name = s

def ofExitCode : Option Int → Status
  | some 0 => .ok
  | some 1 => .warning
  | some 2 => .critical
  | _ => .unknown

theorem ofExactName?_name (s : Status) : ofExactName? s.name = some s := by cases s <;> decide

end Status

def unknownStatusMessage (s : String) : String := "unknown check status: " ++ s

end HostMonitor.Check
