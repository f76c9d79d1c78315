import HostMonitor.Check.Report

namespace HostMonitor.Check

structure Decision : Type where
  forward : Bool
  urgent : Bool
  deriving DecidableEq, Inhabited

structure Memory : Type where
  status : Status
  message : String
  deriving DecidableEq, Inhabited

namespace Memory

def blank : Memory := ⟨.undefined, ""⟩

def decide (m : Memory) (r : Report) : Decision :=
  if r.status = .ok ∧ r.status = m.status ∧ r.message = m.message then ⟨false, false⟩
  else ⟨true, r.status ≠ m.status && !(m.status = .undefined && r.status = .ok)⟩

def observe (m : Memory) (r : Report) : Decision × Memory :=
  (m.decide r, if (m.decide r).forward then ⟨r.status, r.message⟩ else m)

end Memory

end HostMonitor.Check
