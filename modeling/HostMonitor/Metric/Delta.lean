import HostMonitor.Table

namespace HostMonitor.Metric

abbrev Counters : Type := Table Nat

/-- The increase of the counter `name` since it was last seen: nothing the first time, and nothing
when the counter fell. -/
def Counters.advance (last : Counters) (name : String) (current : Nat) : Nat × Counters :=
  (current - (last.get? name).getD current, last.insert name current)

def Counters.deltas (last : Counters) : List (String × Nat) → List Nat
  | [] => []
  | (name, current) :: rest =>
    let (d, last) := last.advance name current
    d :: last.deltas rest

end HostMonitor.Metric
