import HostMonitor.Check.Report
import HostMonitor.Time.Moment

namespace HostMonitor.Check

/-- What the aggregator is about to do; `last` when it stops afterwards. -/
inductive Aggregator.Phase : Type
  | waiting (deadline : Nat)
  | draining (got : List Report) (last : Bool)
  | delivering (reports : List Report) (last : Bool)
  | returning (rest : List Report) (last : Bool)
  | stopped
  deriving DecidableEq

structure Aggregator : Type where
  ceiling : Nat
  intake : List Report
  urgent : Bool
  phase : Aggregator.Phase

inductive Aggregator.Event : Type
  | forward (r : Report)
  | escalate
  | elapse
  | wake
  | signal
  | drain
  | reply (accepted : Bool)
  | giveBack

inductive Aggregator.Effect : Type
  | accepted (r : Report)
  | refused (r : Report)
  | delivers (reports : List Report)
  | delivered (reports : List Report)
  | failed (reports : List Report)

namespace Aggregator

def start (ceiling now : Nat) : Aggregator := ⟨ceiling, [], false, .waiting (now + ceiling)⟩

def isStopped (a : Aggregator) : Bool :=
  match a.phase with
  | .stopped => true
  | _ => false

def resume (a : Aggregator) (now : Nat) (last : Bool) : Aggregator :=
  { a with phase := if last then .stopped else .waiting (now + a.ceiling) }

def stepSelf (a : Aggregator) (now : Nat) : Phase → Event → Option (Aggregator × List Effect)
  | .waiting t, .elapse =>
    if t ≤ now then some ({ a with phase := .draining [] false }, []) else none
  | .waiting _, .wake =>
    if a.urgent then some ({ a with urgent := false, phase := .draining [] false }, []) else none
  | .waiting _, .signal => some ({ a with phase := .draining [] true }, [])
  | .draining got last, .drain =>
    match a.intake with
    | r :: rs => some ({ a with intake := rs, phase := .draining (got ++ [r]) last }, [])
    | [] =>
      if got.isEmpty then some (a.resume now last, [])
      else some ({ a with phase := .delivering got last }, [.delivers got])
  | .delivering rs last, .reply true => some (a.resume now last, [.delivered rs])
  | .delivering rs last, .reply false => some ({ a with phase := .returning rs last }, [.failed rs])
  | .returning (r :: rs) last, .giveBack =>
    some ({ a with intake := a.intake ++ [r], phase := .returning rs last }, [])
  | .returning [] last, .giveBack => some (a.resume now last, [])
  | _, _ => none

def step (now : Moment) (a : Aggregator) (e : Event) : Option (Aggregator × List Effect) :=
  match e with
  | .forward r =>
    if a.isStopped then some (a, [.refused r])
    else some ({ a with intake := a.intake ++ [r] }, [.accepted r])
  | .escalate => some ({ a with urgent := true }, [])
  | _ => a.stepSelf now.uptime a.phase e

def next? (now : Nat) (a : Aggregator) : Option Event :=
  match a.phase with
  | .waiting t => if a.urgent then some .wake else if t ≤ now then some .elapse else none
  | .draining .. => some .drain
  | .returning .. => some .giveBack
  | _ => none

def due? (a : Aggregator) : Option Nat :=
  match a.phase with
  | .waiting t => some t
  | _ => none

end Aggregator

end HostMonitor.Check
