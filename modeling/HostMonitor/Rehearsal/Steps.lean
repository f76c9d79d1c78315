import HostMonitor.Check.Aggregator
import HostMonitor.Metric.Producer
import HostMonitor.Posting.Scheduler
import HostMonitor.Rehearsal.Script
import HostMonitor.Shutdown.Fanout

namespace HostMonitor.Rehearsal

open HostMonitor.Metric (Batch)
open Posting (Queue Scheduler)

structure Ends : Type where
  sender : Bool
  queue : Option Queue

inductive Ends.Op : Type
  | send (b : Batch)
  | cancel (index : Nat)
  | giveBack (b : Batch)
  | dropSender
  | dropQueue
  | tryReceive
  | receive

inductive Result : Type
  | done
  | sent
  | blocked
  | closed
  | noSender
  | noQueue
  | cancelled
  | nothing
  | pending
  | batch (b : Option Batch)

def Ends.step (s : Ends) (op : Op) : Result × List Bool × Ends :=
  match s.queue, op with
  | none, .send _ => (if s.sender then .closed else .noSender, [], s)
  | none, .cancel _ => (.nothing, [], s)
  | some q, .cancel i =>
    match q.withdraw? i with
    | some (_, q) => settled .cancelled q
    | none => (.nothing, [], s)
  | some q, .send b =>
    if s.sender then
      let (q, accepted) := q.offer b
      settled (if accepted then .sent else .blocked) q
    else (.noSender, [], s)
  | _, .dropSender => (.done, [], { s with sender := false })
  | none, .dropQueue => (.done, [], s)
  | some q, .dropQueue => (.done, q.waiting.map fun _ => false, { s with queue := none })
  | none, _ => (.noQueue, [], s)
  | some q, .giveBack b => settled .done (q.giveBack b)
  | some q, .tryReceive =>
    match q.take? with
    | some (b, q) => settled (.batch (some b)) q
    | none => settled (.batch none) q
  | some q, .receive =>
    match q.take? with
    | some (b, q) => settled (.batch (some b)) q
    | none => settled .pending q
where
  settled (r : Result) (q : Queue) : Result × List Bool × Ends :=
    let (bs, q) := q.enterAll
    (r, bs.map fun _ => true, { s with queue := some q })

structure Desk : Type where
  scheduler : Scheduler
  script : Script
  posts : List (List Metric.Sample × Verdict)

inductive Desk.Op : Type
  | send (b : Batch)
  | giveBack (b : Batch)
  | tryReceive
  | postNext (most : Nat)
  | post (cycle : List Batch)
  | terminate
  | delay (now : Int64)

inductive Desk.Outcome : Type
  | plain (r : Result)
  | delivered (cycle : List Batch)
  | failed (gaveBack abandoned : Nat)
  | signalled (forced : Bool)
  | delay (d : Span)
  | overflow (message : String)

def takeUpTo : Nat → Queue → List Batch × Queue
  | 0, q => ([], q)
  | n + 1, q =>
    match q.take? with
    | some (b, q) =>
      let (bs, q) := takeUpTo n q
      (b :: bs, q)
    | none => ([], q)

def putBackAll (s : Scheduler) (back gone : Nat) : List Batch → Scheduler × Nat × Nat
  | [] => (s, back, gone)
  | b :: bs =>
    match s.putBack b bs with
    | (s, [.gaveBack _]) => putBackAll s (back + 1) gone bs
    | (s, [.abandoned _]) => putBackAll s back (gone + 1) bs
    | (s, _) => (s, back, gone)

namespace Desk

def post (d : Desk) (cycle : List Batch) : Outcome × Desk :=
  let samples := Scheduler.samplesOf cycle
  let (r, script) := d.script.respond (.postMetrics samples)
  let d := { d with script := script, posts := d.posts ++ [(samples, r.verdict)] }
  match r.reply with
  | .ok _ => (.delivered cycle, d)
  | .error _ =>
    let s := { d.scheduler with mode := d.scheduler.mode.afterFailure }
    let (s, back, gone) := putBackAll s 0 0 cycle
    (match s.phase with
      | .overflown => .overflow Batch.overflowMessage
      | _ => .failed back gone, { d with scheduler := s })

def perform (d : Desk) (op : Op) : Outcome × Desk :=
  let s := d.scheduler
  match op with
  | .send b =>
    let (q, accepted) := s.queue.offer b
    (.plain (if accepted then .sent else .blocked), { d with scheduler := { s with queue := q } })
  | .giveBack b => (.plain .done, { d with scheduler := { s with queue := s.queue.giveBack b } })
  | .tryReceive =>
    match s.queue.take? with
    | some (b, q) => (.plain (.batch (some b)), { d with scheduler := { s with queue := q } })
    | none => (.plain (.batch none), d)
  | .postNext n =>
    let (bs, q) := takeUpTo n s.queue
    { d with scheduler := { s with queue := q } }.post bs
  | .post bs => d.post bs
  | .terminate =>
    match s.mode.signalled? with
    | some m => (.signalled false, { d with scheduler := { s with mode := m } })
    | none => (.signalled true, d)
  | .delay now =>
    if s.mode = .regular && Posting.overflows s.settings.interval now then
      (.overflow Posting.overflowMessage, d)
    else (.delay (s.delay now.toInt), d)

def step (d : Desk) (op : Op) : Outcome × Nat × Desk :=
  let (r, d) := d.perform op
  let (bs, q) := d.scheduler.queue.enterAll
  (r, bs.length, { d with scheduler := { d.scheduler with queue := q } })

end Desk

structure Counter : Type where
  aggregator : Option Check.Aggregator
  held : List Check.Report
  script : Script
  calls : List (List Check.Report × Verdict)

inductive Counter.Op : Type
  | forward (r : Check.Report)
  | escalate
  | drain
  | deliver
  | drop

inductive Counter.Outcome : Type
  | done
  | flag (b : Bool)
  | reports (rs : List Check.Report)
  | noAggregator

namespace Counter

def step (c : Counter) (hostId : String) (op : Op) : Outcome × Counter :=
  match c.aggregator, op with
  | some a, .forward r =>
    (.flag true, { c with aggregator := some { a with intake := a.intake ++ [r] } })
  | none, .forward _ => (.flag false, c)
  | some a, .escalate => (.done, { c with aggregator := some { a with urgent := true } })
  | none, .escalate => (.done, c)
  | some a, .drain =>
    (.reports a.intake, { c with aggregator := some { a with intake := [] }, held := a.intake })
  | some a, .deliver =>
    if c.held.isEmpty then (.flag true, c)
    else
      let (r, script) := c.script.respond (.reportChecks hostId c.held)
      let calls := c.calls ++ [(c.held, r.verdict)]
      match r.reply with
      | .ok _ => (.flag true, ⟨some a, [], script, calls⟩)
      | .error _ =>
        (.flag false, ⟨some { a with intake := a.intake ++ c.held }, [], script, calls⟩)
  | none, .drain => (.noAggregator, c)
  | none, .deliver => (.noAggregator, c)
  | _, .drop => (.done, { c with aggregator := none })

end Counter

structure Switchboard : Type where
  fanout : Shutdown.Fanout
  receivers : List (String × Nat)
  quit : Shutdown.Quit

inductive Switchboard.Op : Type
  | register (name : String)
  | broadcast
  | receive (name : String)
  | leave (name : String)
  | dropFanout
  | raiseQuit
  | dropQuit
  | lookAtQuit

inductive Switchboard.Outcome : Type
  | word (s : String)
  | count (n : Nat)
  | flag (b : Bool)

def receptionWord : Shutdown.Reception → String
  | .signal => "signal"
  | .empty => "empty"
  | .closed => "closed"

namespace Switchboard

def start : Switchboard := ⟨.start, [], .start⟩

def forget (s : Switchboard) (name : String) : Switchboard :=
  match s.receivers.lookup name with
  | some i =>
    { s with
      fanout := s.fanout.leave i
      receivers := s.receivers.filter fun e => e.1 ≠ name }
  | none => s

def step (s : Switchboard) : Op → Outcome × Switchboard
  | .register name =>
    if s.fanout.live then
      let (fanout, i) := s.fanout.register
      let s := { s with fanout := fanout }.forget name
      (.word "ok", { s with receivers := (name, i) :: s.receivers })
    else (.word "no fanout", s)
  | .broadcast =>
    if s.fanout.live then
      let (fanout, n) := s.fanout.broadcast
      (.count n, { s with fanout := fanout })
    else (.word "no fanout", s)
  | .receive name =>
    match s.receivers.lookup name with
    | some i =>
      let (r, fanout) := s.fanout.receive i
      (.word (receptionWord r), { s with fanout := fanout })
    | none => (.word "no consumer", s)
  | .leave name => (.flag (s.receivers.lookup name).isSome, s.forget name)
  | .dropFanout => (.flag s.fanout.live, { s with fanout := s.fanout.close })
  | .raiseQuit =>
    let quit := s.quit.raise
    (.flag quit.raised, { s with quit := quit })
  | .dropQuit => (.flag s.quit.raised, { s with quit := s.quit.orphan })
  | .lookAtQuit => (.flag s.quit.raised, s)

end Switchboard

structure Collector : Type where
  name : String
  customIdentifier : Option String
  script : List (Line (Option (Table Binary64)))

def Collector.run (c : Collector) : Metric.Finding × Collector :=
  match nextLineOrLast? c.script with
  | some (l, ls) => (⟨c.customIdentifier, l.content⟩, { c with script := ls })
  | none => (⟨c.customIdentifier, some ∅⟩, c)

def collectRepeatedly (created : Instant) : Nat → List Collector → List Metric.Snapshot
  | 0, _ => []
  | n + 1, cs =>
    let runs := cs.map Collector.run
    .ofFindings created (runs.map Prod.fst) :: collectRepeatedly created n (runs.map Prod.snd)

end HostMonitor.Rehearsal
