import HostMonitor.Failure
import HostMonitor.Posting.Mode
import HostMonitor.Posting.Queue
import HostMonitor.Time.Moment

/-!
The scheduler. It takes a batch from the queue, and a second one if there is one, waits as its mode
asks, and posts their samples together. The batches of a failed post go back to the queue, unless
they have failed too often. After a termination signal it goes on until the queue is empty.

Each step touches the queue once, so that sends may come between any two of them.
-/

namespace HostMonitor.Posting

open HostMonitor.Metric (Sample Batch)

inductive Phase : Type
  | idle
  | merging (first : Batch)
  | choosing (cycle : List Batch)
  | waiting (cycle : List Batch) (deadline : Nat)
  | posting (cycle : List Batch)
  | returning (rest : List Batch)
  | checking
  | stopped (result : Except Failure Unit)
  /-- The count of failures of a batch had no room for another one. -/
  | overflown

structure Scheduler : Type where
  settings : Settings
  offset : Span
  mode : Mode
  queue : Queue
  listening : Bool
  phase : Phase

inductive Scheduler.Event : Type
  | offer (b : Batch)
  | enter (index : Nat)
  | withdraw (index : Nat)
  | signal
  | hangUp
  | take
  | merge
  | choose
  | elapse
  | reply (accepted : Bool)
  | giveBack
  | check

inductive Scheduler.Effect : Type
  | accepted (b : Batch)
  | waits (b : Batch)
  | withdrew (b : Batch)
  | refused (b : Batch)
  | took (b : Batch)
  | rests (delay : Span)
  | posts (cycle : List Batch)
  | delivered (cycle : List Batch)
  | failed (cycle : List Batch)
  | gaveBack (b : Batch)
  | abandoned (b : Batch)

namespace Scheduler

open Event Effect

def samplesOf (cycle : List Batch) : List Sample := cycle.flatMap Batch.samples

def start (settings : Settings) (offset : Span) (queue : Queue) : Scheduler :=
  ⟨settings, offset, .first, queue, true, .idle⟩

def ended (s : Scheduler) : Bool :=
  match s.phase with
  | .stopped _ | .overflown => true
  | _ => false

def delay (s : Scheduler) (now : Int) : Span := s.settings.delay s.offset now s.mode

def putBack (s : Scheduler) (b : Batch) (rest : List Batch) : Scheduler × List Effect :=
  match b.fail? with
  | none => ({ s with phase := .overflown }, [])
  | some b =>
    if b.isExhausted s.settings.retryLimit then ({ s with phase := .returning rest }, [abandoned b])
    else ({ s with queue := s.queue.giveBack b, phase := .returning rest }, [gaveBack b])

def onSignal (s : Scheduler) (next : Phase) : Scheduler :=
  match s.mode.signalled? with
  | none => { s with phase := .stopped (.error .forcedTermination) }
  | some mode => { s with mode := mode, phase := next }

def stepSender (s : Scheduler) : Event → Option (Scheduler × List Effect)
  | .offer b =>
    if s.ended then some (s, [refused b])
    else
      let (queue, now) := s.queue.offer b
      some ({ s with queue := queue }, [if now then accepted b else waits b])
  | .enter i => do
    let (b, queue) ← s.queue.enter? i
    if s.ended then none else return ({ s with queue := queue }, [accepted b])
  | .withdraw i => do
    let (b, queue) ← s.queue.withdraw? i
    return ({ s with queue := queue }, [if s.ended then refused b else withdrew b])
  | _ => none

def stepSelf (s : Scheduler) (now : Moment) : Phase → Event → Option (Scheduler × List Effect)
  | .idle, .signal => if s.listening then some (s.onSignal .checking, []) else none
  | .idle, .hangUp => if s.listening then some ({ s with listening := false }, []) else none
  | .idle, .take => do
    let (b, queue) ← s.queue.take?
    return ({ s with queue := queue, phase := .merging b }, [took b])
  | .merging first, .merge =>
    match s.queue.take? with
    | some (b, queue) => some ({ s with queue := queue, phase := .choosing [first, b] }, [took b])
    | none => some ({ s with phase := .choosing [first] }, [])
  | .choosing cycle, .choose =>
    let delay := s.delay now.wall.seconds
    some ({ s with
      mode := s.mode.afterTaking (!s.queue.isEmpty)
      phase := .waiting cycle (now.uptime + delay.millis) }, [rests delay])
  | .waiting cycle _, .signal =>
    if s.listening then
      match s.mode.signalled? with
      | none => some (s.onSignal (.posting cycle), [])
      | some _ => some (s.onSignal (.posting cycle), [posts cycle])
    else none
  | .waiting _ _, .hangUp => if s.listening then some ({ s with listening := false }, []) else none
  | .waiting cycle t, .elapse =>
    if t ≤ now.uptime then some ({ s with phase := .posting cycle }, [posts cycle]) else none
  | .posting cycle, .reply true => some ({ s with phase := .checking }, [delivered cycle])
  | .posting cycle, .reply false =>
    some ({ s with mode := s.mode.afterFailure, phase := .returning cycle }, [failed cycle])
  | .returning (b :: rest), .giveBack => some (s.putBack b rest)
  | .returning [], .giveBack => some ({ s with phase := .idle }, [])
  | .checking, .check =>
    if s.mode = .draining ∧ s.queue.isEmpty then some ({ s with phase := .stopped (.ok ()) }, [])
    else some ({ s with phase := .idle }, [])
  | _, _ => none

/-- One step at the moment `now`; `none` when the event cannot happen. -/
def step (now : Moment) (s : Scheduler) (e : Event) : Option (Scheduler × List Effect) :=
  match e with
  | .offer _ | .enter _ | .withdraw _ => s.stepSender e
  | _ => s.stepSelf now s.phase e

def next? (now : Moment) (s : Scheduler) : Option Event :=
  match s.phase with
  | .idle => if s.queue.isEmpty then none else some .take
  | .merging _ => some .merge
  | .choosing _ => some .choose
  | .waiting _ t => if t ≤ now.uptime then some .elapse else none
  | .returning _ => some .giveBack
  | .checking => some .check
  | _ => none

end Scheduler

end HostMonitor.Posting
