import HostMonitor.Posting.Scheduler
import HostMonitor.Rehearsal.Play
import HostMonitor.Shutdown.Signals

namespace HostMonitor.Rehearsal

open HostMonitor.Metric (Batch)
open Shutdown (Signals)
open Posting (Scheduler)

structure PostingWorld : Type where
  clock : Clock
  scheduler : Scheduler
  signals : Signals
  script : Script
  inFlight : Option (Nat × Bool)
  log : List Entry

inductive PostingEvent : Type
  | send (bs : List Batch)
  | terminate
  | closeTermination

namespace PostingWorld

def note (w : PostingWorld) (what : Happening) : PostingWorld :=
  { w with log := ⟨w.clock.now, what⟩ :: w.log }

def label (b : Batch) : Option String := b.samples.head?.map Metric.Sample.name

def observe (w : PostingWorld) : Scheduler.Effect → PostingWorld
  | .accepted b => w.note (.sent (label b) true)
  | .refused b => w.note (.sent (label b) false)
  | .posts cycle =>
    let call := Service.Call.postMetrics (Scheduler.samplesOf cycle)
    let (r, script) := w.script.respond call
    let w := w.note (.call call r.verdict)
    { w with script := script, inFlight := some (w.clock.now + r.delay, r.verdict = .ok) }
  | _ => w

def ending? (s : Scheduler) : Option Ending :=
  match s.phase with
  | .stopped (.ok _) => some .well
  | .stopped (.error e) => some (.failed e)
  | .overflown => some (.overflow Batch.overflowMessage)
  | _ => none

def step? (w : PostingWorld) (e : Scheduler.Event) : Option PostingWorld := do
  let (s, effects) ← w.scheduler.step w.clock.moment e
  let w' := effects.foldl observe { w with scheduler := s }
  match ending? w.scheduler, ending? s with
  | none, some ending => return w'.note (.finished "scheduler" ending)
  | _, _ => return w'

def receiveSignal? (w : PostingWorld) : Option PostingWorld :=
  if 0 < w.signals.pending then step? { w with signals := w.signals.receive } .signal
  else if w.signals.live then none else w.step? .hangUp

def reply? (w : PostingWorld) : Option PostingWorld := do
  let (t, accepted) ← w.inFlight
  if t ≤ w.clock.now then step? { w with inFlight := none } (.reply accepted) else none

def enter (w : PostingWorld) : Nat → PostingWorld
  | 0 => w
  | n + 1 =>
    match w.step? (.enter 0) with
    | some w => w.enter n
    | none => w

def enter? (w : PostingWorld) : Option PostingWorld :=
  let n := w.scheduler.queue.granted
  if n = 0 then none else some (w.enter n)

/-- The scheduler goes on as far as it can; then come signals, then all senders that have a slot.
Once it has ended, waiting sends end as well. -/
def move? (w : PostingWorld) : Option PostingWorld :=
  if w.scheduler.ended then w.step? (.withdraw 0)
  else w.reply? <|> (w.scheduler.next? w.clock.moment >>= w.step?) <|> w.receiveSignal? <|>
    w.enter?

def due? (w : PostingWorld) : Option Nat :=
  earlier (w.inFlight.map Prod.fst) <|
    match w.scheduler.phase with
    | .waiting _ t => some t
    | _ => none

def act (e : PostingEvent) (w : PostingWorld) : PostingWorld :=
  match e with
  | .send bs => bs.foldl (fun w b => (w.step? (.offer b)).getD w) w
  | .terminate => { w with signals := w.signals.send }
  | .closeTermination => { w with signals := w.signals.close }

def play : Play PostingWorld PostingEvent where
  now w := w.clock.now
  setTime t w := { w with clock := { w.clock with now := t } }
  move? := move?
  due? := due?
  act := act

def start (base : Int) (scheduler : Scheduler) (script : Script) : PostingWorld :=
  ⟨⟨base, 0⟩, scheduler, .start 4, script, none, []⟩

def rehearse (w : PostingWorld) (limit : Nat) (events : List (Nat × PostingEvent)) : List Entry :=
  report (play.run limit events w).log.reverse

end PostingWorld

end HostMonitor.Rehearsal
