import HostMonitor.Posting.Ingest
import HostMonitor.Posting.Queue
import HostMonitor.Rehearsal.Play
import HostMonitor.Shutdown.Signals

namespace HostMonitor.Rehearsal

open HostMonitor.Metric (Batch Snapshot)
open Shutdown (Signals)
open Posting (Queue Ingestor)

structure IngestWorld : Type where
  clock : Clock
  ingestor : Ingestor
  queue : Option Queue
  buffer : Option Snapshot
  senders : List (Nat × Snapshot)
  producing : Bool
  signals : Signals
  log : List Entry

inductive IngestEvent : Type
  | snapshot (id : Nat) (s : Snapshot)
  | receive
  | terminate
  | closeTermination
  | closeProducer
  | closeQueue

namespace IngestWorld

def note (w : IngestWorld) (what : Happening) : IngestWorld :=
  { w with log := ⟨w.clock.now, what⟩ :: w.log }

def observe (w : IngestWorld) : Ingestor.Effect → IngestWorld
  | .sends b => { w with queue := w.queue.map fun q => (q.offer b).1 }
  | .calledOff _ =>
    { w with queue := w.queue.map fun q => ((q.withdraw? 0).map Prod.snd).getD q }

def step? (w : IngestWorld) (e : Ingestor.Event) : Option IngestWorld := do
  let (i, effects) ← w.ingestor.step e
  let w' := effects.foldl observe { w with ingestor := i }
  return if i.phase = .stopped then w'.note (.finished "ingest" .well) else w'

def isStopped (w : IngestWorld) : Bool := w.ingestor.phase = .stopped

def sendEnds? (w : IngestWorld) : Option IngestWorld :=
  match w.ingestor.phase, w.queue with
  | .sending _, none => w.step? .refused
  | .sending _, some q =>
    if q.waiting.isEmpty then w.step? .accepted
    else do
      let (_, q) ← q.enter? 0
      step? { w with queue := some q } .accepted
  | _, _ => none

def receive? (w : IngestWorld) : Option IngestWorld := do
  step? { w with buffer := none } (.snapshot (← w.buffer))

def handOver? (w : IngestWorld) : Option IngestWorld :=
  match w.senders with
  | [] => none
  | (id, s) :: rest =>
    if w.isStopped then some ({ w with senders := rest }.note (.handedOver id false))
    else if w.buffer.isNone then
      some ({ w with senders := rest, buffer := some s }.note (.handedOver id true))
    else none

def signal? (w : IngestWorld) : Option IngestWorld :=
  if w.signals.isReady then step? { w with signals := w.signals.receive } .signal else none

def producerGone? (w : IngestWorld) : Option IngestWorld :=
  if w.producing || !w.senders.isEmpty || w.buffer.isSome then none else w.step? .producerGone

def move? (w : IngestWorld) : Option IngestWorld :=
  w.sendEnds? <|> w.receive? <|> w.signal? <|> w.handOver? <|> w.producerGone?

def settle : IngestWorld → IngestWorld := exhaust move? Play.patience

def perform (w : IngestWorld) : IngestEvent → String × Option Batch × IngestWorld
  | .snapshot id s =>
    ("snapshot", none, if w.producing then { w with senders := w.senders ++ [(id, s)] } else w)
  | .receive =>
    match w.queue >>= Queue.take? with
    | some (b, q) => ("recv", some b, { w with queue := some q })
    | none => ("recv", none, w)
  | .terminate => ("terminate", none, { w with signals := w.signals.send })
  | .closeTermination => ("close_termination", none, { w with signals := w.signals.close })
  | .closeProducer => ("close_producer", none, { w with producing := false })
  | .closeQueue => ("close_queue", none, { w with queue := none })

def act (e : IngestEvent) (w : IngestWorld) : IngestWorld :=
  let (name, got, w) := w.perform e
  let w := w.settle
  w.note (.event name got (w.queue.map Queue.length))

def play : Play IngestWorld IngestEvent where
  now w := w.clock.now
  setTime t w := { w with clock := { w.clock with now := t } }
  move? := move?
  due? _ := none
  act := act

def start (ingestor : Ingestor) (queue : Queue) : IngestWorld :=
  ⟨⟨0, 0⟩, ingestor, some queue, none, [], true, .start 1, []⟩

def rehearse (w : IngestWorld) (limit : Nat) (events : List (Nat × IngestEvent)) : List Entry :=
  report (play.run limit events w).log.reverse

end IngestWorld

end HostMonitor.Rehearsal
