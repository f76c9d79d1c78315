import HostMonitor.Rehearsal.Play
import HostMonitor.Rehearsal.Steps

namespace HostMonitor.Rehearsal

open HostMonitor.Metric (Producer Snapshot)

structure ProducerWorld : Type where
  clock : Clock
  producer : Producer
  collectors : List Collector
  capacity : Nat
  buffer : List Snapshot
  consuming : Bool
  quit : Shutdown.Quit
  log : List Entry

inductive ProducerEvent : Type
  | receive (most : Nat)
  | closeConsumer
  | quit
  | dropQuit

namespace ProducerWorld

def note (w : ProducerWorld) (what : Happening) : ProducerWorld :=
  { w with log := ⟨w.clock.now, what⟩ :: w.log }

def step? (w : ProducerWorld) (e : Producer.Event) : Option ProducerWorld := do
  let (p, _) ← w.producer.step w.clock.moment e
  let w := { w with producer := p }
  return match p.phase with
  | .stopped => w.note (.finished "producer" .well)
  | _ => w

def move? (w : ProducerWorld) : Option ProducerWorld :=
  match w.producer.phase with
  | .waiting => w.step? .tick <|> (if w.quit.isOver then w.step? .quit else none)
  | .collecting =>
    let runs := w.collectors.map Collector.run
    step? { w with collectors := runs.map Prod.snd } (.collected (runs.map Prod.fst))
  | .sending s =>
    if !w.consuming then w.step? .consumerGone
    else if w.buffer.length < w.capacity then step? { w with buffer := w.buffer ++ [s] } .taken
    else if w.quit.isOver then w.step? .quit
    else none
  | .stopped => none

def due? (w : ProducerWorld) : Option Nat :=
  match w.producer.phase with
  | .waiting => some w.producer.ticker.due
  | _ => none

def act (e : ProducerEvent) (w : ProducerWorld) : ProducerWorld :=
  match e with
  | .receive n =>
    { w with buffer := w.buffer.drop n }.note (.received (w.buffer.take n))
  | .closeConsumer => { w with consuming := false, buffer := [] }
  | .quit => { w with quit := w.quit.raise }
  | .dropQuit => { w with quit := w.quit.orphan }

def play : Play ProducerWorld ProducerEvent where
  now w := w.clock.now
  setTime t w := { w with clock := { w.clock with now := t } }
  move? := move?
  due? := due?
  act := act

def start (base : Int) (interval capacity : Nat) (collectors : List Collector) : ProducerWorld :=
  ⟨⟨base, 0⟩, .start interval 0, collectors, capacity, [], true, .start, []⟩

def rehearse (w : ProducerWorld) (limit : Nat) (events : List (Nat × ProducerEvent)) :
    List Entry :=
  report (play.run limit events w).log.reverse

end ProducerWorld

end HostMonitor.Rehearsal
