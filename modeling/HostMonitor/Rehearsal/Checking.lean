import HostMonitor.Check.Runner
import HostMonitor.Rehearsal.Play
import HostMonitor.Shutdown.Fanout
import HostMonitor.Shutdown.Signals

namespace HostMonitor.Rehearsal

open Check (Aggregator Report Runner Status Watch)
open Shutdown (Signals)

structure Checker : Type where
  name : String
  interval : Nat
  script : List (Line (Option (Status × String)))
  inFlight : Option (Nat × Option (Status × String))

def Checker.begin (c : Checker) (now : Nat) : Checker :=
  match nextLineOrLast? c.script with
  | some (l, ls) => { c with script := ls, inFlight := some (now + l.delay, l.content) }
  | none => { c with inFlight := some (now, none) }

def Checker.report (c : Checker) (now : Instant) : Option (Status × String) → Option Report :=
  Option.map fun (s, m) => ⟨c.name, s, m, now⟩

structure CheckWorld : Type where
  clock : Clock
  hostId : String
  checkers : List Checker
  watch : Watch
  discarding : Bool
  intakeOpen : Bool
  signals : Signals
  quit : Shutdown.Quit
  script : Script
  inFlight : Option (Nat × Bool)
  log : List Entry

inductive CheckEvent : Type
  | forward (reports : List (String × Status × String)) (escalate : Bool)
  | escalate
  | terminate
  | closeTermination
  | dropIntake
  | quit
  | dropQuit

namespace CheckWorld

def note (w : CheckWorld) (what : Happening) : CheckWorld :=
  { w with log := ⟨w.clock.now, what⟩ :: w.log }

def observe (w : CheckWorld) : Aggregator.Effect → CheckWorld
  | .delivers reports =>
    let call := Service.Call.reportChecks w.hostId reports
    let (r, script) := w.script.respond call
    let w := w.note (.call call r.verdict)
    { w with script := script, inFlight := some (w.clock.now + r.delay, r.verdict = .ok) }
  | _ => w

def runnerTask (c : Checker) : String := "check:" ++ c.name

def noteEndings (w : CheckWorld) (before : Watch) : CheckWorld :=
  let ended := (w.checkers.zip (before.runners.zip w.watch.runners)).filter fun (_, r, r') =>
    r.phase ≠ .stopped ∧ r'.phase = .stopped
  let w := ended.foldl (fun w (c, _) => w.note (.finished (runnerTask c) .well)) w
  if !before.aggregator.isStopped && w.watch.aggregator.isStopped then
    w.note (.finished "aggregator" .well)
  else w

def step? (w : CheckWorld) (e : Watch.Event) : Option CheckWorld := do
  let (watch, effects) ← w.watch.step w.clock.moment e
  return (effects.foldl observe { w with watch := watch }).noteEndings w.watch

def beginCheck (w : CheckWorld) (i : Nat) (c : Checker) : CheckWorld :=
  { w with checkers := w.checkers.set i (c.begin w.clock.now) }.note (.check c.name)

def moveRunner? (w : CheckWorld) (i : Nat) : Option CheckWorld := do
  let c ← w.checkers[i]?
  let r ← w.watch.runners[i]?
  match r.phase with
  | .waiting =>
    if r.ticker.isDue w.clock.now then return (← w.step? (.runner i .tick)).beginCheck i c
    else if w.quit.isOver then w.step? (.runner i .quit)
    else none
  | .checking =>
    let (t, result) ← c.inFlight
    if t ≤ w.clock.now then
      let w := { w with checkers := w.checkers.set i { c with inFlight := none } }
      w.step? (.runner i (.result (c.report w.clock.moment.wall result)))
    else if w.quit.isOver then w.step? (.runner i .quit)
    else none
  | .forwarding .. => w.step? (.forward i)
  | .escalating => w.step? (.escalate i)
  | .stopped => none

def firstMove? (w : CheckWorld) : List Nat → Option CheckWorld
  | [] => none
  | i :: is => w.moveRunner? i <|> w.firstMove? is

def reply? (w : CheckWorld) : Option CheckWorld := do
  let (t, accepted) ← w.inFlight
  if t ≤ w.clock.now then step? { w with inFlight := none } (.aggregator (.reply accepted))
  else none

def signal? (w : CheckWorld) : Option CheckWorld :=
  if w.signals.isReady then step? { w with signals := w.signals.receive } (.aggregator .signal)
  else none

def discard? (w : CheckWorld) : Option CheckWorld :=
  if w.watch.aggregator.isStopped then none
  else if 0 < w.signals.pending then some { w with signals := w.signals.receive }
  else if w.signals.live then none
  else
    let a := { w.watch.aggregator with phase := .stopped }
    some ({ w with watch := { w.watch with aggregator := a } }.noteEndings w.watch)

def moveAggregator? (w : CheckWorld) : Option CheckWorld :=
  match w.watch.aggregator.phase with
  | .draining .. | .returning .. =>
    w.watch.aggregator.next? w.clock.now >>= fun e => w.step? (.aggregator e)
  | .waiting t => if t ≤ w.clock.now then w.step? (.aggregator .elapse) else none
  | _ => none

def move? (w : CheckWorld) : Option CheckWorld :=
  if w.discarding then w.discard?
  else
    w.reply? <|> w.moveAggregator? <|> w.firstMove? (List.range w.checkers.length) <|>
      (if w.watch.aggregator.urgent then w.step? (.aggregator .wake) else none) <|> w.signal?

def due? (w : CheckWorld) : Option Nat :=
  if w.discarding then none
  else
    let runners := (w.checkers.zip w.watch.runners).map fun (c, r) =>
      match r.phase with
      | .waiting => some r.ticker.due
      | .checking => c.inFlight.map Prod.fst
      | _ => none
    runners.foldl earlier (earlier (w.inFlight.map Prod.fst) w.watch.aggregator.due?)

def act (e : CheckEvent) (w : CheckWorld) : CheckWorld :=
  let accept (w : CheckWorld) (e : Aggregator.Event) : CheckWorld :=
    match w.watch.aggregator.step w.clock.moment e with
    | some (a, _) => { w with watch := { w.watch with aggregator := a } }
    | none => w
  match e with
  | .forward reports escalate =>
    if w.intakeOpen then
      let w := reports.foldl (fun w (name, status, message) =>
        let taken := !w.watch.aggregator.isStopped
        (accept w (.forward ⟨name, status, message, w.clock.moment.wall⟩)).note
          (.forwarded name taken)) w
      if escalate then accept w .escalate else w
    else w
  | .escalate => if w.intakeOpen then accept w .escalate else w
  | .terminate => { w with signals := w.signals.send }
  | .closeTermination => { w with signals := w.signals.close }
  | .dropIntake => { w with intakeOpen := false }
  | .quit => { w with quit := w.quit.raise }
  | .dropQuit => { w with quit := w.quit.orphan }

def play : Play CheckWorld CheckEvent where
  now w := w.clock.now
  setTime t w := { w with clock := { w.clock with now := t } }
  move? := move?
  due? := due?
  act := act

def start (base : Int) (hostId : String) (ceiling : Nat) (script : Script)
    (checkers : List Checker) (discarding : Bool) (room : Nat) : CheckWorld where
  clock := ⟨base, 0⟩
  hostId := hostId
  checkers := checkers
  watch := ⟨checkers.map fun c => .start c.interval 0, .start ceiling 0⟩
  discarding := discarding
  intakeOpen := true
  signals := .start room
  quit := .start
  script := script
  inFlight := none
  log := []

def rehearse (w : CheckWorld) (limit : Nat) (events : List (Nat × CheckEvent)) : List Entry :=
  report (play.run limit events w).log.reverse

end CheckWorld

end HostMonitor.Rehearsal
