import HostMonitor.Host.Refresher
import HostMonitor.Rehearsal.Play
import HostMonitor.Shutdown.Signals

namespace HostMonitor.Rehearsal

open Host (Refresher Spec)
open Shutdown (Signals)

abbrev Source : Type := List (Line (Except (Option (List String)) Spec))

structure RefreshWorld : Type where
  clock : Clock
  hostId : String
  refresher : Refresher
  source : Source
  signals : Signals
  script : Script
  inFlight : Option (Nat × Bool)
  log : List Entry

inductive RefreshEvent : Type
  | terminate
  | closeTermination

namespace RefreshWorld

def note (w : RefreshWorld) (what : Happening) : RefreshWorld :=
  { w with log := ⟨w.clock.now, what⟩ :: w.log }

def observe (w : RefreshWorld) : Refresher.Effect → RefreshWorld
  | .updates spec =>
    let call := Service.Call.updateHost w.hostId spec
    let (r, script) := w.script.respond call
    let w := w.note (.call call r.verdict)
    { w with script := script, inFlight := some (w.clock.now + r.delay, r.verdict = .ok) }

def step? (w : RefreshWorld) (e : Refresher.Event) : Option RefreshWorld := do
  let (r, effects) ← w.refresher.step w.clock.now e
  let w := effects.foldl observe { w with refresher := r }
  return if r.phase = .stopped then w.note (.finished "refresher" .well) else w

def nextSpec (source : Source) : Option Spec × Source :=
  match nextLineOrLast? source with
  | some (l, ls) => (l.content.toOption, ls)
  | none => (none, [])

def reply? (w : RefreshWorld) : Option RefreshWorld := do
  let (t, accepted) ← w.inFlight
  if t ≤ w.clock.now then step? { w with inFlight := none } (.reply accepted) else none

def move? (w : RefreshWorld) : Option RefreshWorld :=
  match w.refresher.phase with
  | .collecting =>
    let (spec, source) := nextSpec w.source
    step? { w with source := source } (.collected spec)
  | .updating => w.reply?
  | .resting _ =>
    w.step? .elapse <|>
      if w.signals.isReady then step? { w with signals := w.signals.receive } .signal else none
  | .stopped => none

def due? (w : RefreshWorld) : Option Nat :=
  match w.refresher.phase with
  | .resting t => some t
  | _ => w.inFlight.map Prod.fst

def act (e : RefreshEvent) (w : RefreshWorld) : RefreshWorld :=
  match e with
  | .terminate => { w with signals := w.signals.send }
  | .closeTermination => { w with signals := w.signals.close }

def play : Play RefreshWorld RefreshEvent where
  now w := w.clock.now
  setTime t w := { w with clock := { w.clock with now := t } }
  move? := move?
  due? := due?
  act := act

def start (base : Int) (hostId : String) (interval : Nat) (source : Source) (script : Script)
    (room : Nat) : RefreshWorld :=
  ⟨⟨base, 0⟩, hostId, .start interval, source, .start room, script, none, []⟩

def rehearse (w : RefreshWorld) (limit : Nat) (events : List (Nat × RefreshEvent)) : List Entry :=
  report (play.run limit events w).log.reverse

def refreshRepeatedly (w : RefreshWorld) : Nat → List Bool × RefreshWorld
  | 0 => ([], w)
  | n + 1 =>
    let (spec, source) := nextSpec w.source
    let w := { w with source := source }
    let (accepted, w) :=
      match spec with
      | none => (false, w)
      | some spec =>
        let w := w.observe (.updates spec)
        match w.inFlight with
        | some (t, accepted) => (accepted, { w with clock := { w.clock with now := t } })
        | none => (false, w)
    let (rest, w) := w.refreshRepeatedly n
    (accepted :: rest, w)

end RefreshWorld

end HostMonitor.Rehearsal
