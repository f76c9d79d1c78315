import HostMonitor.Rehearsal.Play
import HostMonitor.Rehearsal.Steps
import HostMonitor.Shutdown.Fanout
import HostMonitor.Shutdown.Signals

namespace HostMonitor.Rehearsal

open Shutdown (Signals)

structure FanoutWorld : Type where
  now : Nat
  board : Switchboard
  external : Signals
  log : List Entry

inductive FanoutEvent : Type
  | signal
  | closeExternal
  | receive (name : String)
  | drop (name : String)
  | quit
  | dropQuit

namespace FanoutWorld

def note (w : FanoutWorld) (what : Happening) : FanoutWorld :=
  { w with log := ⟨w.now, what⟩ :: w.log }

def move? (w : FanoutWorld) : Option FanoutWorld :=
  if !w.board.fanout.live then none
  else if 0 < w.external.pending then
    let (fanout, _) := w.board.fanout.broadcast
    some { w with external := w.external.receive, board := { w.board with fanout := fanout } }
  else if w.board.quit.isOver then
    some ({ w with board := { w.board with fanout := w.board.fanout.close } }.note
      (.finished "fanout" .well))
  else none

def act (e : FanoutEvent) (w : FanoutWorld) : FanoutWorld :=
  match e with
  | .signal => { w with external := w.external.send }
  | .closeExternal => { w with external := w.external.close }
  | .receive name =>
    let (r, board) := w.board.step (.receive name)
    { w with board := board }.note (.heard name (match r with
      | .word s => s
      | _ => ""))
  | .drop name => { w with board := w.board.forget name }
  | .quit => { w with board := { w.board with quit := w.board.quit.raise } }
  | .dropQuit => { w with board := { w.board with quit := w.board.quit.orphan } }

def play : Play FanoutWorld FanoutEvent where
  now := FanoutWorld.now
  setTime t w := { w with now := t }
  move? := move?
  due? _ := none
  act := act

def start (consumers : List String) : FanoutWorld :=
  ⟨0, consumers.foldl (fun b name => (b.step (.register name)).2) .start, .start 4, []⟩

def rehearse (w : FanoutWorld) (limit : Nat) (events : List (Nat × FanoutEvent)) : List Entry :=
  report (play.run limit events w).log.reverse

end FanoutWorld

structure Sleeper : Type where
  name : String
  time : Nat
  panics : Bool

def groupEnd (tasks : List Sleeper) (abortAt : Option Nat) : Nat :=
  abortAt.getD ((tasks.map Sleeper.time).foldl max 0)

def groupLog (tasks : List Sleeper) (abortAt : Option Nat) : List Entry :=
  report ((tasks.filter fun t => !t.panics && t.time ≤ groupEnd tasks abortAt).map fun t =>
    ⟨t.time, .ranOut t.name⟩)

end HostMonitor.Rehearsal
