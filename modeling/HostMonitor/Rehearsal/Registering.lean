import HostMonitor.Host.Registration
import HostMonitor.Rehearsal.Log

namespace HostMonitor.Rehearsal

structure Stage : Type where
  script : Script
  stored : Option String
  saveError : Option String
  log : List Entry

def Stage.note (s : Stage) (now : Nat) (what : Happening) : Stage :=
  { s with log := s.log ++ [⟨now, what⟩] }

def Stage.respond (s : Stage) (now : Nat) : (q : Host.Question) → q.Answer × Stage × Nat
  | .load => (s.stored, s.note now .load, now)
  | .save id =>
    (match s.saveError with
      | some e => .error e
      | none => .ok (), s.note now (.save id), now)
  | .call c =>
    let (r, script) := s.script.respond c
    (r.reply, { s.note now (.call c r.verdict) with script := script }, now + r.delay)

def storeName : String := "ID-STORE"

def Stage.play {α : Type} (s : Stage) (now : Nat) (d : Host.Program α) : α × Stage × Nat :=
  d.play Stage.respond s now

structure Replies (α : Type) : Type where
  left : List (Line (Except Service.Error α))
  attempts : List Nat

def Replies.respond {α : Type} (fallback : α) (s : Replies α) (now : Nat) (_ : Unit) :
    Except Service.Error α × Replies α × Nat :=
  match nextLineOrLast? s.left with
  | some (l, left) => (l.content, ⟨left, s.attempts ++ [now]⟩, now + l.delay)
  | none => (.ok fallback, ⟨[], s.attempts ++ [now]⟩, now)

end HostMonitor.Rehearsal
