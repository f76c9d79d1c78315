import HostMonitor.Proofs.Agent.Reachable

namespace HostMonitor

namespace Posting

variable {now : Moment}

namespace Scheduler

variable {s t : Scheduler} {e : Event} {effects : List Effect}

def signalsHeard (s : Scheduler) : Nat :=
  match s.phase with
  | .stopped (.ok _) => 1
  | .stopped (.error _) => 2
  | _ => if s.mode = .draining then 1 else 0

theorem signalsHeard_of_running (running : s.ended = false) :
    s.signalsHeard = if s.mode = .draining then 1 else 0 := by
  unfold ended at running
  unfold signalsHeard
  split <;> simp_all

theorem Move.signalsHeard_le (move : Move now s e effects t) :
    t.signalsHeard ≤ s.signalsHeard ∨ (e = .signal ∧ t.signalsHeard ≤ s.signalsHeard + 1) := by
  have draining := move.draining_iff
  have modes : (if t.mode = .draining then 1 else 0) ≤ (if s.mode = .draining then 1 else 0) ∨
      (e = .signal ∧ (if t.mode = .draining then 1 else 0) ≤
        (if s.mode = .draining then 1 else 0) + 1) := by
    by_cases signal : e = .signal
    · refine .inr ⟨signal, ?_⟩
      split <;> omega
    · exact .inl (by simp [draining, signal])
  cases halted : s.ended with
  | true =>
    obtain ⟨-, -, phase, mode, -⟩ := move.refused halted
    exact .inl (by simp [signalsHeard, phase, mode])
  | false =>
    rw [signalsHeard_of_running halted]
    cases ended : t.ended with
    | false => rwa [signalsHeard_of_running ended]
    | true =>
      obtain ⟨-, -, ⟨-, before, -, ok⟩ | ⟨signal, -, before, forced⟩ | overflown⟩ :=
        move.ending halted ended
      · exact .inl (by simp [signalsHeard, ok, before])
      · exact .inr ⟨signal, by simp [signalsHeard, forced, before]⟩
      · simpa [signalsHeard, overflown] using modes

end Scheduler

theorem Pipeline.Move.signalsHeard_le {p q : Pipeline} {e : Pipeline.Event}
    {effects : List Pipeline.Effect} (move : Move now p e effects q) :
    q.scheduler.signalsHeard ≤ p.scheduler.signalsHeard ∨
      (e = .schedule .signal ∧ q.scheduler.signalsHeard ≤ p.scheduler.signalsHeard + 1) := by
  cases scheduled : e with
  | schedule f =>
    subst scheduled
    cases move with
    | schedule own moved =>
      rcases moved.signalsHeard_le with le | ⟨rfl, le⟩
      · exact .inl le
      · exact .inr ⟨rfl, le⟩
  | _ =>
    obtain ⟨phase, mode, -⟩ := move.aside (by simp [scheduled])
    exact .inl (by simp [Scheduler.signalsHeard, phase, mode])

end Posting

namespace Agent

open Posting (Pipeline)
open Shutdown (Fanout)

def signalsHeard (a : Agent) : Nat :=
  match a.phase with
  | .staggering _ | .posting => a.pipeline.scheduler.signalsHeard
  | .joining | .parting | .finished (.ok _) => 1
  | .finished (.error _) => 2
  | .overflown => 0

def signalsUnderway (a : Agent) : Nat :=
  (a.fanout.holds Listener.scheduler.place).toNat + a.external.pending

def Event.isTermination : Event → Bool
  | .terminate => true
  | _ => false

def History.terminations (h : History) : Nat := h.countP fun x => x.event.isTermination

variable {now : Moment} {a b : Agent} {e : Event} {effects : List Effect} {h : History}
  {l : Listener}

def Hears (a : Agent) (e : Event) : Prop :=
  e = .receive .scheduler ∧ a.reception .scheduler = .signal

theorem signalsHeard_le (phase : b.phase = a.phase)
    (le : b.pipeline.scheduler.signalsHeard ≤ a.pipeline.scheduler.signalsHeard) :
    b.signalsHeard ≤ a.signalsHeard := by
  unfold signalsHeard
  rw [phase]
  split <;> omega

theorem Move.signalsHeard_le (move : Move now a e effects b) :
    b.signalsHeard ≤ a.signalsHeard ∨
      (a.Hears e ∧ b.signalsHeard ≤ a.signalsHeard + 1) := by
  cases move with
  | conclude phase result | force phase result =>
    exact .inl (by simp [signalsHeard, phase, Posting.Scheduler.signalsHeard, result])
  | begin phase | burst phase | join phase | part phase | reply phase =>
    exact .inl (by simp [signalsHeard, phase])
  | @pipeline f p shown running allowed stepped =>
    rcases (Pipeline.move_of_step stepped).signalsHeard_le with le | ⟨rfl, -⟩
    · exact .inl (Agent.signalsHeard_le rfl le)
    · cases allowed
  | stopIngestor running ready stepped =>
    rcases (Pipeline.move_of_step stepped).signalsHeard_le with le | ⟨signal, -⟩
    · exact .inl (Agent.signalsHeard_le rfl le)
    · cases signal
  | stopEarly phase heard =>
    exact .inr ⟨⟨rfl, heard⟩, by simp [signalsHeard]⟩
  | signal phase heard stepped =>
    refine .inr ⟨⟨rfl, heard⟩, ?_⟩
    have := (Pipeline.move_of_step stepped).signalsHeard_le
    simp only [signalsHeard, phase_served, phase]
    omega
  | hangScheduler phase heard stepped =>
    rcases (Pipeline.move_of_step stepped).signalsHeard_le with le | ⟨signal, -⟩
    · exact .inl (Agent.signalsHeard_le rfl le)
    · cases signal
  | _ => exact .inl (Nat.le_refl _)

theorem signalsUnderway_served (l : Listener) :
    (a.served l).signalsUnderway ≤ a.signalsUnderway := by
  refine Nat.add_le_add_right ?_ _
  by_cases own : l = .scheduler
  · subst own
    rw [holds_served_self]
    exact Nat.zero_le _
  · exact Nat.le_of_eq (congrArg Bool.toNat (holds_served own))

theorem signalsUnderway_of_heard (heard : a.reception .scheduler = .signal) :
    (a.served .scheduler).signalsUnderway + 1 = a.signalsUnderway := by
  have held : a.fanout.holds Listener.scheduler.place = true := Fanout.holds_of_signal heard
  have left : (a.served .scheduler).fanout.holds Listener.scheduler.place = false :=
    holds_served_self
  have sent : (a.served .scheduler).external = a.external := rfl
  simp only [signalsUnderway, held, left, sent, Bool.toNat_true, Bool.toNat_false]
  omega

theorem Move.signalsUnderway_le (move : Move now a e effects b) :
    b.signalsUnderway ≤ a.signalsUnderway + e.isTermination.toNat := by
  cases move with
  | terminate =>
    have : a.external.send.pending ≤ a.external.pending + 1 := by
      unfold Shutdown.Signals.send
      split <;> simp
    simp only [signalsUnderway, Event.isTermination, Bool.toNat_true]
    omega
  | relay running live pending =>
    have := Bool.toNat_le (a.fanout.broadcast.1.holds Listener.scheduler.place)
    simp only [signalsUnderway, Shutdown.Signals.receive]
    omega
  | stopRefresher | stopIngestor | discard | stopDiscarding | stopChecks | stopEarly | signal
  | hangScheduler => exact signalsUnderway_served _
  | _ => exact Nat.le_refl _

theorem Move.heard (move : Move now a e effects b) (hears : a.Hears e) :
    b.signalsUnderway + 1 = a.signalsUnderway := by
  obtain ⟨rfl, signal⟩ := hears
  have underway := signalsUnderway_of_heard signal
  cases move with
  | stopEarly | signal | hangScheduler => exact underway

/-- No more signals are heard than were sent. -/
theorem Run.signals_le {began : Nat} {c : Config} {host : Host.Record}
    {customHosts : Posting.CustomHosts} {intervals : List Nat} {queue : Posting.Queue}
    (run : Run (start began c host customHosts intervals queue) h a) :
    a.signalsHeard + a.signalsUnderway ≤ h.terminations := by
  refine run.keeps (P := fun h a => a.signalsHeard + a.signalsUnderway ≤ h.terminations)
    (Nat.le_refl 0) ?_
  intro h now a e effects b ih move
  have count : History.terminations (h ++ [⟨a, now, e, effects, b⟩]) =
      h.terminations + e.isTermination.toNat := by
    cases sent : e.isTermination <;> simp [History.terminations, sent]
  have sent := move.signalsUnderway_le
  rcases move.signalsHeard_le with le | ⟨hears, le⟩
  · omega
  · have := move.heard hears
    omega

end Agent

end HostMonitor
