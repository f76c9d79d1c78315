import HostMonitor.Proofs.Posting.Run

namespace HostMonitor.Posting

open Scheduler (Event Transition History Move Run move_of_step)

variable {h : History} {s t : Scheduler} {now : Moment} {e : Event}
  {effects : List Scheduler.Effect} {settings : Settings} {offset : Span} {queue : Queue}

namespace Mode

theorem afterTaking_ne_first (m : Mode) (more : Bool) : m.afterTaking more ≠ .first := by
  unfold afterTaking
  split
  · next draining => simp [draining]
  · split <;> nofun

theorem afterFailure_ne_first {m : Mode} (h : m ≠ .first) : m.afterFailure ≠ .first := by
  unfold afterFailure
  split
  · exact h
  · nofun

@[simp] theorem afterTaking_eq_draining {m : Mode} {more : Bool} :
    m.afterTaking more = .draining ↔ m = .draining := by
  unfold afterTaking
  split
  · rfl
  · next other => cases more <;> simp [other]

@[simp] theorem afterFailure_eq_draining {m : Mode} :
    m.afterFailure = .draining ↔ m = .draining := by
  unfold afterFailure
  split
  · rfl
  · next other => simp [other]

end Mode

namespace Scheduler

theorem Move.not_first_of_choose (move : Move now s e effects t) (choose : e = .choose) :
    t.mode ≠ .first := by
  cases move with
  | choose => exact Mode.afterTaking_ne_first _ _
  | _ => cases choose

theorem Move.not_first (move : Move now s e effects t) (h : s.mode ≠ .first) : t.mode ≠ .first := by
  cases move with
  | choose => exact Mode.afterTaking_ne_first _ _
  | fail => exact Mode.afterFailure_ne_first h
  | signalIdle | signalWaiting => nofun
  | _ => exact h

theorem Move.draining_iff (move : Move now s e effects t) :
    t.mode = .draining ↔ s.mode = .draining ∨ e = .signal := by
  cases move with
  | choose => simp
  | fail => simp
  | signalIdle | signalWaiting => simp
  | force listens listening draining => simp [draining]
  | _ => simp

theorem Move.closed (move : Move now s e effects t) (h : s.listening = false) :
    e ≠ .signal ∧ e ≠ .hangUp ∧ t.listening = false := by
  cases move <;> simp_all

theorem Move.signal (move : Move now s .signal effects t) :
    s.phase.listens ∧ s.listening = true ∧
      ((s.mode ≠ .draining ∧ t.ended = false) ∨
        (s.mode = .draining ∧ t.phase = .stopped (.error .forcedTermination))) := by
  cases move with
  | signalIdle phase listening other =>
    exact ⟨by simp [phase, Phase.listens], listening, .inl ⟨other, rfl⟩⟩
  | signalWaiting phase listening other =>
    exact ⟨by simp [phase, Phase.listens], listening, .inl ⟨other, rfl⟩⟩
  | force listens listening draining => exact ⟨listens, listening, .inr ⟨draining, rfl⟩⟩

theorem Move.hungUp (move : Move now s .hangUp effects t) :
    effects = [] ∧ t = { s with listening := false } := by
  cases move with
  | hangUp => exact ⟨rfl, rfl⟩

theorem not_ended_of_listens (h : s.phase.listens) : s.ended = false := by
  unfold Phase.listens at h
  split at h
  · next idle => simp [ended, idle]
  · next waiting => simp [ended, waiting]
  · cases h

theorem Move.running (move : Move now s e effects t) (h : t.ended = false) : s.ended = false := by
  cases halted : s.ended with
  | false => rfl
  | true =>
    obtain ⟨-, -, phase, -⟩ := move.refused halted
    rwa [ended, phase, ← ended, halted] at h

theorem Run.signals_of_running (run : Run (.start settings offset queue) h s)
    (running : s.ended = false) : h.signals = if s.mode = .draining then 1 else 0 := by
  induction run with
  | nil => rfl
  | @step h t now e u effects run made ih =>
    have move := move_of_step made
    have ih := ih (move.running running)
    rw [History.signals_append, ih]
    by_cases signal : e = .signal
    · subst signal
      obtain ⟨-, -, ⟨other, -⟩ | ⟨-, forced⟩⟩ := move.signal
      · rw [History.signals_of_signal rfl]
        simp [other, move.draining_iff]
      · simp [ended, forced] at running
    · rw [History.signals_of_ne signal]
      simp [move.draining_iff, signal]

theorem Run.ends (run : Run (.start settings offset queue) h s) (halted : s.ended = true) :
    (s.phase = .stopped (.ok ()) ∧ h.signals = 1 ∧ s.queue.held = []) ∨
      (s.phase = .stopped (.error .forcedTermination) ∧ h.signals = 2) ∨
      s.phase = .overflown := by
  obtain ⟨h₁, x, h₂, rfl, before, move, running, ended, after⟩ := run.ending rfl halted
  obtain ⟨phase, -, held, -, signals⟩ := after.refused ended
  -- What comes after the last move is refused, so the signals are those before it and its own.
  have count : History.signals (h₁ ++ x :: h₂) =
      (if x.source.mode = .draining then 1 else 0) + History.signals [x] := by
    rw [← List.singleton_append, History.signals_append, History.signals_append, signals,
      before.signals_of_running running]
    rfl
  rw [count, phase, held]
  obtain ⟨-, same, ⟨checking, draining, empty, ok⟩ | ⟨signal, -, draining, forced⟩ | overflown⟩ :=
    move.ending running ended
  · have other : x.event ≠ .signal := by
      intro signal
      rw [signal] at move
      simpa [checking, Phase.listens] using move.signal.1
    refine .inl ⟨ok, ?_, by rw [same, empty]⟩
    rw [if_pos draining, History.signals_of_ne other]
  · refine .inr (.inl ⟨forced, ?_⟩)
    rw [if_pos draining, History.signals_of_signal signal]
  · exact .inr (.inr overflown)

end Scheduler

/-- How the scheduler comes to its end. The first mode does not come again, and draining does not
cease. A good end follows one signal, with an empty queue; any other end is a forced one, and comes
exactly when a signal is received while the queue is being drained already. To find the channel of
the signals closed changes nothing but that none is awaited again, and a wait keeps its deadline. -/
structure Terminates (h : History) (s : Scheduler) : Prop where
  first : ∀ x ∈ h, x.event = .choose ∨ x.source.mode ≠ .first → s.mode ≠ .first
  draining : ∀ x ∈ h, x.source.mode = .draining ∨ x.event = .signal → s.mode = .draining
  ok : s.phase = .stopped (.ok ()) → h.signals = 1 ∧ s.queue.held = []
  error : ∀ f, s.phase = .stopped (.error f) → f = .forcedTermination ∧ h.signals = 2
  forced : ∀ x ∈ h, (x.source.ended = false ∧ ∃ f, x.target.phase = .stopped (.error f)) ↔
    (x.event = .signal ∧ x.source.mode = .draining ∧ x.source.phase.listens)
  hungUp : ∀ x ∈ h, x.event = .hangUp →
    x.effects = [] ∧ x.target = { x.source with listening := false } ∧ s.listening = false
  deaf : ∀ x ∈ h, x.source.listening = false → x.event ≠ .signal ∧ x.event ≠ .hangUp
  unsignalled : h.signals = 0 → ∀ r, s.phase ≠ .stopped r
  waiting : ∀ x ∈ h, ∀ {cycle deadline}, x.source.phase = .waiting cycle deadline →
    x.target.phase = .waiting cycle deadline ∨ (x.event = .elapse ∧ deadline ≤ x.now.uptime) ∨
      (x.event = .signal ∧ x.source.listening = true)

theorem terminates_as_signalled (run : Run (.start settings offset queue) h s) :
    Terminates h s where
  first x hx left := by
    refine run.since hx (P := fun s => s.mode ≠ .first) Move.not_first ?_
    rcases left with choose | other
    · exact (run.move hx).not_first_of_choose choose
    · exact (run.move hx).not_first other
  draining x hx signalled := by
    refine run.since hx (P := fun s => s.mode = .draining) ?_ ?_
    · exact fun move draining => move.draining_iff.mpr (.inl draining)
    · exact (run.move hx).draining_iff.mpr signalled
  ok phase := by
    rcases run.ends (by simp [Scheduler.ended, phase]) with ⟨-, signals, empty⟩ | ⟨forced, -⟩ |
      overflown
    · exact ⟨signals, empty⟩
    · simp [phase] at forced
    · simp [phase] at overflown
  error f phase := by
    rcases run.ends (by simp [Scheduler.ended, phase]) with ⟨ok, -⟩ | ⟨forced, signals⟩ |
      overflown
    · simp [phase] at ok
    · exact ⟨by simpa [phase] using forced, signals⟩
    · simp [phase] at overflown
  forced x hx := by
    have move := run.move hx
    constructor
    · rintro ⟨running, f, error⟩
      obtain ⟨-, -, ⟨-, -, -, ok⟩ | ⟨signal, listens, draining, -⟩ | overflown⟩ :=
        move.ending running (by simp [Scheduler.ended, error])
      · simp [error] at ok
      · exact ⟨signal, draining, listens⟩
      · simp [error] at overflown
    · rintro ⟨signal, draining, listens⟩
      rw [signal] at move
      refine ⟨Scheduler.not_ended_of_listens listens, .forcedTermination, ?_⟩
      obtain ⟨-, -, ⟨other, -⟩ | ⟨-, forced⟩⟩ := move.signal
      · exact absurd draining other
      · exact forced
  hungUp x hx hangUp := by
    have move := run.move hx
    rw [hangUp] at move
    obtain ⟨silent, target⟩ := move.hungUp
    refine ⟨silent, target, run.since hx (P := fun s => s.listening = false) ?_ ?_⟩
    · exact fun move closed => (move.closed closed).2.2
    · rw [target]
  deaf x hx closed := by
    obtain ⟨signal, hangUp, -⟩ := (run.move hx).closed closed
    exact ⟨signal, hangUp⟩
  unsignalled none r phase := by
    rcases run.ends (by simp [Scheduler.ended, phase]) with ⟨-, one, -⟩ | ⟨-, two⟩ | overflown
    · omega
    · omega
    · simp [phase] at overflown
  waiting x hx cycle deadline phase := by
    rcases (run.move hx).waiting phase with ⟨same, -⟩ | ⟨elapse, due, -⟩ | ⟨signal, listening, -⟩ |
      ⟨signal, listening, -⟩
    · exact .inl (same.trans phase)
    · exact .inr (.inl ⟨elapse, due⟩)
    · exact .inr (.inr ⟨signal, listening⟩)
    · exact .inr (.inr ⟨signal, listening⟩)

theorem trial_signalled_twice_terminates : ∃ h s, Run Scheduler.trial h s ∧
    s.phase = .stopped (.error .forcedTermination) ∧ h.signals = 2 ∧ Terminates h s := by
  obtain ⟨h, s, run, seen⟩ := Run.of_play Scheduler.trial (Scheduler.atOnce [
    .offer Scheduler.reading, .take, .merge, .choose, .signal, .reply false, .giveBack, .giveBack,
    .signal]) (fun r => (r.2.phase, r.1.signals)) rfl
  simp only [Prod.mk.injEq] at seen
  exact ⟨h, s, run, seen.1, seen.2, terminates_as_signalled run⟩

end HostMonitor.Posting
