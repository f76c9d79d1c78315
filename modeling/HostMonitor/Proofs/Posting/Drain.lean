import HostMonitor.Proofs.Posting.Run

/-!
When a drained scheduler ends. It looks at the queue after a delivery and after a signal, but not
after a failed post: when the last batches are given up it waits again, and only a second signal can
end it.
-/

namespace HostMonitor.Posting

open HostMonitor.Metric (Batch)
open Scheduler (Event Effect Transition History Move Run move_of_step)

inductive Outcome : Type
  | signalled
  | delivered
  | failed (returned abandoned : Nat)
  deriving DecidableEq

namespace Outcome

def giveBack : Outcome → Outcome
  | .failed returned abandoned => .failed (returned + 1) abandoned
  | o => o

def abandon : Outcome → Outcome
  | .failed returned abandoned => .failed returned (abandoned + 1)
  | o => o

def note (o : Option Outcome) (x : Transition) : Option Outcome :=
  match x.event, x.effects with
  | .signal, _ => some .signalled
  | .reply true, _ => some .delivered
  | .reply false, _ => some (.failed 0 0)
  | .giveBack, [.gaveBack _] => o.map giveBack
  | .giveBack, [.abandoned _] => o.map abandon
  | _, _ => o

def of (h : History) : Option Outcome := h.foldl note none

@[simp] theorem of_append (h : History) (x : Transition) : of (h ++ [x]) = note (of h) x := by
  simp [of]

theorem note_of_isSend {x : Transition} (h : x.event.isSend = true) (o : Option Outcome) :
    note o x = o := by
  obtain ⟨source, now, e, effects, target⟩ := x
  cases e <;> simp [Event.isSend, note] at h ⊢

def Lost (o : Outcome) : Prop := ∃ n, o = .failed 0 (n + 1)

end Outcome

namespace Phase

def Loaded : Phase → Prop
  | .choosing cycle | .waiting cycle _ | .posting cycle => cycle ≠ []
  | _ => True

def Settled : Phase → Prop
  | .checking | .returning [] => True
  | _ => False

theorem settled_cases {phase : Phase} (h : phase.Settled) :
    phase = .checking ∨ phase = .returning [] := by
  unfold Settled at h
  split at h
  · exact .inl rfl
  · exact .inr rfl
  · cases h

end Phase

variable {h : History} {s t : Scheduler} {now : Moment} {e : Event} {effects : List Effect}
  {o : Option Outcome} {settings : Settings} {offset : Span} {queue : Queue}

structure Settling (o : Option Outcome) (s : Scheduler) : Prop where
  loaded : s.phase.Loaded
  checking : s.phase = .checking → o = some .signalled ∨ o = some .delivered
  returning : ∀ {rest}, s.phase = .returning rest → ∃ returned abandoned,
    o = some (.failed returned abandoned) ∧ 0 < returned + abandoned + rest.length ∧
      (s.queue.held = [] → returned = 0)
  idle : s.phase = .idle → s.mode = .draining → s.queue.held = [] →
    ∃ lost, o = some lost ∧ lost.Lost

namespace Settling

theorem send (settling : Settling o s) {q : Queue} (keeps : q.held = [] → s.queue.held = []) :
    Settling o { s with queue := q } where
  loaded := settling.loaded
  checking := settling.checking
  returning phase := by
    obtain ⟨returned, abandoned, outcome, work, spent⟩ := settling.returning phase
    exact ⟨returned, abandoned, outcome, work, fun empty => spent (keeps empty)⟩
  idle phase draining empty := settling.idle phase draining (keeps empty)

theorem of_loaded (loaded : s.phase.Loaded) (checking : s.phase ≠ .checking)
    (returning : ∀ rest, s.phase ≠ .returning rest) (idle : s.phase ≠ .idle) : Settling o s where
  loaded := loaded
  checking phase := absurd phase checking
  returning phase := absurd phase (returning _)
  idle phase := absurd phase idle

theorem of_checking (phase : s.phase = .checking)
    (outcome : o = some .signalled ∨ o = some .delivered) : Settling o s where
  loaded := by simp [phase, Phase.Loaded]
  checking _ := outcome
  returning other := by simp [phase] at other
  idle other := by simp [phase] at other

theorem of_returning (phase : s.phase = .returning rest)
    (outcome : o = some (.failed returned abandoned))
    (work : 0 < returned + abandoned + rest.length) (spent : s.queue.held = [] → returned = 0) :
    Settling o s where
  loaded := by simp [phase, Phase.Loaded]
  checking other := by simp [phase] at other
  returning same := by
    rw [phase] at same
    cases same
    exact ⟨returned, abandoned, outcome, work, spent⟩
  idle other := by simp [phase] at other

theorem of_idle (phase : s.phase = .idle)
    (lost : s.mode = .draining → s.queue.held = [] → ∃ lost, o = some lost ∧ lost.Lost) :
    Settling o s where
  loaded := by simp [phase, Phase.Loaded]
  checking other := by simp [phase] at other
  returning other := by simp [phase] at other
  idle _ := lost

theorem lost (settling : Settling o s) (phase : s.phase = .returning [])
    (empty : s.queue.held = []) : ∃ lost, o = some lost ∧ lost.Lost := by
  obtain ⟨returned, abandoned, rfl, work, spent⟩ := settling.returning phase
  refine ⟨_, rfl, abandoned - 1, ?_⟩
  cases spent empty
  rw [List.length_nil] at work
  congr 1
  omega

theorem move (settling : Settling o s) (move : Move now s e effects t) :
    Settling (Outcome.note o ⟨s, now, e, effects, t⟩) t := by
  by_cases sends : e.isSend = true
  · rw [Outcome.note_of_isSend sends]
    obtain ⟨q, rfl, ⟨b, -, fed⟩ | ⟨-, same⟩⟩ := move.send sends
    · exact settling.send fun empty => absurd empty fed
    · exact settling.send fun empty => same ▸ empty
  have loaded := settling.loaded
  cases move with
  | signalIdle phase => exact of_checking rfl (.inl rfl)
  | signalWaiting phase =>
    exact of_loaded (by simpa [phase, Phase.Loaded] using loaded) nofun nofun nofun
  | force => exact of_loaded trivial nofun nofun nofun
  | hangUp => exact ⟨loaded, settling.checking, settling.returning, settling.idle⟩
  | take phase => exact of_loaded trivial nofun nofun nofun
  | merge phase => exact of_loaded (by simp [Phase.Loaded]) nofun nofun nofun
  | alone phase => exact of_loaded (by simp [Phase.Loaded]) nofun nofun nofun
  | choose phase | elapse phase =>
    exact of_loaded (by simpa [phase, Phase.Loaded] using loaded) nofun nofun nofun
  | deliver phase => exact of_checking rfl (.inr rfl)
  | @fail cycle phase =>
    -- The cycle was not empty, so there is a batch to put back or to give up.
    have nonempty : cycle ≠ [] := by simpa [phase, Phase.Loaded] using loaded
    have work := List.length_pos_iff.mpr nonempty
    exact of_returning rfl rfl (by omega) fun _ => rfl
  | overflow => exact of_loaded trivial nofun nofun nofun
  | abandon phase =>
    obtain ⟨returned, abandoned, rfl, work, spent⟩ := settling.returning phase
    exact of_returning rfl rfl (by omega) spent
  | giveBack phase =>
    obtain ⟨returned, abandoned, rfl, work, spent⟩ := settling.returning phase
    exact of_returning rfl rfl (by omega) fun empty => absurd empty Queue.held_giveBack_ne_nil
  | goOn phase => exact of_idle rfl fun _ empty => settling.lost phase empty
  | finish => exact of_loaded trivial nofun nofun nofun
  | resume phase more =>
    exact of_idle rfl fun draining empty => absurd ⟨draining, by simpa using empty⟩ more
  | _ => simp [Event.isSend] at sends

theorem of_run (run : Run (.start settings offset queue) h s) : Settling (Outcome.of h) s := by
  apply run.invariant
  · exact of_idle rfl nofun
  · intro h t now e effects u run settling move
    rw [Outcome.of_append]
    exact settling.move move

end Settling

theorem waits_on_step (idle : s.phase = .idle) (draining : s.mode = .draining)
    (empty : s.queue.held = []) (move : Move now s e effects t)
    (quiet : effects.filterMap Effect.accepted? = []) :
    (t.phase = .idle ∧ t.mode = .draining ∧ t.queue.held = [] ∧ e ≠ .signal) ∨
      (t.phase = .stopped (.error .forcedTermination) ∧ e = .signal) := by
  by_cases sends : e.isSend = true
  · obtain ⟨q, rfl, ⟨b, rfl, -⟩ | ⟨-, same⟩⟩ := move.send sends
    · cases quiet
    · exact .inl ⟨idle, draining, same.trans empty, by rintro rfl; cases sends⟩
  cases move with
  | force => exact .inr ⟨rfl, rfl⟩
  | hangUp => exact .inl ⟨idle, draining, empty, nofun⟩
  | take phase found => simp [Queue.held_take? found] at empty
  | _ => simp_all [Event.isSend]

theorem waits_on (idle : s.phase = .idle) (draining : s.mode = .draining)
    (empty : s.queue.held = []) (run : Run s h t) (quiet : h.accepted = []) :
    (t.phase = .idle ∧ t.mode = .draining ∧ t.queue.held = [] ∧ h.signals = 0) ∨
      (t.phase = .stopped (.error .forcedTermination) ∧ h.signals = 1) := by
  induction run with
  | nil => exact .inl ⟨idle, draining, empty, rfl⟩
  | @step h t now e u effects run made ih =>
    have move := move_of_step made
    rw [History.accepted_append, List.append_eq_nil_iff] at quiet
    rcases ih quiet.1 with ⟨idle, draining, empty, signals⟩ | ⟨forced, signals⟩
    · rcases waits_on_step idle draining empty move (by simpa using quiet.2) with
        ⟨idle, draining, empty, other⟩ | ⟨forced, rfl⟩
      · refine .inl ⟨idle, draining, empty, ?_⟩
        rw [History.signals_append, signals, History.signals_of_ne other]
      · refine .inr ⟨forced, ?_⟩
        rw [History.signals_append, signals]
        rfl
    · obtain ⟨-, other, phase, -⟩ := move.refused (by simp [Scheduler.ended, forced])
      refine .inr ⟨phase.trans forced, ?_⟩
      rw [History.signals_append, signals, History.signals_of_ne other]

/-- When a scheduler ends that drains its queue. Once a post has been handled and nothing is left,
the next thing it does is to end, except after a failed post of which nothing was put back. It waits
with nothing left only after such a post, and then until a further batch is accepted or a further
signal ends it by force. -/
structure Drains (h : History) (s : Scheduler) : Prop where
  settled : s.phase.Settled → s.mode = .draining → s.queue.held = [] →
    ∃ o, Outcome.of h = some o ∧ ∀ now, ∃ e t, s.next? now = some e ∧
      s.step now e = some (t, []) ∧ (t.phase = .stopped (.ok ()) ↔ ¬o.Lost) ∧
      (t.phase = .idle ↔ o.Lost)
  idle : s.phase = .idle → s.mode = .draining → s.queue.held = [] →
    ∃ o, Outcome.of h = some o ∧ o.Lost
  waits : s.phase = .idle → s.mode = .draining → s.queue.held = [] →
    ∀ {k u}, Run s k u → k.accepted = [] →
      (u.phase = .idle ∧ u.mode = .draining ∧ u.queue.held = [] ∧ k.signals = 0) ∨
        (u.phase = .stopped (.error .forcedTermination) ∧ k.signals = 1)

theorem drained_scheduler_ends_unless_lost (run : Run (.start settings offset queue) h s) :
    Drains h s where
  settled handled draining empty := by
    have settling := Settling.of_run run
    rcases Phase.settled_cases handled with phase | phase
    · have kept : ∃ o, Outcome.of h = some o ∧ ¬o.Lost := by
        rcases settling.checking phase with outcome | outcome
        · exact ⟨_, outcome, nofun⟩
        · exact ⟨_, outcome, nofun⟩
      obtain ⟨o, outcome, kept⟩ := kept
      refine ⟨o, outcome, fun now => ⟨.check, { s with phase := .stopped (.ok ()) }, ?_, ?_, ?_⟩⟩
      · simp [Scheduler.next?, phase]
      · simp [Scheduler.step, Scheduler.stepSelf, phase, draining, empty]
      · simp [kept]
    · obtain ⟨o, outcome, lost⟩ := settling.lost phase empty
      refine ⟨o, outcome, fun now => ⟨.giveBack, { s with phase := .idle }, ?_, ?_, ?_⟩⟩
      · simp [Scheduler.next?, phase]
      · simp [Scheduler.step, Scheduler.stepSelf, phase]
      · simp [lost]
  idle := (Settling.of_run run).idle
  waits idle draining empty _ _ := waits_on idle draining empty

theorem trial_that_lost_its_batch_drains : ∃ h s, Run Scheduler.trial h s ∧ s.phase = .idle ∧
    s.mode = .draining ∧ s.queue.held = [] ∧ Drains h s := by
  obtain ⟨h, s, run, seen⟩ := Run.of_play Scheduler.trial (Scheduler.atOnce [
    .offer Scheduler.reading, .take, .merge, .choose, .elapse, .reply false, .giveBack, .giveBack,
    .take, .merge, .choose, .signal, .reply false, .giveBack, .giveBack])
    (fun r => (r.2.phase, r.2.mode, r.2.queue.held)) rfl
  simp only [Prod.mk.injEq] at seen
  exact ⟨h, s, run, seen.1, seen.2.1, seen.2.2, drained_scheduler_ends_unless_lost run⟩

/-- A scheduler that has drained its queue, and does not end. -/
theorem trial_that_lost_its_batch_waits : ∃ h s t, Run Scheduler.trial h s ∧ s.phase.Settled ∧
    s.mode = .draining ∧ s.queue.held = [] ∧ s.next? ⟨0, .epoch⟩ = some .giveBack ∧
    s.step ⟨0, .epoch⟩ .giveBack = some (t, []) ∧ t.phase = .idle ∧ t.mode = .draining ∧
    t.queue.held = [] := by
  obtain ⟨h, s, run, seen⟩ := Run.of_play Scheduler.trial (Scheduler.atOnce [
    .offer Scheduler.reading, .take, .merge, .choose, .elapse, .reply false, .giveBack, .giveBack,
    .take, .merge, .choose, .signal, .reply false, .giveBack])
    (fun r => (r.2.phase, r.2.mode, r.2.queue.held)) rfl
  simp only [Prod.mk.injEq] at seen
  obtain ⟨phase, draining, empty⟩ := seen
  refine ⟨h, s, { s with phase := .idle }, run, ?_, draining, empty, ?_, ?_, rfl, draining, empty⟩
  · simp [phase, Phase.Settled]
  · simp [Scheduler.next?, phase]
  · simp [Scheduler.step, Scheduler.stepSelf, phase]

end HostMonitor.Posting
