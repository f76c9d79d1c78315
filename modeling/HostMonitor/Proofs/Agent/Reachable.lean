import HostMonitor.Proofs.Agent.Calls

namespace HostMonitor.Agent

open Posting (Pipeline Queue)

/-- The scheduler is done, or has never begun, and the agent comes to a good end. -/
def Phase.leaving : Phase → Prop
  | .joining | .parting | .finished (.ok _) => True
  | _ => False

variable {now : Moment} {a b : Agent} {e : Event} {effects : List Effect} {h : History}

theorem Move.ofPipeline (move : Move now a e effects b) : b.pipeline = a.pipeline ∨
    ∃ f shown, a.pipeline.step now f = some (b.pipeline, shown) := by
  cases move with
  | pipeline running allowed stepped => exact .inr ⟨_, _, stepped⟩
  | stopIngestor running ready stepped => exact .inr ⟨_, _, stepped⟩
  | signal phase heard stepped | hangScheduler phase heard stepped => exact .inr ⟨_, _, stepped⟩
  | _ => exact .inl rfl

theorem Run.ofPipeline (run : Run a h b) : ∃ k, Pipeline.Run a.pipeline k b.pipeline := by
  induction run with
  | nil => exact ⟨[], .nil⟩
  | step _ made ih =>
    obtain ⟨k, before⟩ := ih
    rcases (move_of_step made).ofPipeline with same | ⟨f, shown, stepped⟩
    · exact ⟨k, same ▸ before⟩
    · exact ⟨_, before.step stepped⟩

theorem Move.scheduler_still (move : Move now a e effects b) (phase : a.phase ≠ .posting) :
    b.pipeline.scheduler.phase = a.pipeline.scheduler.phase ∧
      effects.filterMap (Effect.call? .scheduler) = [] := by
  cases move with
  | @pipeline f p shown running allowed stepped =>
    have other : ∀ g, f ≠ .schedule g := by
      rintro g rfl
      cases g <;> cases current : a.phase <;> simp_all [allows, isPosting]
    obtain ⟨same, -, silent⟩ := (Pipeline.move_of_step stepped).aside other
    exact ⟨same, by rw [calls_of_pipeline, if_pos rfl, silent]; rfl⟩
  | stopIngestor running ready stepped =>
    exact ⟨((Pipeline.move_of_step stepped).aside nofun).1, rfl⟩
  | signal posting | hangScheduler posting => exact absurd posting phase
  | refresh => exact ⟨rfl, by rw [calls_of_refresher, if_neg nofun]⟩
  | watch => exact ⟨rfl, by rw [calls_of_checks, if_neg nofun]⟩
  | _ => exact ⟨rfl, rfl⟩

theorem Move.owner (move : Move now a e effects b) :
    b.hostId = a.hostId ∧ b.onStop = a.onStop ∧
      b.fanout.consumers.length = a.fanout.consumers.length := by
  cases move with
  | relay => exact ⟨rfl, rfl, Shutdown.Fanout.length_broadcast⟩
  | stopRefresher | stopIngestor | discard | stopDiscarding | stopChecks | stopEarly | signal
  | hangScheduler => exact ⟨rfl, rfl, Shutdown.Fanout.length_receive⟩
  | _ => exact ⟨rfl, rfl, rfl⟩

theorem isOver_raise (q : Shutdown.Quit) : q.raise.isOver = true := by
  unfold Shutdown.Quit.raise
  split
  · next orphaned => simp [Shutdown.Quit.isOver, orphaned]
  · rfl

theorem Move.of_staggering (move : Move now a e effects b) (phase : b.phase = .staggering t) :
    a.phase = .staggering t := by
  cases move <;> first | exact phase | cases phase

theorem Move.of_joining (move : Move now a e effects b) (phase : b.phase = .joining) :
    (a.phase = .joining ∧ b.quit = a.quit) ∨ b.quit = a.quit.raise := by
  cases move <;> first | exact .inr rfl | exact .inl ⟨phase, rfl⟩ | cases phase

theorem Move.of_error (move : Move now a e effects b) (phase : b.phase = .finished (.error f)) :
    a.phase = .finished (.error f) ∨ a.pipeline.scheduler.phase = .stopped (.error f) := by
  cases move with
  | force posting result =>
    cases phase
    exact .inr result
  | _ => first | exact .inl phase | cases phase

theorem Move.of_leaving (move : Move now a e effects b) (leaving : b.phase.leaving) :
    a.phase.leaving ∨ (∃ t, a.phase = .staggering t) ∨
      (a.pipeline.scheduler.phase = .stopped (.ok ()) ∧ b.pipeline = a.pipeline) := by
  cases move with
  | conclude posting result => exact .inr (.inr ⟨result, rfl⟩)
  | stopEarly phase => exact .inr (.inl ⟨_, phase⟩)
  | join phase | part phase | reply phase => exact .inl (by rw [phase]; trivial)
  | begin | force | burst => cases leaving
  | _ => exact .inl leaving

theorem not_posting_of_leaving (leaving : a.phase.leaving) : a.phase ≠ .posting := by
  intro phase
  rw [phase] at leaving
  cases leaving

structure Sound (a : Agent) : Prop where
  consumers : a.fanout.consumers.length = 4
  waiting : a.pipeline.scheduler.queue.waiting = a.pipeline.ingestor.phase.sending?.toList
  result : ∀ f, a.pipeline.scheduler.phase = .stopped (.error f) → f = .forcedTermination
  unbegun : ∀ t, a.phase = .staggering t → a.pipeline.scheduler.phase = .idle
  done : a.phase.leaving →
    a.pipeline.scheduler.phase = .idle ∨ a.pipeline.scheduler.phase = .stopped (.ok ())
  forced : ∀ f, a.phase = .finished (.error f) → f = .forcedTermination
  quit : a.phase = .joining → a.quit.isOver = true

section

variable {began : Nat} {c : Config} {host : Host.Record} {customHosts : Posting.CustomHosts}
  {intervals : List Nat} {queue : Queue}

theorem tracked_of_run (built : c.queue? = some queue)
    (run : Run (start began c host customHosts intervals queue) h a) :
    a.pipeline.scheduler.queue.waiting = a.pipeline.ingestor.phase.sending?.toList ∧
      ∀ f, a.pipeline.scheduler.phase = .stopped (.error f) → f = .forcedTermination := by
  obtain ⟨-, alone, -⟩ := Queue.empty_of_ofCapacity? built
  obtain ⟨k, alongside⟩ := run.ofPipeline
  obtain ⟨l, scheduled, tracked⟩ := Pipeline.tracked_of_run Pipeline.producing?_spawn alone alongside
  refine ⟨tracked.waiting, fun f error => ?_⟩
  rcases scheduled.ends (by simp [Posting.Scheduler.ended, error]) with ⟨ok, -⟩ | ⟨forced, -⟩ |
    overflown
  · simp [error] at ok
  · simpa [error] using forced
  · simp [error] at overflown

theorem sound_of_run (built : c.queue? = some queue)
    (run : Run (start began c host customHosts intervals queue) h a) : Sound a := by
  have tracked := tracked_of_run built run
  induction run with
  | nil =>
    exact {
      consumers := rfl, waiting := tracked.1, result := tracked.2, unbegun := fun _ _ => rfl,
      done := nofun, forced := nofun, quit := nofun }
  | step run made ih =>
    have move := move_of_step made
    have ih := ih (tracked_of_run built run)
    -- Outside of its phase the scheduler stands still, so that what it came to stays.
    refine {
      consumers := move.owner.2.2.trans ih.consumers, waiting := tracked.1, result := tracked.2,
      unbegun := fun t phase => ?_, done := fun leaving => ?_, forced := fun f phase => ?_,
      quit := fun phase => ?_ }
    · have before := move.of_staggering phase
      rw [(move.scheduler_still (by simp [before])).1]
      exact ih.unbegun t before
    · rcases move.of_leaving leaving with before | ⟨t, before⟩ | ⟨ok, same⟩
      · rw [(move.scheduler_still (not_posting_of_leaving before)).1]
        exact ih.done before
      · rw [(move.scheduler_still (by simp [before])).1]
        exact .inl (ih.unbegun t before)
      · rw [same]
        exact .inr ok
    · rcases move.of_error phase with before | error
      · exact ih.forced f before
      · exact ih.result f error
    · rcases move.of_joining phase with ⟨before, same⟩ | raised
      · rw [same]
        exact ih.quit before
      · rw [raised]
        exact isOver_raise _

end

end HostMonitor.Agent
