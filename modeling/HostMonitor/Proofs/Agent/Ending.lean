import HostMonitor.Agent.Scene
import HostMonitor.Proofs.Agent.Joining
import HostMonitor.Proofs.Agent.Signals

namespace HostMonitor.Agent

variable {now : Moment} {a b : Agent} {e : Event} {effects : List Effect} {h k : History}

def farewell (a : Agent) : List Service.Call :=
  match a.phase with
  | .parting | .finished (.ok _) => a.onStop.toList.map (.updateHostStatus a.hostId)
  | _ => []

theorem Move.farewell_of_ne (move : Move now a e effects b) (other : e ≠ .join) :
    effects.filterMap (Effect.call? .agent) = [] := by
  cases move with
  | part => exact absurd rfl other
  | refresh => rw [calls_of_refresher, if_neg nofun]
  | pipeline | signal | hangScheduler => rw [calls_of_pipeline, if_neg nofun]
  | watch => rw [calls_of_checks, if_neg nofun]
  | _ => rfl

theorem Move.farewell (move : Move now a e effects b) :
    b.farewell = a.farewell ++ effects.filterMap (Effect.call? .agent) := by
  by_cases join : e = .join
  · subst join
    cases move with
    | join phase quiet onStop => simp [Agent.farewell, phase, onStop]
    | part phase quiet onStop => simp [Agent.farewell, phase, onStop, Effect.call?]
  · rw [move.farewell_of_ne join, List.append_nil]
    cases move with
    | join | part => exact absurd rfl join
    | begin phase | conclude phase | force phase | burst phase | reply phase | stopEarly phase =>
      simp [Agent.farewell, phase]
    | _ => rfl

theorem Move.parts (move : Move now a e effects b)
    (calls : effects.filterMap (Effect.call? .agent) ≠ []) :
    a.phase = .joining ∧ a.isQuiet = true ∧ b.phase = .parting := by
  by_cases join : e = .join
  · subst join
    cases move with
    | join => exact absurd rfl calls
    | part phase quiet => exact ⟨phase, quiet, rfl⟩
  · exact absurd (move.farewell_of_ne join) calls

theorem outstanding_of_quiet (sound : Sound a) (joining : a.phase = .joining)
    (quiet : a.isQuiet = true) (c : Caller) : a.outstanding c = 0 := by
  simp only [isQuiet, Bool.and_eq_true, decide_eq_true_eq] at quiet
  obtain ⟨⟨⟨⟨refresher, -⟩, -⟩, checks⟩, -⟩ := quiet
  cases c with
  | refresher => simp [outstanding, Host.Refresher.isUpdating, refresher]
  | scheduler =>
    rcases sound.done (by rw [joining]; trivial) with phase | phase <;>
      simp [outstanding, Posting.Scheduler.isPosting, phase]
  | checks =>
    cases present : a.checks with
    | absent => simp [outstanding, present]
    | present w =>
      simp only [present, Checks.isStopped, Bool.and_eq_true, Check.Aggregator.isStopped_iff]
        at checks
      simp [outstanding, present, checks.1, Check.Aggregator.Phase.outstanding]
  | agent => simp [outstanding, joining]

theorem Move.after (move : Move now a e effects b) (idle : a.isRunning = false) :
    effects = [] ∧ (b.phase = a.phase ∨ (a.phase = .parting ∧ b.phase = .finished (.ok ()))) := by
  cases move with
  | terminate | hangUp => exact ⟨rfl, .inl rfl⟩
  | reply phase => exact ⟨rfl, .inr ⟨phase, rfl⟩⟩
  | begin phase | conclude phase | force phase | burst phase | join phase | part phase
  | stopEarly phase | signal phase | hangScheduler phase => simp [isRunning, phase] at idle
  | relay running | closeFanout running | refresh running | pipeline running | watch running
  | stopRefresher running | stopIngestor running | discard running | stopDiscarding running
  | stopChecks running => simp [idle] at running

theorem Run.after (run : Run a h b) (idle : a.isRunning = false) : h.effects = [] := by
  refine (run.keeps (P := fun h b => h.effects = [] ∧ b.isRunning = false) ⟨rfl, idle⟩ ?_).1
  intro h now a e effects b ⟨silent, idle⟩ move
  obtain ⟨quiet, same | ⟨-, finished⟩⟩ := move.after idle
  · exact ⟨by simp [silent, quiet], by simpa [isRunning, same] using idle⟩
  · exact ⟨by simp [silent, quiet], by simp [isRunning, finished]⟩

/-- At the end, forced or not, every task stops where it is. All that can come are signals from
outside, which nobody receives. -/
theorem Move.over (move : Move now a e effects b) (ended : a.isOver = true) :
    (e = .terminate ∨ e = .hangUp) ∧ effects = [] ∧ b = { a with external := b.external } := by
  cases move with
  | terminate => exact ⟨.inl rfl, rfl, rfl⟩
  | hangUp => exact ⟨.inr rfl, rfl, rfl⟩
  | begin phase | conclude phase | force phase | burst phase | join phase | part phase
  | reply phase | stopEarly phase | signal phase | hangScheduler phase =>
    simp [isOver, phase] at ended
  | relay running | closeFanout running | refresh running | pipeline running | watch running
  | stopRefresher running | stopIngestor running | discard running | stopDiscarding running
  | stopChecks running => cases phase : a.phase <;> simp [isOver, isRunning, phase] at ended running

theorem Run.over (run : Run a h b) (ended : a.isOver = true) :
    (∀ x ∈ h, x.event = .terminate ∨ x.event = .hangUp) ∧
      b = { a with external := b.external } := by
  induction run with
  | nil => exact ⟨by simp, rfl⟩
  | step _ made ih =>
    obtain ⟨outside, same⟩ := ih
    obtain ⟨event, -, still⟩ := (move_of_step made).over (by rw [same]; exact ended)
    refine ⟨List.forall_mem_append.mpr ⟨outside, by simpa using event⟩, ?_⟩
    rw [still, same]

theorem Move.answered (move : Move now a (.reply accepted) effects b) :
    a.phase = .parting ∧ b.phase = .finished (.ok ()) := by
  cases move with
  | reply phase => exact ⟨phase, rfl⟩

theorem Move.leaving (move : Move now a e effects b) (leaving : a.phase.leaving) :
    b.phase.leaving := by
  cases move with
  | begin phase | force phase | burst phase => rw [phase] at leaving; cases leaving
  | conclude | join | part | reply | stopEarly => trivial
  | _ => exact leaving

theorem Run.leaving (run : Run a h b) (leaving : a.phase.leaving) :
    b.phase.leaving ∧ h.callsOf .scheduler = [] := by
  refine run.keeps (P := fun h b => b.phase.leaving ∧ h.callsOf .scheduler = []) ⟨leaving, rfl⟩ ?_
  intro h now a e effects b ⟨leaving, unposted⟩ move
  have silent := (move.scheduler_still (not_posting_of_leaving leaving)).2
  exact ⟨move.leaving leaving, by simp [unposted, silent]⟩

theorem Run.staggering (run : Run a h b) (phase : b.phase = .staggering t) :
    a.phase = .staggering t ∧ h.callsOf .scheduler = [] := by
  induction run with
  | nil => exact ⟨phase, rfl⟩
  | step run made ih =>
    have move := move_of_step made
    obtain ⟨began, unposted⟩ := ih (move.of_staggering phase)
    have silent := (move.scheduler_still (by simp [move.of_staggering phase])).2
    exact ⟨began, by simp [unposted, silent]⟩

theorem Move.early (move : Move now a (.receive .scheduler) effects b)
    (phase : a.phase = .staggering t) : b.phase = .joining := by
  cases move with
  | stopEarly => rfl
  | signal posting | hangScheduler posting => simp [phase] at posting

/-- With these answers to the calls that are awaited the agent can come to a good end while no time
passes. -/
def Concludes (now : Moment) (answers : Answers) (a : Agent) : Prop :=
  ∃ k b, Run a k b ∧ b.phase = .finished (.ok ()) ∧
    ∀ x ∈ k, x.now = now ∧ (x.event.isOwn = true ∨ x.event = .join ∨ x.event.Returns answers)

namespace Concludes

variable {answers : Answers}

theorem of_finished (phase : a.phase = .finished (.ok ())) : Concludes now answers a :=
  ⟨[], a, .nil, phase, by simp⟩

theorem after (rest : Concludes now answers b) (run : Run a h b) (prompt : ∀ x ∈ h,
      x.now = now ∧ (x.event.isOwn = true ∨ x.event = .join ∨ x.event.Returns answers)) :
    Concludes now answers a := by
  obtain ⟨k, d, rest, finished, later⟩ := rest
  exact ⟨h ++ k, d, run.append rest, finished, List.forall_mem_append.mpr ⟨prompt, later⟩⟩

theorem of_move (move : Move now a e effects b) (rest : Concludes now answers b)
    (kind : e.isOwn = true ∨ e = .join ∨ e.Returns answers) : Concludes now answers a :=
  rest.after (.single (step_of_move move)) (by simpa using kind)

theorem of_parting (phase : a.phase = .parting) : Concludes now answers a :=
  of_move (.reply phase) (of_finished rfl) (.inr (.inr .parted))

theorem of_quiet (phase : a.phase = .joining) (quiet : a.isQuiet = true) :
    Concludes now answers a := by
  cases onStop : a.onStop with
  | none => exact of_move (.join phase quiet onStop) (of_finished rfl) (.inr (.inl rfl))
  | some status => exact of_move (.part phase quiet onStop) (of_parting rfl) (.inr (.inl rfl))

end Concludes

section

variable {began : Nat} {c : Config} {host : Host.Record} {customHosts : Posting.CustomHosts}
  {intervals : List Nat} {queue : Posting.Queue}

theorem owner_of_run (run : Run (start began c host customHosts intervals queue) h a) :
    a.hostId = host.id ∧ a.onStop = c.onStop := by
  refine run.keeps (P := fun _ a => a.hostId = host.id ∧ a.onStop = c.onStop) ⟨rfl, rfl⟩ ?_
  intro h now a e effects b ⟨hostId, onStop⟩ move
  obtain ⟨sameId, same, -⟩ := move.owner
  exact ⟨sameId.trans hostId, same.trans onStop⟩

theorem farewell_of_run (run : Run (start began c host customHosts intervals queue) h a) :
    h.callsOf .agent = a.farewell := by
  refine run.keeps (P := fun h a => h.callsOf .agent = a.farewell) rfl ?_
  intro h now a e effects b ih move
  simp [move.farewell, ih]

theorem last_of_run (built : c.queue? = some queue) {x : Transition} (run :
      Run (start began c host customHosts intervals queue) (h ++ x :: k) a)
    (calls : x.effects.filterMap (Effect.call? .agent) ≠ []) :
    (∀ caller, (h.callsOf caller).length = h.ended caller) ∧ k.effects = [] := by
  obtain ⟨before, made, rest⟩ := run.parts
  obtain ⟨joining, quiet, parting⟩ := (move_of_step made).parts calls
  refine ⟨fun caller => ?_, Run.after rest (by simp [isRunning, parting])⟩
  have count := Run.calls before caller
  have begun : (start began c host customHosts intervals queue).outstanding caller = 0 := by
    cases caller with
    | checks => cases intervals <;> rfl
    | _ => rfl
  rw [begun, outstanding_of_quiet (sound_of_run built before) joining quiet] at count
  exact count

theorem concludes_of_leaving (built : c.queue? = some queue)
    (run : Run (start began c host customHosts intervals queue) h a) (leaving : a.phase.leaving)
    (now : Moment) (answers : Answers) : Concludes now answers a := by
  cases phase : a.phase with
  | staggering | posting | overflown => rw [phase] at leaving; cases leaving
  | finished result =>
    cases result with
    | error => rw [phase] at leaving; cases leaving
    | ok => exact .of_finished phase
  | parting => exact .of_parting phase
  | joining =>
    obtain ⟨k, b, settled, joining, quiet, prompt⟩ := settles built run phase now answers
    exact (Concludes.of_quiet joining quiet).after settled fun x hx =>
      (prompt x hx).imp_right (Or.imp_right .inr)

theorem early_of_run (run : Run (start began c host customHosts intervals queue) h a)
    {x : Transition} (hx : x ∈ h) (signalled : x.event = .receive .scheduler)
    (phase : x.source.phase = .staggering t) : h.callsOf .scheduler = [] ∧ a.phase.leaving := by
  obtain ⟨h₁, h₂, rfl⟩ := List.append_of_mem hx
  obtain ⟨before, made, rest⟩ := run.parts
  have move := move_of_step made
  have silent := (move.scheduler_still (by simp [phase])).2
  rw [signalled] at move
  have leaving : x.target.phase.leaving := by rw [move.early phase]; trivial
  obtain ⟨left, unposted⟩ := Run.leaving rest leaving
  exact ⟨by simp [(Run.staggering before phase).2, silent, unposted], left⟩

/-- How a run of the agent comes to its end. -/
structure Orderly (began : Nat) (c : Config) (host : Host.Record) (h : History) (a : Agent) :
    Prop where
  ok : ∀ u, a.phase = .finished (.ok u) → 1 ≤ h.terminations ∧
    h.callsOf .agent = c.onStop.toList.map (.updateHostStatus host.id)
  /-- Any other end is a forced one, after two signals. It leaves the status alone. -/
  error : ∀ f, a.phase = .finished (.error f) → f = .forcedTermination ∧ 2 ≤ h.terminations ∧
    h.callsOf .agent = []
  final : ∀ x ∈ h, x.source.isOver = true → x.effects = [] ∧ x.target.phase = x.source.phase
  /-- No task takes a step any more, wherever the end has met it. -/
  aborted : a.isOver = true → ∀ k b, Run a k b →
    (∀ x ∈ k, x.event = .terminate ∨ x.event = .hangUp) ∧ b = { a with external := b.external }
  /-- The status is set when every other call has ended, and no call follows. -/
  last : ∀ {h₁ h₂ : History} {x : Transition}, h = h₁ ++ x :: h₂ →
    ∀ call, .calls .agent call ∈ x.effects →
      (∀ caller, (h₁.callsOf caller).length = h₁.ended caller) ∧ h₂.effects = []
  answered : ∀ x ∈ h, ∀ accepted, x.event = .reply accepted →
    x.source.phase = .parting ∧ x.target.phase = .finished (.ok ())
  stagger : ∀ t, a.phase = .staggering t →
    t = began + (Posting.offset host.id c.settings.interval).half.millis
  early : ∀ x ∈ h, x.event = .receive .scheduler → ∀ t, x.source.phase = .staggering t →
    h.callsOf .scheduler = [] ∧ a.phase.leaving
  ends : a.phase.leaving → ∀ now answers, Concludes now answers a

theorem agent_ends_orderly (built : c.queue? = some queue)
    (run : Run (start began c host customHosts intervals queue) h a) :
    Orderly began c host h a where
  ok u phase := by
    have signals := run.signals_le
    obtain ⟨hostId, onStop⟩ := owner_of_run run
    refine ⟨by simp only [signalsHeard, phase] at signals; omega, ?_⟩
    rw [farewell_of_run run]
    simp [farewell, phase, hostId, onStop]
  error f phase := by
    have signals := run.signals_le
    refine ⟨(sound_of_run built run).forced f phase, ?_, ?_⟩
    · simp only [signalsHeard, phase] at signals
      omega
    · rw [farewell_of_run run]
      simp [farewell, phase]
  final x hx ended := by
    obtain ⟨-, silent, same⟩ := (move_of_step (run.made hx)).over ended
    exact ⟨silent, by rw [same]⟩
  aborted ended _ _ rest := rest.over ended
  last parts call made := by
    subst parts
    refine last_of_run built run (List.ne_nil_of_mem (a := call) ?_)
    exact List.mem_filterMap.mpr ⟨_, made, by simp [Effect.call?]⟩
  answered x hx accepted reply := by
    have move := move_of_step (run.made hx)
    rw [reply] at move
    exact move.answered
  stagger t phase := by
    have same := (Run.staggering run phase).1
    cases same
    rfl
  early x hx signalled t phase := early_of_run run hx signalled phase
  ends := concludes_of_leaving built run

end

set_option maxRecDepth 4000 in
theorem trial_ends_orderly :
    (∃ h a, Run trialStart h a ∧ a.phase = .finished (.ok ()) ∧
      h.effects = [.calls .checks (.reportChecks "agent" [Check.Watch.disk]),
        .calls .agent (.updateHostStatus "agent" "poweroff")] ∧
      Orderly 0 trial { id := "agent" } h a) ∧
    ∃ h a, Run trialStart h a ∧ a.phase = .finished (.error .forcedTermination) ∧
      h.effects = [.collects] ∧ Orderly 0 trial { id := "agent" } h a := by
  have built : trial.queue? = some _ := rfl
  constructor
  · obtain ⟨h, a, run, seen⟩ := Machine.Run.of_play step trialStart
      (script 500 [.refresh (.collected none), .watch (.runner 0 .tick),
        .watch (.runner 0 (.result (some Check.Watch.disk))), .watch (.forward 0), .terminate,
        .relay, .receive .scheduler, .receive .checks, .watch (.aggregator .drain),
        .watch (.aggregator .drain), .closeFanout, .receive .refresher, .receive .ingestor,
        .pipeline .quit, .watch (.aggregator (.reply true)), .watch (.escalate 0),
        .watch (.runner 0 .quit), .join, .reply false])
      (fun r => (r.2.phase, r.1.effects))
      (a := (.finished (.ok ()), [.calls .checks (.reportChecks "agent" [Check.Watch.disk]),
        .calls .agent (.updateHostStatus "agent" "poweroff")]))
      (by with_unfolding_all rfl)
    obtain ⟨phase, effects⟩ := Prod.mk.inj seen
    exact ⟨h, a, run, phase, effects, agent_ends_orderly built run⟩
  · obtain ⟨h, a, run, seen⟩ := Machine.Run.of_play step trialStart
      (script 60000 [.refresh (.collected none), .pipeline .tick,
        .pipeline (.collected findings), .pipeline .handOver, .pipeline .receive, .begin,
        .terminate, .relay, .receive .scheduler, .pipeline (.schedule .check), .terminate,
        .relay, .receive .scheduler, .conclude])
      (fun r => (r.2.phase, r.1.effects))
      (a := (.finished (.error .forcedTermination), [.collects]))
      (by with_unfolding_all rfl)
    obtain ⟨phase, effects⟩ := Prod.mk.inj seen
    exact ⟨h, a, run, phase, effects, agent_ends_orderly built run⟩

end HostMonitor.Agent
