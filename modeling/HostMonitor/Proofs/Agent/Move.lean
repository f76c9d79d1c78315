import HostMonitor.Agent
import HostMonitor.Proofs.Check.Move
import HostMonitor.Proofs.Posting.Tracking
import HostMonitor.Proofs.Shutdown.Fanout

namespace HostMonitor

open Posting (Pipeline Scheduler)

namespace Host.Refresher

variable {now : Nat} {r s : Refresher} {effects : List Effect}

theorem step_signal : r.step now .signal = some (s, effects) ↔
    ∃ t, r.phase = .resting t ∧ s = { r with phase := .stopped } ∧ effects = [] := by
  cases phase : r.phase <;> simp [step, phase, eq_comm]

end Host.Refresher

namespace Agent

def reception (a : Agent) (l : Listener) : Shutdown.Reception := (a.fanout.receive l.place).1

def served (a : Agent) (l : Listener) : Agent :=
  { a with fanout := (a.fanout.receive l.place).2 }

inductive Move (now : Moment) (a : Agent) : Event → List Effect → Agent → Prop
  | terminate : Move now a .terminate [] { a with external := a.external.send }
  | hangUp : Move now a .hangUp [] { a with external := a.external.close }
  | begin : a.phase = .staggering t → t ≤ now.uptime →
      Move now a .begin [] { a with phase := .posting }
  | conclude : a.phase = .posting → a.pipeline.scheduler.phase = .stopped (.ok u) →
      Move now a .conclude [] { a with phase := .joining, quit := a.quit.raise }
  | force : a.phase = .posting → a.pipeline.scheduler.phase = .stopped (.error f) →
      Move now a .conclude [] { a with phase := .finished (.error f), quit := a.quit.raise }
  | burst : a.phase = .posting → a.pipeline.scheduler.phase = .overflown →
      Move now a .conclude [] { a with phase := .overflown }
  | join : a.phase = .joining → a.isQuiet = true → a.onStop = none →
      Move now a .join [] { a with phase := .finished (.ok ()) }
  | part : a.phase = .joining → a.isQuiet = true → a.onStop = some status →
      Move now a .join [.calls .agent (.updateHostStatus a.hostId status)]
        { a with phase := .parting }
  | reply : a.phase = .parting →
      Move now a (.reply answer) [] { a with phase := .finished (.ok ()) }
  | relay : a.isRunning = true → a.fanout.live = true → 0 < a.external.pending →
      Move now a .relay []
        { a with external := a.external.receive, fanout := a.fanout.broadcast.1 }
  | closeFanout : a.isRunning = true → a.fanout.live = true → a.quit.isOver = true →
      Move now a .closeFanout [] { a with fanout := a.fanout.close }
  | refresh : a.isRunning = true → e ≠ .signal →
      a.refresher.step now.uptime e = some (r, shown) →
      Move now a (.refresh e) (shown.map a.shownRefresher) { a with refresher := r }
  | pipeline : a.isRunning = true → a.allows e = true → a.pipeline.step now e = some (p, shown) →
      Move now a (.pipeline e) (shown.map shownPipeline) { a with pipeline := p }
  | watch : a.isRunning = true → a.allowsWatch e = true → a.checks = .present w →
      w.step now e = some (v, shown) →
      Move now a (.watch e) (shown.filterMap a.shownChecks?) { a with checks := .present v }
  | stopRefresher : a.isRunning = true → a.reception .refresher ≠ .empty →
      a.refresher.phase = .resting t →
      Move now a (.receive .refresher) []
        { a.served .refresher with refresher := { a.refresher with phase := .stopped } }
  | stopIngestor : a.isRunning = true → a.reception .ingestor ≠ .empty →
      a.pipeline.step now .signal = some (p, []) →
      Move now a (.receive .ingestor) [] { a.served .ingestor with pipeline := p }
  | discard : a.isRunning = true → a.reception .checks = .signal → a.checks = .absent true →
      Move now a (.receive .checks) [] (a.served .checks)
  | stopDiscarding : a.isRunning = true → a.reception .checks = .closed →
      a.checks = .absent true →
      Move now a (.receive .checks) [] { a.served .checks with checks := .absent false }
  | stopChecks : a.isRunning = true → a.reception .checks ≠ .empty → a.checks = .present w →
      w.step now (.aggregator .signal) = some (v, []) →
      Move now a (.receive .checks) [] { a.served .checks with checks := .present v }
  | stopEarly : a.phase = .staggering t → a.reception .scheduler = .signal →
      Move now a (.receive .scheduler) []
        { a.served .scheduler with phase := .joining, quit := a.quit.raise }
  | signal : a.phase = .posting → a.reception .scheduler = .signal →
      a.pipeline.step now (.schedule .signal) = some (p, shown) →
      Move now a (.receive .scheduler) (shown.map shownPipeline)
        { a.served .scheduler with pipeline := p }
  | hangScheduler : a.phase = .posting → a.reception .scheduler = .closed →
      a.pipeline.step now (.schedule .hangUp) = some (p, shown) →
      Move now a (.receive .scheduler) (shown.map shownPipeline)
        { a.served .scheduler with pipeline := p }

variable {now : Moment} {a b : Agent} {e : Event} {effects : List Effect} {l : Listener}

theorem Listener.place_inj {l' : Listener} : l.place = l'.place ↔ l = l' := by
  cases l <;> cases l' <;> simp [place]

theorem holds_served {l' : Listener} (other : l ≠ l') :
    (a.served l).fanout.holds l'.place = a.fanout.holds l'.place :=
  Shutdown.Fanout.holds_receive_of_ne fun same => other (Listener.place_inj.mp same)

theorem holds_served_self : (a.served l).fanout.holds l.place = false :=
  Shutdown.Fanout.holds_receive_self

@[simp] theorem checks_served : (a.served l).checks = a.checks := rfl

@[simp] theorem phase_served : (a.served l).phase = a.phase := rfl

@[simp] theorem refresher_served : (a.served l).refresher = a.refresher := rfl

@[simp] theorem pipeline_served : (a.served l).pipeline = a.pipeline := rfl

@[simp] theorem live_served : (a.served l).fanout.live = a.fanout.live :=
  Shutdown.Fanout.live_receive

theorem stepRefresher_eq_some {f : Host.Refresher.Event} :
    a.stepRefresher now f = some (b, effects) ↔
      ∃ r shown, a.refresher.step now.uptime f = some (r, shown) ∧
        b = { a with refresher := r } ∧ effects = shown.map a.shownRefresher := by
  simp only [stepRefresher, Option.bind_eq_bind, Option.bind_eq_some_iff, Option.pure_def,
    Option.some.injEq, Prod.mk.injEq, Prod.exists]
  exact exists₂_congr fun r shown => by rw [@eq_comm _ b, @eq_comm _ effects]

theorem stepPipeline_eq_some {f : Pipeline.Event} :
    a.stepPipeline now f = some (b, effects) ↔
      ∃ p shown, a.pipeline.step now f = some (p, shown) ∧ b = { a with pipeline := p } ∧
        effects = shown.map shownPipeline := by
  simp only [stepPipeline, Option.bind_eq_bind, Option.bind_eq_some_iff, Option.pure_def,
    Option.some.injEq, Prod.mk.injEq, Prod.exists]
  exact exists₂_congr fun p shown => by rw [@eq_comm _ b, @eq_comm _ effects]

theorem stepWatch_eq_some {f : Check.Watch.Event} :
    a.stepWatch now f = some (b, effects) ↔
      ∃ w v shown, a.checks = .present w ∧ w.step now f = some (v, shown) ∧
        b = { a with checks := .present v } ∧ effects = shown.filterMap a.shownChecks? := by
  cases checks : a.checks with
  | absent => simp [stepWatch, checks]
  | present w =>
    simp only [stepWatch, checks, Option.bind_eq_bind, Option.bind_eq_some_iff, Option.pure_def,
      Option.some.injEq, Prod.mk.injEq, Prod.exists, Checks.present.injEq, exists_and_left,
      exists_eq_left']
    exact exists₂_congr fun v shown => by rw [@eq_comm _ b, @eq_comm _ effects]

theorem receive_eq : a.receive now l =
    match a.reception l with
    | .empty => none
    | r =>
      match l with
      | .refresher => (a.served l).stepRefresher now .signal
      | .ingestor => (a.served l).stepPipeline now .signal
      | .checks => (a.served l).stopChecks now r
      | .scheduler => (a.served l).stopScheduler now r := rfl

theorem receive_of_empty (empty : a.reception l = .empty) : a.receive now l = none := by
  rw [receive_eq, empty]

theorem receive_of_ready : a.reception l ≠ .empty → a.receive now l =
    match l with
    | .refresher => (a.served l).stepRefresher now .signal
    | .ingestor => (a.served l).stepPipeline now .signal
    | .checks => (a.served l).stopChecks now (a.reception l)
    | .scheduler => (a.served l).stopScheduler now (a.reception l) := by
  intro ready
  rw [receive_eq]
  cases heard : a.reception l with
  | empty => exact absurd heard ready
  | signal | closed => rfl

theorem move_of_stopChecks (running : a.isRunning = true) (ready : a.reception .checks ≠ .empty)
    (made : (a.served .checks).stopChecks now (a.reception .checks) = some (b, effects)) :
    Move now a (.receive .checks) effects b := by
  cases checks : a.checks with
  | absent listening =>
    cases listening with
    | false => simp [stopChecks, checks_served, checks] at made
    | true =>
      cases heard : a.reception .checks with
      | empty => exact absurd heard ready
      | signal =>
        simp only [stopChecks, checks_served, checks, heard] at made
        cases made
        exact .discard running heard checks
      | closed =>
        simp only [stopChecks, checks_served, checks, heard] at made
        cases made
        exact .stopDiscarding running heard checks
  | present w =>
    simp only [stopChecks, checks_served, checks] at made
    obtain ⟨w', v, shown, same, stepped, rfl, rfl⟩ := stepWatch_eq_some.mp made
    cases checks.symm.trans same
    have silent : shown = [] := by
      cases Check.Watch.move_of_step stepped with
      | aggregator own move => cases move; rfl
    subst silent
    exact .stopChecks running ready checks stepped

theorem move_of_stopScheduler (ready : a.reception .scheduler ≠ .empty)
    (made : (a.served .scheduler).stopScheduler now (a.reception .scheduler) = some (b, effects)) :
    Move now a (.receive .scheduler) effects b := by
  cases phase : a.phase with
  | staggering t =>
    cases heard : a.reception .scheduler with
    | empty => exact absurd heard ready
    | signal =>
      simp only [stopScheduler, phase_served, phase, heard] at made
      cases made
      exact .stopEarly phase heard
    | closed => simp [stopScheduler, phase_served, phase, heard] at made
  | posting =>
    cases heard : a.reception .scheduler with
    | empty => exact absurd heard ready
    | signal =>
      simp only [stopScheduler, phase_served, phase, heard] at made
      obtain ⟨p, shown, stepped, rfl, rfl⟩ := stepPipeline_eq_some.mp made
      exact .signal phase heard stepped
    | closed =>
      simp only [stopScheduler, phase_served, phase, heard] at made
      obtain ⟨p, shown, stepped, rfl, rfl⟩ := stepPipeline_eq_some.mp made
      exact .hangScheduler phase heard stepped
  | _ => simp [stopScheduler, phase_served, phase] at made

theorem move_of_receive (running : a.isRunning = true)
    (made : a.receive now l = some (b, effects)) : Move now a (.receive l) effects b := by
  by_cases empty : a.reception l = .empty
  · rw [receive_of_empty empty] at made
    cases made
  rw [receive_of_ready empty] at made
  cases l with
  | refresher =>
    obtain ⟨r, shown, stepped, rfl, rfl⟩ := stepRefresher_eq_some.mp made
    obtain ⟨t, phase, rfl, rfl⟩ := Host.Refresher.step_signal.mp stepped
    exact .stopRefresher running empty phase
  | ingestor =>
    obtain ⟨p, shown, stepped, rfl, rfl⟩ := stepPipeline_eq_some.mp made
    obtain rfl := (Pipeline.quiet_eq_some stepped).2
    exact .stopIngestor running empty stepped
  | checks => exact move_of_stopChecks running empty made
  | scheduler => exact move_of_stopScheduler empty made

theorem move_of_conclude (made : a.step now .conclude = some (b, effects)) :
    Move now a .conclude effects b := by
  simp only [step] at made
  cases phase : a.phase with
  | posting =>
    cases result : a.pipeline.scheduler.phase with
    | stopped r =>
      cases r with
      | ok => simp only [stepSelf, phase, result] at made; cases made; exact .conclude phase result
      | error => simp only [stepSelf, phase, result] at made; cases made; exact .force phase result
    | overflown =>
      simp only [stepSelf, phase, result] at made
      cases made
      exact .burst phase result
    | _ => simp [stepSelf, phase, result] at made
  | _ => simp [stepSelf, phase] at made

theorem move_of_join (made : a.step now .join = some (b, effects)) :
    Move now a .join effects b := by
  simp only [step] at made
  cases phase : a.phase with
  | joining =>
    simp only [stepSelf, phase, Option.ite_none_right_eq_some] at made
    obtain ⟨quiet, made⟩ := made
    split at made
    · next onStop => cases made; exact .join phase quiet onStop
    · next status onStop => cases made; exact .part phase quiet onStop
  | _ => simp [stepSelf, phase] at made

theorem move_of_stepTask (running : a.isRunning = true)
    (made : a.stepTask now e = some (b, effects)) : Move now a e effects b := by
  cases e with
  | relay =>
    simp only [stepTask, Option.ite_none_right_eq_some, Bool.and_eq_true, decide_eq_true_eq] at made
    obtain ⟨⟨live, pending⟩, made⟩ := made
    cases made
    exact .relay running live pending
  | closeFanout =>
    simp only [stepTask, Option.ite_none_right_eq_some, Bool.and_eq_true] at made
    obtain ⟨⟨live, raised⟩, made⟩ := made
    cases made
    exact .closeFanout running live raised
  | refresh f =>
    have other : f ≠ .signal := by
      rintro rfl
      cases made
    have made : a.stepRefresher now f = some (b, effects) := by
      cases f with
      | signal => exact absurd rfl other
      | _ => exact made
    obtain ⟨r, shown, stepped, rfl, rfl⟩ := stepRefresher_eq_some.mp made
    exact .refresh running other stepped
  | pipeline f =>
    simp only [stepTask, Option.ite_none_right_eq_some] at made
    obtain ⟨allowed, made⟩ := made
    obtain ⟨p, shown, stepped, rfl, rfl⟩ := stepPipeline_eq_some.mp made
    exact .pipeline running allowed stepped
  | watch f =>
    simp only [stepTask, Option.ite_none_right_eq_some] at made
    obtain ⟨allowed, made⟩ := made
    obtain ⟨w, v, shown, checks, stepped, rfl, rfl⟩ := stepWatch_eq_some.mp made
    exact .watch running allowed checks stepped
  | receive l => exact move_of_receive running made
  | _ => cases made

theorem move_of_step (made : a.step now e = some (b, effects)) : Move now a e effects b := by
  cases e with
  | terminate => cases made; exact .terminate
  | hangUp => cases made; exact .hangUp
  | conclude => exact move_of_conclude made
  | join => exact move_of_join made
  | begin =>
    simp only [step] at made
    cases phase : a.phase with
    | staggering t =>
      simp only [stepSelf, phase, Option.ite_none_right_eq_some] at made
      obtain ⟨due, made⟩ := made
      cases made
      exact .begin phase due
    | _ => simp [stepSelf, phase] at made
  | reply answer =>
    simp only [step] at made
    cases phase : a.phase with
    | parting => simp only [stepSelf, phase] at made; cases made; exact .reply phase
    | _ => simp [stepSelf, phase] at made
  | _ =>
    simp only [step, Option.ite_none_right_eq_some] at made
    exact move_of_stepTask made.1 made.2

theorem step_of_task (running : a.isRunning = true) (made : a.stepTask now e = some (b, effects)) :
    a.step now e = some (b, effects) := by
  cases e with
  | terminate | hangUp | begin | conclude | join | reply => cases made
  | _ => simpa only [step, running, if_true] using made

theorem step_of_move (move : Move now a e effects b) : a.step now e = some (b, effects) := by
  cases move with
  | terminate | hangUp => rfl
  | begin phase due => simp [step, stepSelf, phase, due]
  | conclude phase result | force phase result | burst phase result =>
    simp [step, stepSelf, phase, result]
  | join phase quiet onStop | part phase quiet onStop => simp [step, stepSelf, phase, quiet, onStop]
  | reply phase => simp [step, stepSelf, phase]
  | relay running live pending => exact step_of_task running (by simp [stepTask, live, pending])
  | closeFanout running live raised => exact step_of_task running (by simp [stepTask, live, raised])
  | @refresh f _ _ running other stepped =>
    have made := stepRefresher_eq_some.mpr ⟨_, _, stepped, rfl, rfl⟩
    refine step_of_task running ?_
    cases f with
    | signal => exact absurd rfl other
    | _ => exact made
  | pipeline running allowed stepped =>
    have made := stepPipeline_eq_some.mpr ⟨_, _, stepped, rfl, rfl⟩
    exact step_of_task running (by simp only [stepTask, allowed, if_true, made])
  | watch running allowed checks stepped =>
    have made := stepWatch_eq_some.mpr ⟨_, _, _, checks, stepped, rfl, rfl⟩
    exact step_of_task running (by simp only [stepTask, allowed, if_true, made])
  | stopRefresher running ready phase =>
    refine step_of_task running ((receive_of_ready ready).trans (stepRefresher_eq_some.mpr ?_))
    exact ⟨_, [], Host.Refresher.step_signal.mpr ⟨_, phase, rfl, rfl⟩, rfl, rfl⟩
  | stopIngestor running ready stepped =>
    refine step_of_task running ((receive_of_ready ready).trans (stepPipeline_eq_some.mpr ?_))
    exact ⟨_, [], stepped, rfl, rfl⟩
  | discard running heard checks | stopDiscarding running heard checks =>
    refine step_of_task running ((receive_of_ready (by simp [heard])).trans ?_)
    simp [stopChecks, heard, checks]
  | stopChecks running ready checks stepped =>
    refine step_of_task running ((receive_of_ready ready).trans ?_)
    simp only [stopChecks, checks_served, checks]
    exact stepWatch_eq_some.mpr ⟨_, _, [], checks, stepped, rfl, rfl⟩
  | stopEarly phase heard =>
    refine step_of_task (by simp [isRunning, phase])
      ((receive_of_ready (by simp [heard])).trans ?_)
    simp [stopScheduler, heard, phase, served]
  | signal phase heard stepped | hangScheduler phase heard stepped =>
    have made := (stepPipeline_eq_some (a := a.served .scheduler)).mpr ⟨_, _, stepped, rfl, rfl⟩
    refine step_of_task (by simp [isRunning, phase])
      ((receive_of_ready (by simp [heard])).trans (Eq.trans ?_ made))
    simp only [stopScheduler, heard, phase_served, phase]

abbrev Transition : Type := Machine.Transition Agent Event Effect

abbrev History : Type := Machine.History Agent Event Effect

abbrev Run : Agent → History → Agent → Prop := Machine.Run step

theorem Run.keeps {P : History → Agent → Prop} {h : History} (run : Run a h b) (start : P [] a)
    (keep : ∀ {h now a e effects b}, P h a → Move now a e effects b →
      P (h ++ [⟨a, now, e, effects, b⟩]) b) : P h b :=
  run.invariant start fun _ held made => keep held (move_of_step made)

def trial : Config where
  apiBase := "https://api.mackerelio.com"
  apiKey := "key"
  root := "/var/lib/hostpulse"
  displayName := none
  roles := []
  verbose := false
  metricsInterval := 1
  postInterval := 60
  specInterval := 3600
  reportInterval := 60
  connection := { bufferSize := 1 }
  onStart := none
  onStop := some "poweroff"
  ignore := none
  checks := []

theorem length_no_batches : ([] : List Metric.Batch).length ≤ 1 := Nat.zero_le 1

def trialStart : Agent :=
  start 0 trial { id := "agent" } ∅ [500] ⟨1, [], [], [], Nat.one_pos, length_no_batches⟩

def script (uptime : Nat) (es : List Event) : List (Moment × Event) := es.map (⟨uptime, .epoch⟩, ·)

end Agent

end HostMonitor
