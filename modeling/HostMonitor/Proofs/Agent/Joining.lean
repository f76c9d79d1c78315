import HostMonitor.Proofs.Agent.Reachable

namespace HostMonitor

open Posting (Pipeline)

namespace Host

def Refresher.burden (r : Refresher) : Nat :=
  match r.phase with
  | .collecting => 3
  | .updating => 2
  | .resting _ => 1
  | .stopped => 0

theorem Refresher.advance {r : Refresher} (now : Nat) (spec : Option Spec) (accepted : Bool)
    (asking : r.phase = .collecting ∨ r.phase = .updating) : ∃ e s shown,
      (e = .collected spec ∨ e = .reply accepted) ∧ r.step now e = some (s, shown) ∧
        s.burden < r.burden := by
  rcases asking with phase | phase
  · cases spec with
    | none =>
      refine ⟨.collected none, ⟨r.interval, .resting (now + r.interval)⟩, [], .inl rfl, ?_, ?_⟩
      · simp [step, phase]
      · simp [burden, phase]
    | some d =>
      refine ⟨.collected (some d), ⟨r.interval, .updating⟩, [.updates d], .inl rfl, ?_, ?_⟩
      · simp [step, phase]
      · simp [burden, phase]
  · refine ⟨.reply accepted, ⟨r.interval, .resting (now + r.interval)⟩, [], .inr rfl, ?_, ?_⟩
    · simp [step, phase]
    · simp [burden, phase]

end Host

namespace Metric

def Producer.burden (p : Producer) : Nat :=
  match p.phase with
  | .collecting => 2
  | .waiting | .sending _ => 1
  | .stopped => 0

end Metric

namespace Posting

def Ingestor.burden (i : Ingestor) : Nat :=
  match i.phase with
  | .receiving | .sending _ => 1
  | .stopped => 0

end Posting

namespace Check

def Aggregator.Phase.burden (queued : Nat) : Aggregator.Phase → Nat
  | .stopped => 0
  | .returning rest true => rest.length + 1
  | .delivering rs true => rs.length + 2
  | .draining got true => 2 * queued + got.length + 3
  | .waiting _ => 2 * queued + 4
  | .returning rest false => 2 * queued + 3 * rest.length + 5
  | .delivering rs false => 2 * queued + 3 * rs.length + 6
  | .draining got false => 4 * queued + 3 * got.length + 7

def Aggregator.burden (a : Aggregator) : Nat := a.phase.burden a.intake.length

def Runner.burden (r : Runner) : Nat :=
  match r.phase with
  | .forwarding .. => 7
  | .escalating => 2
  | .waiting | .checking => 1
  | .stopped => 0

def Runner.burdens : List Runner → Nat
  | [] => 0
  | r :: rs => r.burden + burdens rs

def Watch.burden (w : Watch) : Nat := Runner.burdens w.runners + w.aggregator.burden

theorem Runner.burdens_set {rs : List Runner} {i : Nat} {r : Runner} (s : Runner)
    (found : rs[i]? = some r) : burdens (rs.set i s) + r.burden = burdens rs + s.burden := by
  induction rs generalizing i with
  | nil => cases found
  | cons t rs ih =>
    cases i with
    | zero =>
      cases found
      simp only [List.set_cons_zero, burdens]
      omega
    | succ i =>
      have := ih found
      simp only [List.set_cons_succ, burdens]
      omega

variable {now : Moment} {a b : Aggregator} {w : Watch}

theorem Aggregator.Phase.burden_succ (queued : Nat) (p : Aggregator.Phase) :
    p.burden (queued + 1) ≤ p.burden queued + 4 := by
  unfold burden
  split <;> omega

theorem Aggregator.Move.lightens {e : Event} {effects : List Effect}
    (move : Move now a e effects b) (later : e = .drain ∨ e = .giveBack ∨ e.isReply = true) :
    b.burden < a.burden := by
  cases move with
  | refuse | accept | escalate | elapse | wake | signal => simp [Event.isReply] at later
  | @drain got last r rs phase intake =>
    cases last <;> simp [burden, Phase.burden, phase, intake] <;> omega
  | @findNothing last phase intake =>
    cases last <;> simp [burden, Phase.burden, phase, intake]
  | @deliver got last phase intake =>
    cases last <;> simp [burden, Phase.burden, phase, intake]
  | @succeed rs last phase =>
    cases last <;> simp [burden, Phase.burden, phase]
    omega
  | @fail rs last phase => cases last <;> simp [burden, Phase.burden, phase]
  | @giveBack r rs last phase =>
    cases last <;> simp [burden, Phase.burden, phase]
    omega
  | @goOn last phase => cases last <;> simp [burden, Phase.burden, phase]

namespace Watch

theorem advance_runner {r : Runner} (now : Moment) (found : w.runners[i]? = some r)
    (busy : r.phase ≠ .stopped) : ∃ e v effects,
      (e = .runner i .quit ∨ e = .forward i ∨ e = .escalate i) ∧
      w.step now e = some (v, effects) ∧ v.burden < w.burden := by
  cases phase : r.phase with
  | stopped => exact absurd phase busy
  | waiting | checking =>
    have quit : r.step now.uptime .quit = some { r with phase := .stopped } := by
      simp [Runner.step, phase]
    refine ⟨.runner i .quit, _, _, .inl rfl, step_of_move (.runner rfl found quit), ?_⟩
    have := Runner.burdens_set { r with phase := .stopped } found
    simp only [burden, Runner.burden, phase] at this ⊢
    omega
  | forwarding report urgent =>
    by_cases stopped : w.aggregator.phase = .stopped
    · have told : r.step now.uptime (.forwarded !w.aggregator.isStopped) =
          some { r with phase := .stopped } := by
        simp [Runner.step, phase, Aggregator.isStopped, stopped]
      refine ⟨.forward i, _, _, .inr (.inl rfl),
        step_of_move (.forward found phase told (.refuse stopped)), ?_⟩
      have := Runner.burdens_set { r with phase := .stopped } found
      simp only [burden, Runner.burden, phase] at this ⊢
      omega
    · have told : r.step now.uptime (.forwarded !w.aggregator.isStopped) =
          some { r with phase := if urgent then .escalating else .waiting } := by
        have : w.aggregator.isStopped = false := by
          rw [← Bool.not_eq_true, Aggregator.isStopped_iff]
          exact stopped
        simp [Runner.step, phase, this]
      refine ⟨.forward i, _, _, .inr (.inl rfl),
        step_of_move (.forward found phase told (.accept stopped)), ?_⟩
      have := Runner.burdens_set { r with phase := if urgent then .escalating else .waiting } found
      have := w.aggregator.phase.burden_succ w.aggregator.intake.length
      cases urgent <;>
        simp [burden, Runner.burden, Aggregator.burden, phase] at * <;> omega
  | escalating =>
    have told : r.step now.uptime .escalated = some { r with phase := .waiting } := by
      simp [Runner.step, phase]
    refine ⟨.escalate i, _, _, .inr (.inr rfl), step_of_move (.escalate found told), ?_⟩
    have := Runner.burdens_set { r with phase := .waiting } found
    simp only [burden, Runner.burden, phase, Aggregator.burden] at this ⊢
    omega

theorem advance_aggregator {e : Aggregator.Event}
    (move : Aggregator.Move now w.aggregator e effects b)
    (later : e = .drain ∨ e = .giveBack ∨ e.isReply = true) :
    ∃ v, w.step now (.aggregator e) = some (v, effects) ∧ v.burden < w.burden := by
  have own : e.isOwn = true := by
    rcases later with rfl | rfl | reply
    · rfl
    · rfl
    · cases e <;> first | rfl | cases reply
  refine ⟨_, step_of_move (.aggregator own move), ?_⟩
  have := move.lightens later
  simp only [burden]
  omega

theorem advance_waiting (now : Moment) (phase : w.aggregator.phase = .waiting t) :
    ∃ v, w.step now (.aggregator .signal) = some (v, []) ∧ v.burden < w.burden := by
  refine ⟨_, step_of_move (.aggregator rfl (.signal phase)), ?_⟩
  simp [burden, Aggregator.burden, Aggregator.Phase.burden, phase]

end Watch

end Check

namespace Agent

def Event.isOwn : Event → Bool
  | .relay | .closeFanout | .receive _ => true
  | .pipeline e =>
    match e with
    | .quit | .handOver | .giveUp | .receive | .runDry | .enter | .bounce => true
    | _ => false
  | .watch e =>
    match e with
    | .runner _ .quit | .forward _ | .escalate _ => true
    | .aggregator .wake | .aggregator .drain | .aggregator .giveBack => true
    | _ => false
  | _ => false

structure Answers : Type where
  accepted : Bool
  spec : Option Host.Spec
  findings : List Metric.Finding

inductive Event.Returns (answers : Answers) : Event → Prop
  | described : Returns answers (.refresh (.collected answers.spec))
  | refreshed : Returns answers (.refresh (.reply answers.accepted))
  | collected : Returns answers (.pipeline (.collected answers.findings))
  | reported : Returns answers (.watch (.aggregator (.reply answers.accepted)))
  | parted : Returns answers (.reply answers.accepted)

def Checks.isChecking : Checks → Bool
  | .absent _ => false
  | .present w => w.runners.any fun r => r.phase = .checking

def isAwaiting (a : Agent) : Bool :=
  [Caller.refresher, .scheduler, .checks, .agent].any (fun caller => a.outstanding caller ≠ 0) ||
  a.refresher.phase = .collecting ||
  (match a.pipeline.producer.phase with
    | .collecting => true
    | _ => false) ||
  a.checks.isChecking

def Checks.burden (f : Shutdown.Fanout) : Checks → Nat
  | .absent true => 1 + (f.holds Listener.checks.place).toNat
  | .absent false => 0
  | .present w => w.burden

def burden (a : Agent) : Nat :=
  a.fanout.live.toNat + a.refresher.burden + a.pipeline.producer.burden +
    a.pipeline.ingestor.burden + a.checks.burden a.fanout

/-- A step of a task that lowers the burden, or such a call that comes back. -/
def Advances (now : Moment) (answers : Answers) (a : Agent) : Prop :=
  ∃ e b effects, a.step now e = some (b, effects) ∧ b.phase = a.phase ∧ b.burden < a.burden ∧
    (e.isOwn = true ∨ (e.Returns answers ∧ a.isAwaiting = true))

variable {now : Moment} {answers : Answers} {a b : Agent}

theorem isRunning_of_joining (joining : a.phase = .joining) : a.isRunning = true := by
  simp [isRunning, joining]

theorem Advances.of_move {e : Event} {effects : List Effect} (move : Move now a e effects b)
    (phase : b.phase = a.phase) (lighter : b.burden < a.burden)
    (kind : e.isOwn = true ∨ (e.Returns answers ∧ a.isAwaiting = true)) : Advances now answers a :=
  ⟨e, b, effects, step_of_move move, phase, lighter, kind⟩

theorem advance_fanout (joining : a.phase = .joining) (raised : a.quit.isOver = true)
    (live : a.fanout.live = true) : Advances now answers a := by
  refine .of_move (.closeFanout (isRunning_of_joining joining) live raised) rfl ?_ (.inl rfl)
  have same : a.checks.burden a.fanout.close = a.checks.burden a.fanout := by
    cases a.checks <;> rfl
  have closed : a.fanout.close.live = false := rfl
  simp only [burden, same, live, closed, Bool.toNat_true, Bool.toNat_false]
  omega

theorem reception_of_closed (closed : a.fanout.live = false) (l : Listener) :
    a.reception l ≠ .empty :=
  Shutdown.Fanout.receive_closed closed

theorem burden_served {l : Listener} (other : l ≠ .checks) :
    a.checks.burden (a.served l).fanout = a.checks.burden a.fanout := by
  unfold Checks.burden
  split
  · rw [holds_served other]
  · rfl
  · rfl

theorem advance_refresher (joining : a.phase = .joining) (closed : a.fanout.live = false)
    (busy : a.refresher.phase ≠ .stopped) : Advances now answers a := by
  have running := isRunning_of_joining joining
  have asks (asking : a.refresher.phase = .collecting ∨ a.refresher.phase = .updating) :
      Advances now answers a := by
    obtain ⟨e, r, shown, kind, stepped, lighter⟩ :=
      a.refresher.advance now.uptime answers.spec answers.accepted asking
    have other : e ≠ .signal := by
      rcases kind with rfl | rfl <;> simp
    refine .of_move (.refresh running other stepped) rfl ?_ (.inr ⟨?_, ?_⟩)
    · simp only [burden]
      omega
    · rcases kind with rfl | rfl
      · exact .described
      · exact .refreshed
    · rcases asking with phase | phase <;>
        simp [isAwaiting, outstanding, Host.Refresher.isUpdating, phase]
  cases phase : a.refresher.phase with
  | stopped => exact absurd phase busy
  | collecting => exact asks (.inl phase)
  | updating => exact asks (.inr phase)
  | resting t =>
    refine .of_move (.stopRefresher running (reception_of_closed closed _) phase) rfl ?_ (.inl rfl)
    have same := burden_served (a := a) (l := .refresher) (by simp)
    simp only [burden, Host.Refresher.burden, phase, checks_served, same, live_served,
      pipeline_served]
    omega

theorem advance_producer (joining : a.phase = .joining) (raised : a.quit.isOver = true)
    (busy : a.pipeline.producer.phase ≠ .stopped) : Advances now answers a := by
  have running := isRunning_of_joining joining
  have quits {p : Pipeline} {shown : List Pipeline.Effect}
      (stepped : a.pipeline.step now .quit = some (p, shown))
      (lighter : p.producer.burden < a.pipeline.producer.burden)
      (same : p.ingestor = a.pipeline.ingestor) : Advances now answers a := by
    have allowed : a.allows .quit = true := raised
    refine .of_move (.pipeline running allowed stepped) rfl ?_ (.inl rfl)
    simp only [burden, same]
    omega
  -- At rest it quits at once; a collection has to come back first.
  cases phase : a.pipeline.producer.phase with
  | stopped => exact absurd phase busy
  | waiting =>
    have stepped : a.pipeline.step now .quit = some (a.pipeline.withProducer .stopped, []) := by
      simp [Pipeline.step, Pipeline.stepProducer, Metric.Producer.step, phase,
        Pipeline.withProducer]
    exact quits stepped (by simp [Metric.Producer.burden, Pipeline.withProducer, phase]) rfl
  | sending s =>
    have stepped : a.pipeline.step now .quit = some (a.pipeline.withProducer .stopped, []) := by
      simp [Pipeline.step, Pipeline.stepProducer, Metric.Producer.step, phase,
        Pipeline.withProducer]
    exact quits stepped (by simp [Metric.Producer.burden, Pipeline.withProducer, phase]) rfl
  | collecting =>
    have stepped : a.pipeline.step now (.collected answers.findings) =
        some (a.pipeline.withProducer (.sending (.ofFindings now.wall answers.findings)), []) := by
      simp [Pipeline.step, Pipeline.stepProducer, Metric.Producer.step, phase,
        Pipeline.withProducer]
    refine .of_move (.pipeline running rfl stepped) rfl ?_
      (.inr ⟨.collected, by simp [isAwaiting, phase]⟩)
    simp [burden, Metric.Producer.burden, Pipeline.withProducer, phase]

theorem advance_ingestor (sound : Sound a) (joining : a.phase = .joining)
    (closed : a.fanout.live = false) (busy : a.pipeline.ingestor.phase ≠ .stopped) :
    Advances now answers a := by
  have running := isRunning_of_joining joining
  have stops {p : Pipeline} (stepped : a.pipeline.step now .signal = some (p, []))
      (lighter : p.ingestor.burden < a.pipeline.ingestor.burden)
      (same : p.producer = a.pipeline.producer) : Advances now answers a := by
    refine .of_move (.stopIngestor running (reception_of_closed closed _) stepped) rfl ?_ (.inl rfl)
    have kept := burden_served (a := a) (l := .ingestor) nofun
    simp only [burden, same, checks_served, kept, live_served, refresher_served]
    omega
  cases phase : a.pipeline.ingestor.phase with
  | stopped => exact absurd phase busy
  | receiving =>
    have stepped : a.pipeline.step now .signal = some (a.pipeline.withIngestor .stopped, []) := by
      simp [Pipeline.step, Pipeline.quiet, Pipeline.stepIngestor, Posting.Ingestor.step, phase,
        Pipeline.withIngestor]
    exact stops stepped (by simp [Posting.Ingestor.burden, Pipeline.withIngestor, phase]) rfl
  | sending b =>
    -- The batch is the only one that waits for the queue, so that it can be called off.
    have waits : a.pipeline.scheduler.queue.waiting = [b] := by
      rw [sound.waiting, phase]
      rfl
    obtain ⟨t, shown, withdrawn⟩ : ∃ t shown,
        a.pipeline.scheduler.step now (.withdraw 0) = some (t, shown) := by
      simp [Posting.Scheduler.step, Posting.Scheduler.stepSender, Posting.Queue.withdraw?, waits]
    have stepped : a.pipeline.step now .signal =
        some ({ a.pipeline.withIngestor .stopped with scheduler := t }, []) := by
      simp [Pipeline.step, Pipeline.quiet, Pipeline.stepIngestor, Posting.Ingestor.step, phase,
        withdrawn, Pipeline.withIngestor]
    exact stops stepped (by simp [Posting.Ingestor.burden, Pipeline.withIngestor, phase]) rfl

theorem advance_discarding (joining : a.phase = .joining) (closed : a.fanout.live = false)
    (checks : a.checks = .absent true) : Advances now answers a := by
  have running := isRunning_of_joining joining
  cases heard : a.reception .checks with
  | empty => exact absurd heard (reception_of_closed closed _)
  | signal =>
    refine .of_move (.discard running heard checks) rfl ?_ (.inl rfl)
    have held : a.fanout.holds Listener.checks.place = true :=
      Shutdown.Fanout.holds_of_signal heard
    have left : (a.served .checks).fanout.holds Listener.checks.place = false := holds_served_self
    simp [burden, Checks.burden, checks, held, left]
  | closed =>
    refine .of_move (.stopDiscarding running heard checks) rfl ?_ (.inl rfl)
    simp only [burden, Checks.burden, checks, live_served, refresher_served, pipeline_served]
    omega

theorem Advances.of_watch {w v : Check.Watch} {e : Check.Watch.Event}
    {shown : List Check.Aggregator.Effect} (joining : a.phase = .joining)
    (checks : a.checks = .present w) (allowed : a.allowsWatch e = true)
    (stepped : w.step now e = some (v, shown)) (lighter : v.burden < w.burden)
    (kind : (Event.watch e).isOwn = true ∨
      ((Event.watch e).Returns answers ∧ a.isAwaiting = true)) : Advances now answers a := by
  refine .of_move (.watch (isRunning_of_joining joining) allowed checks stepped) rfl ?_ kind
  simp only [burden, Checks.burden, checks]
  omega

theorem advance_aggregator {w : Check.Watch} (joining : a.phase = .joining)
    (closed : a.fanout.live = false) (checks : a.checks = .present w)
    (busy : w.aggregator.phase ≠ .stopped) : Advances now answers a := by
  cases phase : w.aggregator.phase with
  | stopped => exact absurd phase busy
  | waiting t =>
    obtain ⟨v, stepped, lighter⟩ := w.advance_waiting now phase
    refine .of_move (.stopChecks (isRunning_of_joining joining) (reception_of_closed closed _)
      checks stepped) rfl ?_ (.inl rfl)
    simp only [burden, Checks.burden, checks, live_served, refresher_served, pipeline_served]
    omega
  | draining got last =>
    have drains : ∃ effects b, Check.Aggregator.Move now w.aggregator .drain effects b := by
      cases intake : w.aggregator.intake with
      | cons r rs => exact ⟨_, _, .drain phase intake⟩
      | nil =>
        cases got with
        | nil => exact ⟨_, _, .findNothing phase intake⟩
        | cons r rs => exact ⟨_, _, .deliver phase intake (List.cons_ne_nil r rs)⟩
    obtain ⟨effects, b, move⟩ := drains
    obtain ⟨v, stepped, lighter⟩ := Check.Watch.advance_aggregator move (.inl rfl)
    exact .of_watch joining checks rfl stepped lighter (.inl rfl)
  | returning rest last =>
    have returns : ∃ effects b, Check.Aggregator.Move now w.aggregator .giveBack effects b := by
      cases rest with
      | nil => exact ⟨_, _, .goOn phase⟩
      | cons r rs => exact ⟨_, _, .giveBack phase⟩
    obtain ⟨effects, b, move⟩ := returns
    obtain ⟨v, stepped, lighter⟩ := Check.Watch.advance_aggregator move (.inr (.inl rfl))
    exact .of_watch joining checks rfl stepped lighter (.inl rfl)
  | delivering rs last =>
    have replies : ∃ effects b,
        Check.Aggregator.Move now w.aggregator (.reply answers.accepted) effects b := by
      cases answers.accepted with
      | true => exact ⟨_, _, .succeed phase⟩
      | false => exact ⟨_, _, .fail phase⟩
    obtain ⟨effects, b, move⟩ := replies
    obtain ⟨v, stepped, lighter⟩ := Check.Watch.advance_aggregator move (.inr (.inr rfl))
    have awaiting : a.isAwaiting = true := by
      simp [isAwaiting, outstanding, checks, Check.Aggregator.Phase.outstanding, phase]
    exact .of_watch joining checks rfl stepped lighter (.inr ⟨.reported, awaiting⟩)

theorem advance_runner {w : Check.Watch} {r : Check.Runner} (joining : a.phase = .joining)
    (raised : a.quit.isOver = true) (checks : a.checks = .present w) (found : r ∈ w.runners)
    (busy : r.phase ≠ .stopped) : Advances now answers a := by
  obtain ⟨i, place⟩ := List.getElem?_of_mem found
  obtain ⟨e, v, effects, kind, stepped, lighter⟩ := Check.Watch.advance_runner now place busy
  have allowed : a.allowsWatch e = true := by
    rcases kind with rfl | rfl | rfl
    · exact raised
    · rfl
    · rfl
  have own : (Event.watch e).isOwn = true := by
    rcases kind with rfl | rfl | rfl <;> rfl
  exact .of_watch joining checks allowed stepped lighter (.inl own)

theorem advance_checks (joining : a.phase = .joining) (raised : a.quit.isOver = true)
    (closed : a.fanout.live = false) (busy : a.checks.isStopped = false) :
    Advances now answers a := by
  cases checks : a.checks with
  | absent listening =>
    rw [checks] at busy
    have listening : listening = true := by simpa [Checks.isStopped] using busy
    exact advance_discarding joining closed (listening ▸ checks)
  | present w =>
    by_cases stopped : w.aggregator.phase = .stopped
    · rw [checks] at busy
      simp only [Checks.isStopped, Check.Aggregator.isStopped_iff.mpr stopped, Bool.true_and,
        List.all_eq_false, decide_eq_true_eq] at busy
      obtain ⟨r, found, busy⟩ := busy
      exact advance_runner joining raised checks found busy
    · exact advance_aggregator joining closed checks stopped

theorem advance (sound : Sound a) (joining : a.phase = .joining) (busy : a.isQuiet = false) :
    Advances now answers a := by
  have raised := sound.quit joining
  cases closed : a.fanout.live with
  | true => exact advance_fanout joining raised closed
  | false =>
    by_cases refresher : a.refresher.phase = .stopped
    · by_cases producer : a.pipeline.producer.phase = .stopped
      · by_cases ingestor : a.pipeline.ingestor.phase = .stopped
        · have checks : a.checks.isStopped = false := by
            simpa [isQuiet, refresher, producer, ingestor, closed] using busy
          exact advance_checks joining raised closed checks
        · exact advance_ingestor sound joining closed ingestor
      · exact advance_producer joining raised producer
    · exact advance_refresher joining closed refresher

section

variable {began : Nat} {c : Config} {host : Host.Record} {customHosts : Posting.CustomHosts}
  {intervals : List Nat} {queue : Posting.Queue} {h : History}

theorem settles (built : c.queue? = some queue)
    (run : Run (start began c host customHosts intervals queue) h a) (joining : a.phase = .joining)
    (now : Moment) (answers : Answers) : ∃ k b, Run a k b ∧ b.phase = .joining ∧
      b.isQuiet = true ∧
      ∀ x ∈ k, x.now = now ∧ (x.event.isOwn = true ∨ x.event.Returns answers) := by
  induction left : a.burden using Nat.strongRecOn generalizing h a with
  | ind n ih =>
    cases busy : a.isQuiet with
    | true => exact ⟨[], a, .nil, joining, busy, by simp⟩
    | false =>
      have advances : Advances now answers a := advance (sound_of_run built run) joining busy
      obtain ⟨e, b, effects, made, same, lighter, kind⟩ := advances
      obtain ⟨k, d, rest, joining', quiet, steps⟩ :=
        ih b.burden (left ▸ lighter) (run.step made) (same.trans joining) rfl
      exact ⟨_, d, .cons made rest, joining', quiet,
        List.forall_mem_cons.mpr ⟨⟨rfl, kind.imp_right And.left⟩, steps⟩⟩

/-- How the tasks end once quit is raised. -/
structure Settling (a : Agent) : Prop where
  /-- As long as a task is not done and no call is awaited, some task can make a step at once. -/
  awake : a.isQuiet = false → a.isAwaiting = false → ∀ now, ∃ e b effects,
    e.isOwn = true ∧ a.step now e = some (b, effects)
  ends : ∀ now answers, ∃ k b, Run a k b ∧ b.phase = .joining ∧ b.isQuiet = true ∧
    ∀ x ∈ k, x.now = now ∧ (x.event.isOwn = true ∨ x.event.Returns answers)

theorem joining_never_stuck (built : c.queue? = some queue)
    (run : Run (start began c host customHosts intervals queue) h a)
    (joining : a.phase = .joining) : Settling a where
  awake busy free now := by
    have advances : Advances now ⟨true, none, []⟩ a :=
      advance (sound_of_run built run) joining busy
    obtain ⟨e, b, effects, made, -, -, own | ⟨-, awaiting⟩⟩ := advances
    · exact ⟨e, b, effects, own, made⟩
    · simp [free] at awaiting
  ends := settles built run joining

end

def findings : List Metric.Finding := [⟨none, some (.ofList [("load", ⟨1⟩)])⟩]

theorem joining_with_full_queue_not_stuck : ∃ h a, Run trialStart h a ∧ a.phase = .joining ∧
    a.pipeline.ingestor.phase = .sending (.ofSamples [⟨"agent", "load", 0, ⟨1⟩⟩]) ∧
    a.pipeline.handed.isSome = true ∧ a.isQuiet = false ∧ a.isAwaiting = false ∧ Settling a := by
  obtain ⟨h, a, run, seen⟩ := Machine.Run.of_play step trialStart
    (script 1000 [.refresh (.collected none), .pipeline .tick, .pipeline (.collected findings),
      .pipeline .handOver, .pipeline .receive] ++
    script 2000 [.pipeline .tick, .pipeline (.collected findings), .pipeline .handOver,
      .pipeline .receive] ++
    script 3000 [.pipeline .tick, .pipeline (.collected findings), .pipeline .handOver] ++
    script 4000 [.pipeline .tick, .pipeline (.collected findings), .watch (.runner 0 .tick),
      .watch (.runner 0 (.result (some Check.Watch.disk))), .terminate, .relay,
      .receive .scheduler])
    (fun r => (r.2.phase, r.2.pipeline.ingestor.phase, r.2.pipeline.handed.isSome, r.2.isQuiet,
      r.2.isAwaiting))
    (a := (.joining, .sending (.ofSamples [⟨"agent", "load", 0, ⟨1⟩⟩]), true, false, false))
    (by with_unfolding_all rfl)
  simp only [Prod.mk.injEq] at seen
  obtain ⟨joining, sending, handed, busy, free⟩ := seen
  have built : trial.queue? = some _ := rfl
  exact ⟨h, a, run, joining, sending, handed, busy, free, joining_never_stuck built run joining⟩

end Agent

end HostMonitor
