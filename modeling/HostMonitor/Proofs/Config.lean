import HostMonitor.Agent.Local
import HostMonitor.Proofs.Agent.Reachable
import HostMonitor.Proofs.Posting.Retries
import Mathlib.Data.List.Forall2

namespace HostMonitor

namespace Config

variable {ε α β : Type} {text : String} {c : Config}

theorem bind_eq_ok {x : Except ε α} {f : α → Except ε β} {b : β} :
    x >>= f = .ok b ↔ ∃ a, x = .ok a ∧ f a = .ok b := by
  cases x <;> simp [bind, Except.bind]

theorem throw_eq_ok {e : ε} {a : α} : (throw e : Except ε α) = .ok a ↔ False := by
  simp [throw, throwThe, MonadExceptOf.throw]

theorem exists_eq_ok {x : Except ε Unit} : (∃ u, x = .ok u) ↔ x = .ok () :=
  ⟨fun ⟨_, h⟩ => h, fun h => ⟨(), h⟩⟩

theorem discard_eq_ok {x : Except ε α} : discard x = .ok () ↔ ∃ a, x = .ok a := by
  cases x <;> simp [discard, Functor.mapConst, Except.map]

theorem forM_eq_ok {f : α → Except ε PUnit} {xs : List α} :
    forM xs f = .ok () ↔ ∀ x ∈ xs, f x = .ok () := by
  induction xs with
  | nil => simp [pure, Except.pure]
  | cons x xs ih =>
    simp only [List.forM_cons, bind_eq_ok, ih, List.mem_cons, forall_eq_or_imp]
    constructor
    · rintro ⟨⟨⟩, first, rest⟩
      exact ⟨first, rest⟩
    · rintro ⟨first, rest⟩
      exact ⟨(), first, rest⟩

theorem positive_eq_ok {key : String} {n : UInt64} : positive key n = .ok () ↔ n ≠ 0 := by
  by_cases zero : n = 0 <;> simp [positive, zero]

theorem validateCheck_eq_ok {name : String} {check : CheckConfig} :
    validateCheck name check = .ok () ↔
      Text.isVoid check.command = false ∧ check.intervalSeconds ≠ 0 := by
  cases void : Text.isVoid check.command <;>
    simp [validateCheck, void, bind_eq_ok, positive_eq_ok, throw_eq_ok]

structure Valid (c : Config) : Prop where
  apiKey : Text.isVoid c.apiKey = false
  metrics : c.metricsInterval ≠ 0
  post : c.postInterval ≠ 0
  spec : c.specInterval ≠ 0
  report : c.reportInterval ≠ 0
  buffer : c.connection.bufferSize ≠ 0
  checks : ∀ name check, (name, check) ∈ c.checks →
    Text.isVoid check.command = false ∧ check.intervalSeconds ≠ 0
  ignore : ∃ r, c.ignoreRegex = .ok r

theorem validate_eq_ok : c.validate = .ok () ↔ Valid c := by
  cases void : Text.isVoid c.apiKey with
  | true =>
    refine iff_of_false ?_ fun valid => ?_
    · simp [validate, void, bind_eq_ok, throw_eq_ok]
    · simpa [void] using valid.apiKey
  | false =>
    by_cases empty : c.connection.bufferSize = 0
    · refine iff_of_false ?_ fun valid => valid.buffer empty
      simp [validate, void, empty, bind_eq_ok, throw_eq_ok]
    · simp only [validate, void, empty, Bool.false_eq_true, if_false, bind_eq_ok, exists_and_right,
        exists_eq_ok, positive_eq_ok, List.forM_eq_forM, forM_eq_ok, Prod.forall,
        validateCheck_eq_ok, discard_eq_ok]
      constructor
      · rintro ⟨metrics, post, spec, report, checks, ignore⟩
        exact ⟨void, metrics, post, spec, report, empty, checks, ignore⟩
      · intro valid
        exact ⟨valid.metrics, valid.post, valid.spec, valid.report, valid.checks, valid.ignore⟩

theorem valid_of_parse (accepted : parse text = .ok c) : Valid c := by
  unfold parse at accepted
  split at accepted
  · cases accepted
  · split at accepted
    · next passed =>
      cases accepted
      exact validate_eq_ok.mp passed
    · cases accepted

theorem queue?_isSome (valid : Valid c) :
    c.queue?.isSome = true ↔ c.connection.bufferSize ≤ Posting.Queue.capacityLimit := by
  have buffer := valid.buffer
  simp only [queue?, Posting.Queue.ofCapacity?, Option.isSome_ite]
  omega

/-- What the steps of the program take from a configuration, apart from the room of the queue. -/
structure Sound (c : Config) : Prop where
  ignore : ∃ r, c.ignoreRegex = .ok r
  intervals : ∀ n ∈ [c.metricsInterval, c.specInterval, c.reportInterval], Agent.millis n ≠ 0
  checks : ∀ name check, (name, check) ∈ c.checks →
    (check.toCommand name).interval.millis ≠ 0
  post : Posting.modulus c.settings.interval ≠ 0

theorem millis_ne_zero {n : UInt64} (some : n ≠ 0) : Agent.millis n ≠ 0 := by
  have positive : n.toNat ≠ 0 := fun zero => some (UInt64.toNat_inj.mp zero)
  simp only [Agent.millis, Span.ofSeconds, Span.millis]
  omega

theorem Valid.sound (valid : Valid c) : Sound c where
  ignore := valid.ignore
  intervals := by
    simp only [List.forall_mem_cons, List.not_mem_nil, false_imp_iff, implies_true, and_true]
    exact ⟨millis_ne_zero valid.metrics, millis_ne_zero valid.spec, millis_ne_zero valid.report⟩
  checks name check member := millis_ne_zero (valid.checks name check member).2
  post zero := valid.post (by
    have seconds : (c.postInterval.toInt64).toUInt64 = (0 : Int64).toUInt64 :=
      congrArg Int64.toUInt64 zero
    rwa [UInt64.toUInt64_toInt64] at seconds)

end Config

theorem Host.Refresher.interval_eq {r s : Host.Refresher} {effects : List Host.Refresher.Effect}
    (made : r.step now e = some (s, effects)) : s.interval = r.interval := by
  unfold Host.Refresher.step at made
  split at made
  case h_4 => split at made <;> cases made; rfl
  all_goals cases made; try rfl

namespace Check

theorem Runner.period_eq {r s : Runner} (made : r.step now e = some s) :
    s.ticker.period = r.ticker.period := by
  unfold Runner.step at made
  split at made
  case h_1 => split at made <;> cases made; rfl
  all_goals cases made; try rfl

theorem Aggregator.Move.ceiling_eq {a b : Aggregator}
    (move : Aggregator.Move now a e effects b) : b.ceiling = a.ceiling := by
  cases move <;> rfl

namespace Watch

def periods (w : Watch) : List Nat := w.aggregator.ceiling :: w.runners.map fun r => r.ticker.period

theorem periods_set {rs : List Runner} {r s : Runner} (found : rs[i]? = some r)
    (made : r.step now e = some s) :
    (rs.set i s).map (fun r => r.ticker.period) = rs.map fun r => r.ticker.period := by
  rw [List.map_set, Runner.period_eq made]
  refine List.ext_getElem? fun j => ?_
  by_cases same : i = j
  · subst same
    obtain ⟨inside, rfl⟩ := List.getElem?_eq_some_iff.mp found
    simp [inside]
  · rw [List.getElem?_set_ne same]

theorem Move.periods_eq {w v : Watch} (move : Move now w e effects v) : v.periods = w.periods := by
  cases move with
  | runner own found stepped => rw [periods, periods_set found stepped, periods]
  | forward found phase stepped forwarded =>
    rw [periods, periods_set found stepped, forwarded.ceiling_eq, periods]
  | escalate found stepped => rw [periods, periods_set found stepped, periods]
  | aggregator own moved => rw [periods, moved.ceiling_eq, periods]

end Watch

end Check

section

variable {interval now : Nat}

theorem Metric.Producer.period_spawn : (spawn interval now).ticker.period = interval := by
  unfold spawn
  split <;> rfl

theorem Metric.Producer.waiting_spawn_iff :
    (spawn interval now).phase = .waiting ↔ now + interval < Ticker.clockLimit := by
  unfold spawn
  by_cases fits : now + interval < Ticker.clockLimit <;> simp [Ticker.canStart, fits, start]

theorem Check.Runner.period_spawn : (spawn interval now).ticker.period = interval := by
  unfold spawn
  split <;> rfl

theorem Check.Runner.waiting_spawn_iff :
    (spawn interval now).phase = .waiting ↔ now + interval < Ticker.clockLimit := by
  unfold spawn
  by_cases fits : now + interval < Ticker.clockLimit <;> simp [Ticker.canStart, fits, start]

end

namespace Posting.Pipeline

variable {p q : Pipeline}

theorem Move.period_eq (move : Move now p e effects q) :
    q.producer.ticker.period = p.producer.ticker.period := by
  cases move <;> rfl

theorem Move.settings_eq (move : Move now p e effects q) :
    q.scheduler.settings = p.scheduler.settings := by
  cases move with
  | send _ _ _ inner | hold _ _ _ inner | refuse _ _ _ inner => exact inner.settings_eq
  | callOff _ inner | enter _ inner | bounce _ inner | schedule _ inner => exact inner.settings_eq
  | _ => rfl

end Posting.Pipeline

namespace Agent

open Posting (modulus untilOffset?)

variable {now : Moment} {a b : Agent} {e : Event} {effects : List Effect} {h : History}

def Checks.periods : Checks → List Nat
  | .absent _ => []
  | .present w => w.periods

def periods (a : Agent) : List Nat :=
  a.refresher.interval :: a.pipeline.producer.ticker.period :: a.checks.periods

theorem Move.periods_eq (move : Move now a e effects b) : b.periods = a.periods := by
  have steady : b.pipeline.producer.ticker.period = a.pipeline.producer.ticker.period := by
    rcases move.ofPipeline with same | ⟨f, shown, stepped⟩
    · rw [same]
    · exact (Posting.Pipeline.move_of_step stepped).period_eq
  have refresher : b.refresher.interval = a.refresher.interval := by
    cases move with
    | refresh running other stepped => exact Host.Refresher.interval_eq stepped
    | _ => rfl
  have checks : b.checks.periods = a.checks.periods := by
    cases move with
    | watch _ _ present stepped | stopChecks _ _ present stepped =>
      rw [present]
      exact (Check.Watch.move_of_step stepped).periods_eq
    | stopDiscarding _ _ absent => rw [absent]; rfl
    | _ => rfl
  rw [periods, refresher, steady, checks, periods]

theorem Move.settings_eq (move : Move now a e effects b) :
    b.pipeline.scheduler.settings = a.pipeline.scheduler.settings := by
  rcases move.ofPipeline with same | ⟨f, shown, stepped⟩
  · rw [same]
  · exact (Posting.Pipeline.move_of_step stepped).settings_eq

theorem Run.periods_eq (run : Run a h b) :
    b.periods = a.periods ∧ b.pipeline.scheduler.settings = a.pipeline.scheduler.settings :=
  run.keeps (P := fun _ b => b.periods = a.periods ∧
      b.pipeline.scheduler.settings = a.pipeline.scheduler.settings) ⟨rfl, rfl⟩
    fun held move => ⟨move.periods_eq.trans held.1, move.settings_eq.trans held.2⟩

theorem periods_start (now : Nat) (c : Config) (host : Host.Record) (hosts : Posting.CustomHosts)
    (intervals : List Nat) (queue : Posting.Queue) :
    (start now c host hosts intervals queue).periods =
      millis c.specInterval :: millis c.metricsInterval ::
        if intervals = [] then [] else millis c.reportInterval :: intervals := by
  have metrics : (start now c host hosts intervals queue).pipeline.producer.ticker.period =
      millis c.metricsInterval := Metric.Producer.period_spawn
  rw [periods, metrics]
  cases intervals with
  | nil => rfl
  | cons n ns =>
    have kept : ((n :: ns).map (Check.Runner.spawn · now)).map (fun r => r.ticker.period) =
        n :: ns := by
      rw [List.map_map]
      exact (List.map_congr_left fun _ _ => Check.Runner.period_spawn).trans (List.map_id' _)
    rw [if_neg (List.cons_ne_nil n ns)]
    exact congrArg (fun ps => _ :: _ :: _ :: ps) kept

def Checks.runners : Checks → List Check.Runner
  | .absent _ => []
  | .present w => w.runners

theorem runners_start (now ceiling : Nat) (intervals : List Nat) :
    (Checks.start now ceiling intervals).runners = intervals.map (Check.Runner.spawn · now) := by
  cases intervals <;> rfl

namespace Local

variable {κ : Type}

theorem periods_ne_zero (sound : Config.Sound c) (machine : Host.Machine) (carrier : κ) (now : Nat)
    (host : Host.Record) (queue : Posting.Queue)
    (run : Run ((Local.start c machine carrier).agent now host queue) h b) :
    ∀ p ∈ b.periods, p ≠ 0 := by
  have metrics := sound.intervals c.metricsInterval (by simp)
  have spec := sound.intervals c.specInterval (by simp)
  have report := sound.intervals c.reportInterval (by simp)
  have checks : ∀ p ∈ ((Local.start c machine carrier).checks.map fun k => k.interval.millis),
      p ≠ 0 := by
    simp only [Local.start, List.map_map, List.mem_map, Prod.exists, forall_exists_index, and_imp]
    rintro _ name check member rfl
    exact sound.checks name check member
  rw [run.periods_eq.1, Local.agent, periods_start]
  intro p member
  split at member
  · simp only [List.mem_cons, List.not_mem_nil, or_false] at member
    rcases member with rfl | rfl
    · exact spec
    · exact metrics
  · simp only [List.mem_cons] at member
    rcases member with rfl | rfl | rfl | member
    · exact spec
    · exact metrics
    · exact report
    · exact checks p member

end Local

end Agent

namespace Config

open Posting (Queue modulus untilOffset?)

/-- Which of the tasks of a new agent wait for their first tick: collection, and each check. -/
structure Ticking (c : Config) (now : Nat) (a : Agent) : Prop where
  collection : a.pipeline.producer.phase = .waiting ↔
    now + Agent.millis c.metricsInterval < Ticker.clockLimit
  checks : List.Forall₂ (fun check r => r.phase = .waiting ↔
    now + Agent.millis check.2.intervalSeconds < Ticker.clockLimit) c.checks a.checks.runners

theorem ticking_agent {κ : Type} (machine : Host.Machine) (carrier : κ) (now : Nat)
    (host : Host.Record) (queue : Queue) :
    Ticking c now ((Agent.Local.start c machine carrier).agent now host queue) where
  collection := Metric.Producer.waiting_spawn_iff
  checks := by
    show List.Forall₂ _ _ (Agent.Checks.start _ _ _).runners
    rw [Agent.runners_start]
    simp only [Agent.Local.start, List.map_map]
    exact List.forall₂_map_right_iff.mpr
      (List.forall₂_same.mpr fun _ _ => Check.Runner.waiting_spawn_iff)

/-- A configuration that is accepted meets what the program asks of it, with two exceptions. Its
queue can be made only if it is to hold no more batches than a channel can have slots. And a task
can wait for its first tick only if that is due before the end of the clock, which counts seconds in
63 bits; else the task is gone from the start. -/
theorem accepted_runs_within_limits (accepted : parse text = .ok c) :
    Sound c ∧
    (c.queue?.isSome = true ↔ c.connection.bufferSize ≤ Queue.capacityLimit) ∧
    ∀ {κ : Type} (machine : Host.Machine) (carrier : κ) now host queue,
      Ticking c now ((Agent.Local.start c machine carrier).agent now host queue) ∧
      ∀ h (a : Agent),
        Agent.Run ((Agent.Local.start c machine carrier).agent now host queue) h a →
        (∀ p ∈ a.periods, p ≠ 0) ∧
        modulus a.pipeline.scheduler.settings.interval ≠ 0 ∧
        ∀ offset (t : Instant),
          (untilOffset? offset a.pipeline.scheduler.settings.interval
            (Int64.ofInt t.seconds)).isSome = true := by
  have valid := valid_of_parse accepted
  refine ⟨valid.sound, queue?_isSome valid, ?_⟩
  intro κ machine carrier now host queue
  refine ⟨ticking_agent machine carrier now host queue, fun h a run => ?_⟩
  refine ⟨Agent.Local.periods_ne_zero valid.sound machine carrier now host queue run, ?_, ?_⟩
  · rw [run.periods_eq.2]
    exact valid.sound.post
  · intro offset t
    rw [Posting.untilOffset?_of_instant]
    rfl

theorem exists_of_seen {α : Type} {x : α} (text : String) (see : Config → α)
    (seen : (parse text).toOption.map see = some x) : ∃ c, parse text = .ok c ∧ see c = x := by
  cases read : parse text with
  | ok c => exact ⟨c, rfl, by simpa [read, Except.toOption] using seen⟩
  | error => simp [read, Except.toOption] at seen

def modest : String :=
  "apikey = \"k\"\n[connection]\npost_metrics_buffer_size = 5\n[checks.disk]\ncommand = \"df\"\n"

theorem modest_runs : ∃ c, parse modest = .ok c ∧ Sound c ∧ c.checkNames = ["disk"] ∧
    c.queue?.isSome = true ∧ ∀ machine host queue,
      ((Agent.Local.start c machine ()).agent 0 host queue).pipeline.producer.phase = .waiting ∧
      ∀ h a, Agent.Run ((Agent.Local.start c machine ()).agent 0 host queue) h a →
        ∀ p ∈ a.periods, p ≠ 0 := by
  obtain ⟨c, accepted, seen⟩ := exists_of_seen modest
    (fun c => (c.connection.bufferSize, c.checkNames, c.metricsInterval))
    (show _ = some (5, ["disk"], 60) by decide +kernel)
  simp only [Prod.mk.injEq] at seen
  obtain ⟨buffer, names, metrics⟩ := seen
  obtain ⟨sound, room, runs⟩ := accepted_runs_within_limits accepted
  refine ⟨c, accepted, sound, names, room.mpr ?_, ?_⟩
  · rw [buffer]
    decide
  · intro machine host queue
    obtain ⟨ticking, periods⟩ := runs machine () 0 host queue
    refine ⟨ticking.collection.mpr ?_, fun h a run => (periods h a run).1⟩
    rw [metrics]
    decide

def crowded : String :=
  "apikey = \"k\"\n[connection]\npost_metrics_buffer_size = 2305843009213693952\n"

theorem crowded_accepted_without_queue : ∃ c, parse crowded = .ok c ∧ c.queue? = none ∧
    ∀ now host hosts intervals, Agent.start? now c host hosts intervals = none := by
  obtain ⟨c, accepted, seen⟩ := exists_of_seen crowded (fun c => c.queue?.isNone)
    (show _ = some true by decide +kernel)
  have none : c.queue? = none := Option.isNone_iff_eq_none.mp seen
  exact ⟨c, accepted, none, fun _ _ _ _ => by rw [Agent.start?, none]; rfl⟩

def distant : String := "apikey = \"k\"\nmetrics_interval_secs = 9223372036854775807\n"

/-- Once the clock has counted a second, no task can wait for so long. -/
theorem distant_accepted_without_tick : ∃ c, parse distant = .ok c ∧
    ∀ machine now host queue, 1000 ≤ now →
      ((Agent.Local.start c machine ()).agent now host queue).pipeline.producer.phase ≠
        .waiting := by
  obtain ⟨c, accepted, seen⟩ := exists_of_seen distant (fun c => c.metricsInterval)
    (show _ = some 9223372036854775807 by decide +kernel)
  refine ⟨c, accepted, fun machine now host queue late => ?_⟩
  rw [Ne, (ticking_agent machine () now host queue).collection, seen]
  have period : Agent.millis 9223372036854775807 = 9223372036854775807000 := by decide
  simp only [period, Ticker.clockLimit]
  omega

end Config

end HostMonitor
