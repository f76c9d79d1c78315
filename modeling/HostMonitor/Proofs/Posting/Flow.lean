import HostMonitor.Posting.Pipeline
import HostMonitor.Proofs.Posting.Serving

namespace HostMonitor.Posting

open HostMonitor.Metric (Batch Finding Snapshot Producer)

namespace Scheduler

variable {now : Moment} {s t : Scheduler} {b : Batch} {effects : List Effect}

theorem Move.offered (move : Move now s (.offer b) effects t) :
    effects = [.accepted b] ∨ effects = [.waits b] ∨ effects = [.refused b] := by
  cases move <;> simp

theorem Move.entered (move : Move now s (.enter i) effects t) : ∃ c, effects = [.accepted c] := by
  cases move
  exact ⟨_, rfl⟩

theorem Move.bounced (move : Move now s (.withdraw i) effects t) (gone : s.ended = true) :
    ∃ c, effects = [.refused c] := by
  cases move with
  | bounce => exact ⟨_, rfl⟩
  | withdraw running => simp [gone] at running

def Event.verdict? : Event → Option Bool
  | .reply accepted => some accepted
  | _ => none

end Scheduler

namespace Pipeline

def nextBatch (p : Pipeline) : Snapshot → Batch := batchOf p.ingestor.hostId p.ingestor.hosts

def withProducer (p : Pipeline) (phase : Producer.Phase) : Pipeline :=
  { p with producer := { p.producer with phase := phase } }

def withIngestor (p : Pipeline) (phase : Ingestor.Phase) : Pipeline :=
  { p with ingestor := { p.ingestor with phase := phase } }

inductive Move (now : Moment) (p : Pipeline) : Event → List Effect → Pipeline → Prop
  | tick : p.producer.phase = .waiting → p.producer.ticker.isDue now.uptime = true →
      Move now p .tick [.collects]
        { p with producer := ⟨p.producer.ticker.serve now.uptime, .collecting⟩ }
  | collected : p.producer.phase = .collecting →
      Move now p (.collected fs) [] (p.withProducer (.sending (.ofFindings now.wall fs)))
  | rest : p.producer.phase = .waiting → Move now p .quit [] (p.withProducer .stopped)
  | quit : p.producer.phase = .sending s → Move now p .quit [] (p.withProducer .stopped)
  | handOver : p.producer.phase = .sending s → p.handed = none →
      Move now p .handOver [] { p.withProducer .waiting with handed := some s }
  | giveUp : p.producer.phase = .sending s → Move now p .giveUp [] (p.withProducer .stopped)
  | skip : p.ingestor.phase = .receiving → p.handed = some s → (p.nextBatch s).samples = [] →
      Move now p .receive [] { p with handed := none }
  | send : p.ingestor.phase = .receiving → p.handed = some s → (p.nextBatch s).samples ≠ [] →
      Scheduler.Move now p.scheduler (.offer (p.nextBatch s)) [.accepted (p.nextBatch s)] t →
      Move now p .receive [] { p.withIngestor .receiving with handed := none, scheduler := t }
  | hold : p.ingestor.phase = .receiving → p.handed = some s → (p.nextBatch s).samples ≠ [] →
      Scheduler.Move now p.scheduler (.offer (p.nextBatch s)) [.waits (p.nextBatch s)] t →
      Move now p .receive []
        { p.withIngestor (.sending (p.nextBatch s)) with handed := none, scheduler := t }
  | refuse : p.ingestor.phase = .receiving → p.handed = some s → (p.nextBatch s).samples ≠ [] →
      Scheduler.Move now p.scheduler (.offer (p.nextBatch s)) [.refused (p.nextBatch s)] t →
      Move now p .receive [] { p.withIngestor .stopped with handed := none, scheduler := t }
  | runDry : p.ingestor.phase = .receiving → p.handed = none →
      Move now p .runDry [] (p.withIngestor .stopped)
  | stop : p.ingestor.phase = .receiving → Move now p .signal [] (p.withIngestor .stopped)
  | callOff : p.ingestor.phase = .sending b →
      Scheduler.Move now p.scheduler (.withdraw 0) effects t →
      Move now p .signal [] { p.withIngestor .stopped with scheduler := t }
  | enter : p.ingestor.phase = .sending b →
      Scheduler.Move now p.scheduler (.enter 0) [.accepted c] t →
      Move now p .enter [] { p.withIngestor .receiving with scheduler := t }
  | bounce : p.ingestor.phase = .sending b →
      Scheduler.Move now p.scheduler (.withdraw 0) [.refused c] t →
      Move now p .bounce [] { p.withIngestor .stopped with scheduler := t }
  | schedule : e.isSend = false → Scheduler.Move now p.scheduler e effects t →
      Move now p (.schedule e) (effects.filterMap shown?) { p with scheduler := t }

structure Transition : Type where
  source : Pipeline
  now : Moment
  event : Event
  effects : List Effect
  target : Pipeline

abbrev History : Type := List Transition

inductive Run (p : Pipeline) : History → Pipeline → Prop
  | nil : Run p [] p
  | step : Run p h q → q.step now e = some (r, effects) →
      Run p (h ++ [⟨q, now, e, effects, r⟩]) r

structure Tick : Type where
  created : Instant
  findings : List Finding

def Tick.snapshot (t : Tick) : Snapshot := .ofFindings t.created t.findings

def Effect.posts? : Effect → Option (List Batch)
  | .posts cycle => some cycle
  | .collects => none

namespace Transition

def tick? (x : Transition) : Option Tick :=
  match x.event with
  | .collected fs => some ⟨x.now.wall, fs⟩
  | _ => none

def verdict? (x : Transition) : Option Bool :=
  match x.event with
  | .schedule e => e.verdict?
  | _ => none

end Transition

namespace History

variable (h : History)

def ticks : List Tick := h.filterMap Transition.tick?

def posts : List (List Batch) := (h.flatMap Transition.effects).filterMap Effect.posts?

def verdicts : List Bool := h.filterMap Transition.verdict?

theorem ticks_concat (x : Transition) : ticks (h ++ [x]) = ticks h ++ x.tick?.toList := by
  cases tick : x.tick? <;> simp [ticks, tick]

theorem posts_concat (x : Transition) :
    posts (h ++ [x]) = posts h ++ x.effects.filterMap Effect.posts? := by
  simp [posts]

theorem verdicts_concat (x : Transition) :
    verdicts (h ++ [x]) = verdicts h ++ x.verdict?.toList := by
  cases verdict : x.verdict? <;> simp [verdicts, verdict]

end History

variable {now : Moment} {p q : Pipeline} {e : Event} {effects : List Effect}

theorem stepProducer_eq_some {f : Producer.Event}
    (made : p.stepProducer now f = some (q, effects)) : ∃ producer shown,
      p.producer.step now f = some (producer, shown) ∧ q = { p with producer := producer } ∧
      effects = shown.filterMap fun | .collects => some .collects | _ => none := by
  simp only [stepProducer, Option.bind_eq_bind, Option.bind_eq_some_iff, Option.pure_def,
    Option.some.injEq, Prod.mk.injEq] at made
  obtain ⟨⟨producer, shown⟩, made, rfl, rfl⟩ := made
  exact ⟨producer, shown, made, rfl, rfl⟩

theorem move_of_tick (made : p.step now .tick = some (q, effects)) :
    Move now p .tick effects q := by
  obtain ⟨producer, shown, stepped, rfl, rfl⟩ := stepProducer_eq_some made
  cases phase : p.producer.phase with
  | waiting =>
    simp only [Producer.step, phase, Option.ite_none_right_eq_some, Option.some.injEq,
      Prod.mk.injEq] at stepped
    obtain ⟨due, rfl, rfl⟩ := stepped
    exact .tick phase due
  | _ => simp [Producer.step, phase] at stepped

theorem move_of_collected (made : p.step now (.collected fs) = some (q, effects)) :
    Move now p (.collected fs) effects q := by
  obtain ⟨producer, shown, stepped, rfl, rfl⟩ := stepProducer_eq_some made
  cases phase : p.producer.phase with
  | collecting =>
    simp only [Producer.step, phase, Option.some.injEq, Prod.mk.injEq] at stepped
    obtain ⟨rfl, rfl⟩ := stepped
    exact .collected phase
  | _ => simp [Producer.step, phase] at stepped

theorem move_of_quit (made : p.step now .quit = some (q, effects)) :
    Move now p .quit effects q := by
  obtain ⟨producer, shown, stepped, rfl, rfl⟩ := stepProducer_eq_some made
  cases phase : p.producer.phase with
  | waiting =>
    simp only [Producer.step, phase, Option.some.injEq, Prod.mk.injEq] at stepped
    obtain ⟨rfl, rfl⟩ := stepped
    exact .rest phase
  | sending s =>
    simp only [Producer.step, phase, Option.some.injEq, Prod.mk.injEq] at stepped
    obtain ⟨rfl, rfl⟩ := stepped
    exact .quit phase
  | _ => simp [Producer.step, phase] at stepped

theorem move_of_handOver (made : p.step now .handOver = some (q, effects)) :
    Move now p .handOver effects q := by
  simp only [step, Option.ite_none_left_eq_some, handOver?] at made
  obtain ⟨-, made⟩ := made
  split at made
  · next s phase none =>
    obtain ⟨producer, shown, stepped, rfl, rfl⟩ := stepProducer_eq_some made
    simp only [Producer.step, phase, Option.some.injEq, Prod.mk.injEq] at stepped
    obtain ⟨rfl, rfl⟩ := stepped
    exact .handOver phase none
  · cases made

theorem move_of_giveUp (made : p.step now .giveUp = some (q, effects)) :
    Move now p .giveUp effects q := by
  simp only [step, Option.ite_none_right_eq_some] at made
  obtain ⟨-, made⟩ := made
  obtain ⟨producer, shown, stepped, rfl, rfl⟩ := stepProducer_eq_some made
  cases phase : p.producer.phase with
  | sending s =>
    simp only [Producer.step, phase, Option.some.injEq, Prod.mk.injEq] at stepped
    obtain ⟨rfl, rfl⟩ := stepped
    exact .giveUp phase
  | _ => simp [Producer.step, phase] at stepped

theorem quiet_eq_some {r : Option Pipeline} (h : quiet r = some (q, effects)) :
    r = some q ∧ effects = [] := by
  obtain ⟨q, rfl, h⟩ := Option.map_eq_some_iff.mp h
  cases h
  exact ⟨rfl, rfl⟩

theorem stepQueue_eq_some {f : Scheduler.Event} (made : p.stepQueue now f = some q) :
    ∃ t shown i, Scheduler.Move now p.scheduler f shown t ∧
      (shown.filterMap heard?).foldlM tell p.ingestor = some i ∧
      q = { p with scheduler := t, ingestor := i } := by
  simp only [stepQueue, Option.bind_eq_bind, Option.bind_eq_some_iff, Option.pure_def,
    Option.some.injEq] at made
  obtain ⟨⟨t, shown⟩, made, i, told, rfl⟩ := made
  exact ⟨t, shown, i, Scheduler.move_of_step made, told, rfl⟩

theorem move_of_receive (made : p.step now .receive = some (q, effects)) :
    Move now p .receive effects q := by
  simp only [step, Option.bind_eq_bind, Option.bind_eq_some_iff] at made
  obtain ⟨s, handed, made⟩ := made
  obtain ⟨stepped, rfl⟩ := quiet_eq_some made
  simp only [stepIngestor, Option.bind_eq_bind, Option.bind_eq_some_iff] at stepped
  obtain ⟨⟨i, sent⟩, ingested, stepped⟩ := stepped
  cases phase : p.ingestor.phase with
  | receiving =>
    simp only [Ingestor.step, phase] at ingested
    split at ingested
    · next empty =>
      cases ingested
      cases stepped
      exact .skip phase handed (by simpa [nextBatch] using empty)
    · next some =>
      cases ingested
      obtain ⟨t, shown, i, move, told, rfl⟩ := stepQueue_eq_some stepped
      have some : (p.nextBatch s).samples ≠ [] := by simpa [nextBatch] using some
      rcases move.offered with rfl | rfl | rfl
      · cases told
        exact .send phase handed some move
      · cases told
        exact .hold phase handed some move
      · cases told
        exact .refuse phase handed some move
  | _ => simp [Ingestor.step, phase] at ingested

theorem move_of_runDry (made : p.step now .runDry = some (q, effects)) :
    Move now p .runDry effects q := by
  simp only [step] at made
  split at made
  · next gone none =>
    obtain ⟨stepped, rfl⟩ := quiet_eq_some made
    cases phase : p.ingestor.phase with
    | receiving =>
      simp only [stepIngestor, Ingestor.step, phase, Option.bind_eq_bind, Option.bind_some,
        Option.pure_def, Option.some.injEq] at stepped
      subst stepped
      exact .runDry phase none
    | _ => simp [stepIngestor, Ingestor.step, phase] at stepped
  · cases made

theorem move_of_signal (made : p.step now .signal = some (q, effects)) :
    Move now p .signal effects q := by
  obtain ⟨stepped, rfl⟩ := quiet_eq_some made
  cases phase : p.ingestor.phase with
  | receiving =>
    simp only [stepIngestor, Ingestor.step, phase, Option.bind_eq_bind, Option.bind_some,
      Option.pure_def, Option.some.injEq] at stepped
    subst stepped
    exact .stop phase
  | sending b =>
    simp only [stepIngestor, Ingestor.step, phase, Option.bind_eq_bind, Option.bind_some,
      Option.bind_eq_some_iff, Option.pure_def, Option.some.injEq] at stepped
    obtain ⟨⟨t, shown⟩, withdrawn, rfl⟩ := stepped
    exact .callOff phase (Scheduler.move_of_step withdrawn)
  | stopped => simp [stepIngestor, Ingestor.step, phase] at stepped

theorem move_of_enter (made : p.step now .enter = some (q, effects)) :
    Move now p .enter effects q := by
  obtain ⟨stepped, rfl⟩ := quiet_eq_some made
  obtain ⟨t, shown, i, move, told, rfl⟩ := stepQueue_eq_some stepped
  obtain ⟨c, rfl⟩ := move.entered
  cases phase : p.ingestor.phase with
  | sending b =>
    simp only [heard?, List.filterMap_cons, List.filterMap_nil, List.foldlM_cons, List.foldlM_nil,
      tell, Ingestor.step, phase] at told
    cases told
    exact .enter phase move
  | _ => simp [heard?, tell, Ingestor.step, phase] at told

theorem move_of_bounce (made : p.step now .bounce = some (q, effects)) :
    Move now p .bounce effects q := by
  simp only [step, Option.ite_none_right_eq_some] at made
  obtain ⟨ended, made⟩ := made
  obtain ⟨stepped, rfl⟩ := quiet_eq_some made
  obtain ⟨t, shown, i, move, told, rfl⟩ := stepQueue_eq_some stepped
  obtain ⟨c, rfl⟩ := move.bounced ended
  cases phase : p.ingestor.phase with
  | sending b =>
    simp only [heard?, List.filterMap_cons, List.filterMap_nil, List.foldlM_cons, List.foldlM_nil,
      tell, Ingestor.step, phase] at told
    cases told
    exact .bounce phase move
  | _ => simp [heard?, tell, Ingestor.step, phase] at told

theorem step_schedule {f : Scheduler.Event} (own : f.isSend = false) :
    p.step now (.schedule f) = (p.scheduler.step now f).map fun (t, shown) =>
      ({ p with scheduler := t }, shown.filterMap shown?) := by
  cases f with
  | offer | enter | withdraw => cases own
  | _ =>
    rw [Option.map_eq_bind]
    rfl

theorem move_of_schedule {f : Scheduler.Event}
    (made : p.step now (.schedule f) = some (q, effects)) : Move now p (.schedule f) effects q := by
  have own : f.isSend = false := by
    cases f with
    | offer | enter | withdraw => cases made
    | _ => rfl
  rw [step_schedule own, Option.map_eq_some_iff] at made
  obtain ⟨⟨t, shown⟩, stepped, made⟩ := made
  cases made
  exact .schedule own (Scheduler.move_of_step stepped)

theorem move_of_step (made : p.step now e = some (q, effects)) : Move now p e effects q := by
  cases e with
  | tick => exact move_of_tick made
  | collected fs => exact move_of_collected made
  | quit => exact move_of_quit made
  | handOver => exact move_of_handOver made
  | giveUp => exact move_of_giveUp made
  | receive => exact move_of_receive made
  | runDry => exact move_of_runDry made
  | signal => exact move_of_signal made
  | enter => exact move_of_enter made
  | bounce => exact move_of_bounce made
  | schedule f => exact move_of_schedule made

def play (p : Pipeline) : List (Moment × Event) → Option (History × Pipeline)
  | [] => some ([], p)
  | (now, e) :: rest => do
    let (q, effects) ← p.step now e
    let (h, r) ← q.play rest
    return (⟨p, now, e, effects, q⟩ :: h, r)

theorem Run.cons {h : History} {r : Pipeline} (made : p.step now e = some (q, effects))
    (rest : Run q h r) : Run p (⟨p, now, e, effects, q⟩ :: h) r := by
  induction rest with
  | nil => exact Run.nil.step made
  | step _ next ih => exact ih.step next

theorem run_of_play {script : List (Moment × Event)} (h : p.play script = some (past, q)) :
    Run p past q := by
  induction script generalizing p past with
  | nil => cases h; exact .nil
  | cons first rest ih =>
    simp only [play, Option.bind_eq_bind, Option.bind_eq_some_iff] at h
    obtain ⟨⟨r, effects⟩, made, ⟨past, s⟩, played, h⟩ := h
    cases h
    exact .cons made (ih played)

theorem Run.of_play (p : Pipeline) (script : List (Moment × Event)) (see : History × Pipeline → α)
    (h : (p.play script).map see = some a) : ∃ past q, Run p past q ∧ see (past, q) = a := by
  obtain ⟨⟨past, q⟩, played, seen⟩ := Option.map_eq_some_iff.mp h
  exact ⟨past, q, run_of_play played, seen⟩

end Pipeline

end HostMonitor.Posting
