import HostMonitor.Metric.Producer
import HostMonitor.Proofs.Machine
import HostMonitor.Shutdown.Fanout

namespace HostMonitor.Metric

open Shutdown (Quit)

/-- A collector as the producer sees it. Any of its runs may fail. -/
structure Collector : Type where
  customIdentifier : Option String
  find : Nat → Option (Table Binary64)

def Collector.finding (n : Nat) (c : Collector) : Finding := ⟨c.customIdentifier, c.find n⟩

structure Supply : Type where
  producer : Producer
  collectors : List Collector
  runs : Nat
  capacity : Nat
  channel : List Snapshot
  consuming : Bool
  quit : Quit

namespace Supply

inductive Event : Type
  | tick
  | collect
  | enter
  | giveUp
  | stop
  | take
  | leave
  | raise
  | orphan

inductive Effect : Type
  | collects
  | collected (s : Snapshot)
  | entered (s : Snapshot)
  | took (s : Snapshot)
  | dropped (s : Snapshot)

def idle (ticker : Ticker) (capacity : Nat) (collectors : List Collector) : Supply :=
  ⟨⟨ticker, .waiting⟩, collectors, 0, capacity, [], true, .start⟩

def start (period began capacity : Nat) (collectors : List Collector) : Supply :=
  ⟨.start period began, collectors, 0, capacity, [], true, .start⟩

def withPhase (m : Supply) (phase : Producer.Phase) : Supply :=
  { m with producer := { m.producer with phase := phase } }

def shown : Producer.Effect → Effect
  | .collects => .collects
  | .sends s => .collected s
  | .dropped s => .dropped s

def tell (now : Moment) (m : Supply) (e : Producer.Event) : Option (Supply × List Effect) :=
  (m.producer.step now e).map fun (p, effects) => ({ m with producer := p }, effects.map shown)

def step (now : Moment) (m : Supply) : Event → Option (Supply × List Effect)
  | .tick => m.tell now .tick
  | .collect => tell now { m with runs := m.runs + 1 }
      (.collected (m.collectors.map (Collector.finding m.runs)))
  | .enter =>
    match m.producer.phase with
    | .sending s =>
      if m.consuming && m.channel.length < m.capacity then
        (tell now { m with channel := m.channel ++ [s] } .taken).map fun (n, _) => (n, [.entered s])
      else none
    | _ => none
  | .giveUp => if m.consuming then none else m.tell now .consumerGone
  | .stop => if m.quit.isOver then m.tell now .quit else none
  | .take =>
    match m.channel with
    | [] => none
    | s :: rest => some ({ m with channel := rest }, [.took s])
  | .leave => some ({ m with consuming := false, channel := [] }, [])
  | .raise => some ({ m with quit := m.quit.raise }, [])
  | .orphan => some ({ m with quit := m.quit.orphan }, [])

/-- What each event can do, whatever brings the ticks: when one comes and what it makes of the
ticker is left open. -/
inductive Move (now : Moment) (m : Supply) : Event → List Effect → Supply → Prop
  | tick : m.producer.phase = .waiting →
      Move now m .tick [.collects] { m with producer := ⟨ticker, .collecting⟩ }
  | collect : m.producer.phase = .collecting →
      s = .ofFindings now.wall (m.collectors.map (Collector.finding m.runs)) →
      Move now m .collect [.collected s] { m.withPhase (.sending s) with runs := m.runs + 1 }
  | enter : m.producer.phase = .sending s → m.channel.length < m.capacity →
      m.consuming = true →
      Move now m .enter [.entered s] { m.withPhase .waiting with channel := m.channel ++ [s] }
  | giveUp : m.producer.phase = .sending s → m.consuming = false →
      Move now m .giveUp [.dropped s] (m.withPhase .stopped)
  | rest : m.producer.phase = .waiting → m.quit.isOver = true →
      Move now m .stop [] (m.withPhase .stopped)
  | stop : m.producer.phase = .sending s → m.quit.isOver = true →
      Move now m .stop [.dropped s] (m.withPhase .stopped)
  | take : m.channel = s :: rest → Move now m .take [.took s] { m with channel := rest }
  | leave : Move now m .leave [] { m with consuming := false, channel := [] }
  | raise : Move now m .raise [] { m with quit := m.quit.raise }
  | orphan : Move now m .orphan [] { m with quit := m.quit.orphan }

abbrev Transition : Type := Machine.Transition Supply Event Effect

abbrev History : Type := Machine.History Supply Event Effect

abbrev Run : Supply → History → Supply → Prop := Machine.Run step

/-- From the state `m`, the steps of the history lead to the state `n`, whatever brings the ticks.
-/
inductive Loose (m : Supply) : History → Supply → Prop
  | nil : Loose m [] m
  | step : Loose m h n → Move now n e effects o → Loose m (h ++ [⟨n, now, e, effects, o⟩]) o

variable {now : Moment} {m n : Supply} {e : Event} {effects : List Effect} {s : Snapshot}
  {h : History}

theorem tell_eq_some {f : Producer.Event} (told : m.tell now f = some (n, effects)) :
    ∃ p found, m.producer.step now f = some (p, found) ∧ n = { m with producer := p } ∧
      effects = found.map shown := by
  obtain ⟨⟨p, found⟩, stepped, made⟩ := Option.map_eq_some_iff.mp told
  cases made
  exact ⟨p, found, stepped, rfl, rfl⟩

theorem move_of_tick (made : m.step now .tick = some (n, effects)) :
    Move now m .tick effects n := by
  obtain ⟨p, found, stepped, rfl, rfl⟩ := tell_eq_some made
  cases phase : m.producer.phase with
  | waiting =>
    simp only [Producer.step, phase, Option.ite_none_right_eq_some, Option.some.injEq,
      Prod.mk.injEq, Ticker.isDue, decide_eq_true_eq] at stepped
    obtain ⟨-, rfl, rfl⟩ := stepped
    exact .tick phase
  | _ => simp [Producer.step, phase] at stepped

theorem ticker_of_tick (made : m.step now .tick = some (n, effects)) :
    m.producer.ticker.due ≤ now.uptime ∧
      n.producer.ticker = m.producer.ticker.serve now.uptime := by
  obtain ⟨p, found, stepped, rfl, -⟩ := tell_eq_some made
  cases phase : m.producer.phase with
  | waiting =>
    simp only [Producer.step, phase, Option.ite_none_right_eq_some, Option.some.injEq,
      Prod.mk.injEq, Ticker.isDue, decide_eq_true_eq] at stepped
    obtain ⟨due, rfl, -⟩ := stepped
    exact ⟨due, rfl⟩
  | _ => simp [Producer.step, phase] at stepped

theorem move_of_collect (made : m.step now .collect = some (n, effects)) :
    Move now m .collect effects n := by
  obtain ⟨p, found, stepped, rfl, rfl⟩ := tell_eq_some made
  cases phase : m.producer.phase with
  | collecting =>
    simp only [Producer.step, phase, Option.some.injEq, Prod.mk.injEq] at stepped
    obtain ⟨rfl, rfl⟩ := stepped
    exact .collect phase rfl
  | _ => simp [Producer.step, phase] at stepped

theorem move_of_enter (made : m.step now .enter = some (n, effects)) :
    Move now m .enter effects n := by
  cases phase : m.producer.phase with
  | sending s =>
    simp only [step, phase, Option.ite_none_right_eq_some, Bool.and_eq_true,
      decide_eq_true_eq] at made
    obtain ⟨⟨consuming, room⟩, made⟩ := made
    obtain ⟨⟨n', shown⟩, told, made⟩ := Option.map_eq_some_iff.mp made
    cases made
    obtain ⟨p, found, stepped, rfl, -⟩ := tell_eq_some told
    simp only [Producer.step, phase, Option.some.injEq, Prod.mk.injEq] at stepped
    obtain ⟨rfl, -⟩ := stepped
    exact .enter phase room consuming
  | _ => simp [step, phase] at made

theorem move_of_giveUp (made : m.step now .giveUp = some (n, effects)) :
    Move now m .giveUp effects n := by
  obtain ⟨gone, made⟩ := Option.ite_none_left_eq_some.mp made
  obtain ⟨p, found, stepped, rfl, rfl⟩ := tell_eq_some made
  cases phase : m.producer.phase with
  | sending s =>
    simp only [Producer.step, phase, Option.some.injEq, Prod.mk.injEq] at stepped
    obtain ⟨rfl, rfl⟩ := stepped
    exact .giveUp phase (Bool.not_eq_true _ ▸ gone)
  | _ => simp [Producer.step, phase] at stepped

theorem move_of_stop (made : m.step now .stop = some (n, effects)) :
    Move now m .stop effects n := by
  obtain ⟨ended, made⟩ := Option.ite_none_right_eq_some.mp made
  obtain ⟨p, found, stepped, rfl, rfl⟩ := tell_eq_some made
  cases phase : m.producer.phase with
  | waiting =>
    simp only [Producer.step, phase, Option.some.injEq, Prod.mk.injEq] at stepped
    obtain ⟨rfl, rfl⟩ := stepped
    exact .rest phase ended
  | sending s =>
    simp only [Producer.step, phase, Option.some.injEq, Prod.mk.injEq] at stepped
    obtain ⟨rfl, rfl⟩ := stepped
    exact .stop phase ended
  | _ => simp [Producer.step, phase] at stepped

theorem move_of_take (made : m.step now .take = some (n, effects)) :
    Move now m .take effects n := by
  simp only [step] at made
  split at made
  · cases made
  · next s rest channel =>
    cases made
    exact .take channel

theorem move_of_step (made : m.step now e = some (n, effects)) : Move now m e effects n := by
  cases e with
  | tick => exact move_of_tick made
  | collect => exact move_of_collect made
  | enter => exact move_of_enter made
  | giveUp => exact move_of_giveUp made
  | stop => exact move_of_stop made
  | take => exact move_of_take made
  | leave => cases made; exact .leave
  | raise => cases made; exact .raise
  | orphan => cases made; exact .orphan

theorem loose_of_run (run : Run m h n) : Loose m h n :=
  run.invariant .nil fun _ loose made => loose.step (move_of_step made)

theorem Loose.invariant {P : History → Supply → Prop} (loose : Loose m h n) (start : P [] m)
    (keep : ∀ {h n now e effects o}, P h n → Move now n e effects o →
      P (h ++ [⟨n, now, e, effects, o⟩]) o) : P h n := by
  induction loose with
  | nil => exact start
  | step _ move ih => exact keep ih move

def outside (m : Supply) : List Snapshot :=
  match m.producer.phase with
  | .sending s => [s]
  | _ => []

def Effect.collected? : Effect → Option Snapshot
  | .collected s => some s
  | _ => none

def Effect.entered? : Effect → Option Snapshot
  | .entered s => some s
  | _ => none

def Effect.took? : Effect → Option Snapshot
  | .took s => some s
  | _ => none

def Effect.dropped? : Effect → Option Snapshot
  | .dropped s => some s
  | _ => none

def Effect.isStart : Effect → Bool
  | .collects => true
  | _ => false

structure Tick : Type where
  due : Nat
  served : Nat
  next : Nat

def tick? (x : Transition) : Option Tick :=
  match x.event with
  | .tick => some ⟨x.source.producer.ticker.due, x.now.uptime, x.target.producer.ticker.due⟩
  | _ => none

namespace History

def collected (h : History) : List Snapshot := h.effects.filterMap Effect.collected?

def entered (h : History) : List Snapshot := h.effects.filterMap Effect.entered?

def took (h : History) : List Snapshot := h.effects.filterMap Effect.took?

def dropped (h : History) : List Snapshot := h.effects.filterMap Effect.dropped?

def begun (h : History) : Nat := h.effects.countP Effect.isStart

def ticks (h : History) : List Tick := h.filterMap tick?

variable (h : History) (x : Transition)

theorem collected_concat :
    collected (h ++ [x]) = h.collected ++ x.effects.filterMap Effect.collected? := by
  simp [collected]

theorem entered_concat :
    entered (h ++ [x]) = h.entered ++ x.effects.filterMap Effect.entered? := by
  simp [entered]

theorem took_concat : took (h ++ [x]) = h.took ++ x.effects.filterMap Effect.took? := by
  simp [took]

theorem dropped_concat :
    dropped (h ++ [x]) = h.dropped ++ x.effects.filterMap Effect.dropped? := by
  simp [dropped]

theorem begun_concat : begun (h ++ [x]) = h.begun + x.effects.countP Effect.isStart := by
  simp [begun]

theorem ticks_concat : ticks (h ++ [x]) = h.ticks ++ (tick? x).toList := by
  rw [ticks, ticks, List.filterMap_append, List.filterMap_cons]
  cases tick? x <;> rfl

end History

end Supply

end HostMonitor.Metric
