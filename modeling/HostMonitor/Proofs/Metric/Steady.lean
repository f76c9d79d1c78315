import HostMonitor.Proofs.Metric.Timetable

namespace HostMonitor.Metric.Supply

variable {period tolerance began capacity : Nat} {ticker : Ticker} {collectors : List Collector}
  {now : Moment}
  {m n : Supply} {e : Event} {effects : List Effect} {h : History}

def busy (m : Supply) : Nat :=
  match m.producer.phase with
  | .collecting => 1
  | _ => 0

namespace Move

theorem outside_eq (move : Move now m e effects n) :
    m.outside ++ effects.filterMap Effect.collected? =
      effects.filterMap Effect.entered? ++ n.outside ++ effects.filterMap Effect.dropped? := by
  cases move with
  | tick phase | collect phase | enter phase | giveUp phase | rest phase | stop phase =>
    simp only [outside, withPhase, phase]
    rfl
  | _ => exact (List.append_nil _).trans (List.append_nil _).symm

theorem stopped_of_dropped (move : Move now m e effects n)
    (dropped : effects.filterMap Effect.dropped? ≠ []) :
    n.producer.phase = .stopped ∧ (effects.filterMap Effect.dropped?).length = 1 := by
  cases move with
  | giveUp | stop => exact ⟨rfl, rfl⟩
  | _ => exact absurd rfl dropped

theorem silent (move : Move now m e effects n) (stopped : m.producer.phase = .stopped) :
    n.producer.phase = .stopped ∧ effects.filterMap Effect.collected? = [] ∧
      effects.filterMap Effect.entered? = [] ∧ effects.filterMap Effect.dropped? = [] := by
  cases move with
  | tick phase | collect phase | enter phase | giveUp phase | rest phase | stop phase =>
    rw [stopped] at phase
    cases phase
  | _ => exact ⟨stopped, rfl, rfl, rfl⟩

theorem busy_eq (move : Move now m e effects n) :
    m.busy + effects.countP Effect.isStart =
      (effects.filterMap Effect.collected?).length + n.busy := by
  cases move with
  | tick phase | collect phase | enter phase | giveUp phase | rest phase | stop phase =>
    simp only [busy, withPhase, phase]
    rfl
  | _ => exact (Nat.zero_add _).symm

theorem runs_eq (move : Move now m e effects n) :
    n.runs = m.runs + (effects.filterMap Effect.collected?).length := by
  cases move <;> rfl

theorem tick_eq (move : Move now m e effects n) :
    (tick? ⟨m, now, e, effects, n⟩).toList.length = effects.countP Effect.isStart := by
  cases move <;> rfl

theorem channel_eq (move : Move now m e effects n) :
    m.channel ++ effects.filterMap Effect.entered? =
        effects.filterMap Effect.took? ++ n.channel ∧ n.consuming = m.consuming ∨
      e = .leave ∧ n.channel = [] ∧ n.consuming = false ∧ effects = [] := by
  cases move with
  | leave => exact .inr ⟨rfl, rfl, rfl, rfl⟩
  | take channel => exact .inl ⟨(List.append_nil _).trans channel, rfl⟩
  | enter => exact .inl ⟨rfl, rfl⟩
  | _ => exact .inl ⟨List.append_nil _, rfl⟩

theorem consuming_of_entered (move : Move now m e effects n)
    (entered : effects.filterMap Effect.entered? ≠ []) : m.consuming = true := by
  cases move with
  | enter _ _ consuming => exact consuming
  | _ => exact absurd rfl entered

theorem channel_le (move : Move now m e effects n) (within : m.channel.length ≤ m.capacity) :
    n.channel.length ≤ n.capacity := by
  cases move with
  | enter _ room =>
    show (m.channel ++ [_]).length ≤ m.capacity
    rw [List.length_append]
    exact room
  | take channel =>
    rw [channel] at within
    exact Nat.le_of_succ_le within
  | leave => exact Nat.zero_le _
  | _ => exact within

end Move

structure Ordered (h : History) (m : Supply) : Prop where
  collected : h.collected = h.entered ++ m.outside ++ h.dropped
  stopped : h.dropped ≠ [] → m.producer.phase = .stopped ∧ h.dropped.length = 1

theorem outside_of_stopped (stopped : m.producer.phase = .stopped) : m.outside = [] := by
  rw [outside, stopped]

theorem length_outside_le (m : Supply) : m.outside.length ≤ 1 := by
  unfold outside
  split
  · exact Nat.le_refl 1
  · exact Nat.zero_le 1

theorem Ordered.step (ordered : Ordered h m) (move : Move now m e effects n) :
    Ordered (h ++ [⟨m, now, e, effects, n⟩]) n := by
  constructor
  case collected =>
    rw [History.collected_concat, History.entered_concat, History.dropped_concat,
      ordered.collected]
    by_cases dropped : h.dropped = []
    · rw [dropped, List.append_nil, List.append_assoc, move.outside_eq]
      simp
    · have stopped := (ordered.stopped dropped).1
      obtain ⟨still, collected, entered, more⟩ := move.silent stopped
      simp [outside_of_stopped stopped, outside_of_stopped still, collected, entered, more]
  case stopped =>
    rw [History.dropped_concat]
    intro some
    by_cases dropped : h.dropped = []
    · rw [dropped, List.nil_append] at some ⊢
      exact move.stopped_of_dropped some
    · obtain ⟨stopped, one⟩ := ordered.stopped dropped
      obtain ⟨still, -, -, more⟩ := move.silent stopped
      exact ⟨still, by rw [more, List.append_nil, one]⟩

theorem Ordered.length_le (ordered : Ordered h m) : h.collected.length ≤ h.entered.length + 1 := by
  have one := length_outside_le m
  rw [ordered.collected, List.length_append, List.length_append]
  by_cases dropped : h.dropped = []
  · rw [dropped]
    exact Nat.add_le_add_left one _
  · obtain ⟨stopped, one⟩ := ordered.stopped dropped
    rw [outside_of_stopped stopped, one]
    exact Nat.le_refl _

theorem Loose.ordered (run : Loose (.idle ticker capacity collectors) h m) : Ordered h m :=
  run.invariant ⟨rfl, fun dropped => absurd rfl dropped⟩ Ordered.step

structure Counted (h : History) (m : Supply) : Prop where
  begun : h.begun = h.collected.length + m.busy
  ticks : h.ticks.length = h.begun
  runs : m.runs = h.collected.length

theorem Counted.step (counted : Counted h m) (move : Move now m e effects n) :
    Counted (h ++ [⟨m, now, e, effects, n⟩]) n := by
  obtain ⟨begun, ticks, runs⟩ := counted
  have worked := move.busy_eq
  constructor
  · rw [History.begun_concat, History.collected_concat, List.length_append, begun, Nat.add_assoc,
      worked, Nat.add_assoc]
  · rw [History.ticks_concat, History.begun_concat, List.length_append, move.tick_eq, ticks]
  · rw [move.runs_eq, History.collected_concat, List.length_append, runs]

theorem Loose.counted (run : Loose (.idle ticker capacity collectors) h m) : Counted h m :=
  run.invariant ⟨rfl, rfl, rfl⟩ Counted.step

structure Channelled (h : History) (m : Supply) : Prop where
  received : h.took ++ m.channel <+: h.entered
  whole : m.consuming = true → h.took ++ m.channel = h.entered
  within : m.channel.length ≤ m.capacity

theorem Channelled.step (channelled : Channelled h m) (move : Move now m e effects n) :
    Channelled (h ++ [⟨m, now, e, effects, n⟩]) n := by
  obtain ⟨received, whole, within⟩ := channelled
  rcases move.channel_eq with ⟨balance, consuming⟩ | ⟨rfl, channel, gone, rfl⟩
  · have moved (same : h.took ++ m.channel = h.entered) :
        History.took (h ++ [⟨m, now, e, effects, n⟩]) ++ n.channel =
          History.entered (h ++ [⟨m, now, e, effects, n⟩]) := by
      rw [History.took_concat, History.entered_concat, List.append_assoc, ← balance, ← same,
        List.append_assoc]
    refine ⟨?_, fun there => moved (whole (consuming ▸ there)), move.channel_le within⟩
    by_cases entered : effects.filterMap Effect.entered? = []
    · rw [entered, List.append_nil] at balance
      rw [History.took_concat, History.entered_concat, entered, List.append_assoc, ← balance,
        List.append_nil]
      exact received
    · have same := moved (whole (move.consuming_of_entered entered))
      exact same ▸ List.prefix_rfl
  · refine ⟨?_, fun there => absurd there (by simp [gone]), move.channel_le within⟩
    rw [History.took_concat, History.entered_concat, channel, List.append_nil]
    simpa using (List.prefix_append _ _).trans received

theorem Loose.channelled (run : Loose (.idle ticker capacity collectors) h m) : Channelled h m :=
  run.invariant ⟨List.prefix_rfl, fun _ => rfl, Nat.zero_le _⟩ Channelled.step

def IsEnd (x : Transition) : Prop := x.event = .leave ∨ x.event = .raise ∨ x.event = .orphan

theorem Move.consuming_of_ne (move : Move now m e effects n) (stays : e ≠ .leave) :
    n.consuming = m.consuming :=
  (move.channel_eq.resolve_right fun left => stays left.1).2

theorem Move.quit_of_ne (move : Move now m e effects n) (raised : e ≠ .raise)
    (orphaned : e ≠ .orphan) : n.quit = m.quit := by
  cases move with
  | raise => exact absurd rfl raised
  | orphan => exact absurd rfl orphaned
  | _ => rfl

theorem Move.ending_of_dropped (move : Move now m e effects n)
    (dropped : effects.filterMap Effect.dropped? ≠ []) :
    m.consuming = false ∨ m.quit.isOver = true := by
  cases move with
  | giveUp _ gone => exact .inl gone
  | rest _ ended | stop _ ended => exact .inr ended
  | _ => exact absurd rfl dropped

theorem Loose.end_of_ending (run : Loose (.idle ticker capacity collectors) h m)
    (ending : m.consuming = false ∨ m.quit.isOver = true) : ∃ x ∈ h, IsEnd x := by
  induction run with
  | nil => rcases ending with ending | ending <;> cases ending
  | @step h m now e effects n _ move ih =>
    by_cases last : IsEnd ⟨m, now, e, effects, n⟩
    · exact ⟨_, List.mem_append_right h List.mem_cons_self, last⟩
    · have before : m.consuming = false ∨ m.quit.isOver = true := by
        rwa [move.consuming_of_ne fun left => last (.inl left),
          move.quit_of_ne (fun raised => last (.inr (.inl raised)))
            fun orphaned => last (.inr (.inr orphaned))] at ending
      obtain ⟨x, hx, isEnd⟩ := ih before
      exact ⟨x, List.mem_append_left _ hx, isEnd⟩

theorem Loose.end_of_dropped (run : Loose (.idle ticker capacity collectors) h m)
    (dropped : History.dropped h ≠ []) : ∃ x ∈ h, IsEnd x := by
  induction run with
  | nil => exact absurd rfl dropped
  | @step h m now e effects n run move ih =>
    have before : ∃ x ∈ h, IsEnd x := by
      by_cases earlier : History.dropped h = []
      · have last : effects.filterMap Effect.dropped? ≠ [] := by
          simpa [History.dropped_concat, earlier] using dropped
        exact run.end_of_ending (move.ending_of_dropped last)
      · exact ih earlier
    obtain ⟨x, hx, isEnd⟩ := before
    exact ⟨x, List.mem_append_left _ hx, isEnd⟩

/-- The sets of a snapshot are those of the collectors that did not fail, in their order. -/
inductive Gathered (n : Nat) : List Collector → List ValueSet → Prop
  | nil : Gathered n [] []
  | failed : c.find n = none → Gathered n cs sets → Gathered n (c :: cs) sets
  | found : c.find n = some values → Gathered n cs sets →
      Gathered n (c :: cs) (⟨c.customIdentifier, values⟩ :: sets)

theorem gathered_ofFindings (n : Nat) (created : Instant) (cs : List Collector) :
    Gathered n cs (Snapshot.ofFindings created (cs.map (Collector.finding n))).sets := by
  induction cs with
  | nil => exact .nil
  | cons c cs ih =>
    cases found : c.find n with
    | none =>
      have set : (c.finding n).set? = none := by simp [Finding.set?, Collector.finding, found]
      rw [List.map_cons, Snapshot.ofFindings, List.filterMap_cons_none set]
      exact .failed found ih
    | some values =>
      have set : (c.finding n).set? = some ⟨c.customIdentifier, values⟩ := by
        simp [Finding.set?, Collector.finding, found]
      rw [List.map_cons, Snapshot.ofFindings, List.filterMap_cons_some set]
      exact .found found ih

theorem Move.collected (move : Move now m e effects n) : n.collectors = m.collectors ∧
    (effects.filterMap Effect.collected? = [] ∨
      ∃ s, effects = [.collected s] ∧ Gathered m.runs m.collectors s.sets) := by
  cases move with
  | collect _ made => exact ⟨rfl, .inr ⟨_, rfl, made ▸ gathered_ofFindings _ _ _⟩⟩
  | _ => exact ⟨rfl, .inl rfl⟩

theorem Loose.gathered (run : Loose (.idle ticker capacity collectors) h m) :
    m.collectors = collectors ∧
      ∀ i s, h.collected[i]? = some s → Gathered i collectors s.sets := by
  induction run with
  | nil => exact ⟨rfl, fun i s found => by cases found⟩
  | @step h m now e effects n run move ih =>
    obtain ⟨rfl, before⟩ := ih
    obtain ⟨same, none | ⟨new, rfl, gathered⟩⟩ := move.collected
    · refine ⟨same, ?_⟩
      rw [History.collected_concat, none, List.append_nil]
      exact before
    · refine ⟨same, fun i s found => ?_⟩
      have grown : History.collected (h ++ [⟨m, now, e, [.collected new], n⟩]) =
          History.collected h ++ [new] := History.collected_concat _ _
      rw [grown] at found
      by_cases earlier : i < (History.collected h).length
      · exact before i s (List.getElem?_append_left earlier ▸ found)
      · have last : i = (History.collected h).length := by
          have inside := (List.getElem?_eq_some_iff.mp found).1
          rw [List.length_append, List.length_singleton] at inside
          omega
        subst last
        obtain rfl : new = s := by simpa using found
        rwa [← run.counted.runs]

/-- The snapshots of the collectors, in a history whose steps lead to `m`: at most one in each
period since the start, each of what the collectors found; all on their way, in the order in which
they were collected, but for one that is dropped at the end; and never more than one outside the
channel, with the collectors at rest meanwhile. -/
structure Steady (period tolerance began : Nat) (collectors : List Collector) (h : History)
    (m : Supply) : Prop where
  timed : Timed period tolerance began h.ticks
  paced : ∀ T, (∀ x ∈ h, x.now.uptime ≤ began + T) → h.collected.length ≤ T / period
  ordered : h.collected = h.entered ++ m.outside ++ h.dropped
  alone : h.collected.length ≤ h.entered.length + 1
  resting : m.outside ≠ [] → h.begun = h.collected.length
  dropped : h.dropped ≠ [] → ∃ x ∈ h, IsEnd x
  received : h.took ++ m.channel <+: h.entered
  whole : m.consuming = true → h.took ++ m.channel = h.entered
  within : m.channel.length ≤ m.capacity
  gathered : ∀ i s, h.collected[i]? = some s → Gathered i collectors s.sets

theorem Loose.paced (positive : 0 < period) (run : Loose (.idle ticker capacity collectors) h m)
    (timed : Timed period tolerance began h.ticks) (T : Nat)
    (past : ∀ x ∈ h, x.now.uptime ≤ began + T) : h.collected.length ≤ T / period := by
  have counted := run.counted
  have served : ∀ t ∈ h.ticks, t.served ≤ began + T := by
    intro t ht
    obtain ⟨x, hx, tick⟩ := List.mem_filterMap.mp ht
    unfold tick? at tick
    split at tick
    · cases tick
      exact past x hx
    · cases tick
  calc h.collected.length ≤ h.begun := counted.begun ▸ Nat.le_add_right _ _
    _ = h.ticks.length := counted.ticks.symm
    _ ≤ T / period := timed.length_le positive served

theorem Loose.steady (positive : 0 < period) (run : Loose (.idle ticker capacity collectors) h m)
    (timed : Timed period tolerance began h.ticks) :
    Steady period tolerance began collectors h m := by
  have ordered := run.ordered
  have counted := run.counted
  have channelled := run.channelled
  constructor
  case timed => exact timed
  case paced => exact run.paced positive timed
  case ordered => exact ordered.collected
  case alone => exact ordered.length_le
  case resting =>
    intro waits
    rw [counted.begun, busy]
    split
    · next phase => exact absurd (by rw [outside, phase]) waits
    · rfl
  case dropped => exact run.end_of_dropped
  case received => exact channelled.received
  case whole => exact channelled.whole
  case within => exact channelled.within
  case gathered => exact run.gathered.2

/-- The supply is steady under every timetable of ticks, however late these come and whatever is
tolerated of that, and the ticker of the producer keeps such a timetable. -/
theorem supply_steady (positive : 0 < period) :
    (Run (.start period began capacity collectors) h m →
      Steady period Ticker.tolerance began collectors h m) ∧
    ∀ tolerance ticker, Loose (.idle ticker capacity collectors) h m →
      Timed period tolerance began h.ticks → Steady period tolerance began collectors h m := by
  refine ⟨fun run => ?_, fun _ _ run timed => run.steady positive timed⟩
  exact (loose_of_run run).steady positive (clocked_of_run positive run).timed

def trialCollectors : List Collector :=
  [⟨none, fun _ => some (.ofList [("load", ⟨1⟩)])⟩,
    ⟨none, fun n => if n = 1 then none else some (.ofList [("used", ⟨2⟩)])⟩,
    ⟨some "database", fun n => some (.ofList [("rows", .ofNat n)])⟩]

theorem supply_of_trial_steady : ∃ h m, 0 < 60 ∧ Run (.start 60 0 1 trialCollectors) h m ∧
    (h.ticks.map fun t => (t.due, t.served)) = [(60, 60), (120, 122), (180, 300), (360, 360)] ∧
    (h.collected.map fun s => s.sets.map ValueSet.customIdentifier) =
      [[none, none, some "database"], [none, some "database"], [none, none, some "database"],
        [none, none, some "database"]] ∧
    (h.took.length, m.channel.length, m.outside.length, h.dropped.length) = (2, 1, 0, 1) ∧
    Steady 60 5 0 trialCollectors h m := by
  obtain ⟨h, m, run, seen⟩ := Machine.Run.of_play step (.start 60 0 1 trialCollectors)
    ([(60, .tick), (61, .collect), (61, .enter), (122, .tick), (123, .collect), (250, .take),
      (250, .enter), (300, .tick), (301, .collect), (310, .take), (310, .enter), (360, .tick),
      (361, .collect), (400, .raise), (400, .stop)].map fun x => (⟨x.1, .epoch⟩, x.2))
    (fun r => ((History.ticks r.1).map fun t => (t.due, t.served),
      (History.collected r.1).map fun s => s.sets.map ValueSet.customIdentifier,
      (History.took r.1).length, r.2.channel.length, r.2.outside.length,
      (History.dropped r.1).length))
    (show _ = some ([(60, 60), (120, 122), (180, 300), (360, 360)],
      [[none, none, some "database"], [none, some "database"], [none, none, some "database"],
        [none, none, some "database"]], 2, 1, 0, 1) from rfl)
  obtain ⟨ticks, rest⟩ := Prod.mk.inj seen
  obtain ⟨collected, rest⟩ := Prod.mk.inj rest
  exact ⟨h, m, by decide, run, ticks, collected, rest, (supply_steady (by decide)).1 run⟩

end HostMonitor.Metric.Supply
