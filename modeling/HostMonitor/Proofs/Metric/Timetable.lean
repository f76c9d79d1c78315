import HostMonitor.Proofs.Metric.Supply
import Mathlib.Data.List.Perm.Subperm

namespace HostMonitor.Metric.Supply

variable {period tolerance began capacity : Nat} {collectors : List Collector} {ticks : List Tick}
  {now : Moment} {m n : Supply} {e : Event} {effects : List Effect} {h : History}

/-- The deadlines are different multiples of the period past the start, and each is served when it
has come; those missed while a tick is late, by more than is tolerated, are skipped. -/
structure Timed (period tolerance began : Nat) (ticks : List Tick) : Prop where
  deadlines : ∃ ks : List Nat, ks.Pairwise (· < ·) ∧ (∀ k ∈ ks, 0 < k) ∧
    ticks.map Tick.due = ks.map fun k => began + k * period
  served : ∀ t ∈ ticks, t.due ≤ t.served
  skips : ∀ t ∈ ticks, t.due + tolerance < t.served →
    t.served < t.next ∧ t.next ≤ t.served + period

theorem Timed.length_le {T : Nat} (timed : Timed period tolerance began ticks)
    (positive : 0 < period) (past : ∀ t ∈ ticks, t.served ≤ began + T) :
    ticks.length ≤ T / period := by
  obtain ⟨ks, increasing, starts, dues⟩ := timed.deadlines
  have inside : ks ⊆ List.range' 1 (T / period) := by
    intro k hk
    have due : began + k * period ∈ ticks.map Tick.due := dues ▸ List.mem_map_of_mem hk
    obtain ⟨t, ht, same⟩ := List.mem_map.mp due
    have reached : k * period ≤ T := by
      have := timed.served t ht
      have := past t ht
      omega
    have := starts k hk
    have := (Nat.le_div_iff_mul_le positive).mpr reached
    exact List.mem_range'_1.mpr (by omega)
  have different : ks.Nodup := increasing.imp Nat.ne_of_lt
  calc ticks.length = ks.length := by simpa using congrArg List.length dues
    _ ≤ (List.range' 1 (T / period)).length := (List.subperm_of_subset different inside).length_le
    _ = T / period := List.length_range'

theorem Timed.concat {t : Tick} {k : Nat} (timed : Timed period tolerance began ticks)
    (first : 0 < k) (here : t.due = began + k * period) (later : ∀ u ∈ ticks, u.due < t.due)
    (served : t.due ≤ t.served) (skips : t.due + tolerance < t.served →
      t.served < t.next ∧ t.next ≤ t.served + period) :
    Timed period tolerance began (ticks ++ [t]) := by
  obtain ⟨ks, increasing, starts, dues⟩ := timed.deadlines
  have beyond : ∀ i ∈ ks, i < k := by
    intro i hi
    have member : began + i * period ∈ ticks.map Tick.due := dues ▸ List.mem_map_of_mem hi
    obtain ⟨u, hu, same⟩ := List.mem_map.mp member
    have less : i * period < k * period := by
      have := later u hu
      omega
    exact Nat.lt_of_mul_lt_mul_right less
  refine ⟨⟨ks ++ [k], ?_, ?_, ?_⟩, ?_, ?_⟩
  · exact List.pairwise_append.mpr ⟨increasing, List.pairwise_singleton _ _, by simpa using beyond⟩
  · exact List.forall_mem_append.mpr ⟨starts, by simpa using first⟩
  · rw [List.map_append, dues, List.map_append, List.map_singleton, here]
    rfl
  · exact List.forall_mem_append.mpr ⟨timed.served, by simpa using served⟩
  · exact List.forall_mem_append.mpr ⟨timed.skips, by simpa using skips⟩

/-- The ticker stands at a multiple of the period beyond all those it was at. -/
structure Clocked (period began : Nat) (h : History) (m : Supply) : Prop where
  period_eq : m.producer.ticker.period = period
  skip : m.producer.ticker.lateness = .skip
  timed : Timed period Ticker.tolerance began h.ticks
  ahead : ∃ k, 0 < k ∧ m.producer.ticker.due = began + k * period
  later : ∀ t ∈ h.ticks, t.due < m.producer.ticker.due

theorem Clocked.still (clocked : Clocked period began h m) (quiet : e ≠ .tick)
    (same : n.producer.ticker = m.producer.ticker) :
    Clocked period began (h ++ [⟨m, now, e, effects, n⟩]) n := by
  have none : History.ticks (h ++ [⟨m, now, e, effects, n⟩]) = h.ticks := by
    rw [History.ticks_concat]
    cases e <;> first | exact absurd rfl quiet | exact List.append_nil _
  obtain ⟨period_eq, skip, timed, ahead, later⟩ := clocked
  rw [← same] at period_eq skip ahead later
  exact ⟨period_eq, skip, none ▸ timed, ahead, none ▸ later⟩

theorem Clocked.tick (clocked : Clocked period began h m) (positive : 0 < period)
    (due : m.producer.ticker.due ≤ now.uptime)
    (served : n.producer.ticker = m.producer.ticker.serve now.uptime) :
    Clocked period began (h ++ [⟨m, now, .tick, effects, n⟩]) n := by
  obtain ⟨period_eq, skip, timed, ⟨k, first, here⟩, later⟩ := clocked
  obtain ⟨j, further, next, skips⟩ :=
    Ticker.due_serve_of_skip skip (period_eq.symm ▸ positive) due
  rw [period_eq] at next skips
  rw [← served] at next skips
  have more : History.ticks (h ++ [⟨m, now, .tick, effects, n⟩]) =
      h.ticks ++ [⟨m.producer.ticker.due, now.uptime, n.producer.ticker.due⟩] :=
    History.ticks_concat _ _
  have grows : m.producer.ticker.due < n.producer.ticker.due :=
    next ▸ Nat.lt_add_of_pos_right (Nat.mul_pos further positive)
  constructor
  case period_eq => rw [served]; exact period_eq
  case skip => rw [served]; exact skip
  case timed =>
    rw [more]
    exact timed.concat first here later due skips
  case ahead =>
    refine ⟨k + j, Nat.add_pos_left first j, ?_⟩
    rw [next, here, Nat.add_mul, Nat.add_assoc]
  case later =>
    rw [more]
    refine List.forall_mem_append.mpr ⟨fun t ht => Nat.lt_trans (later t ht) grows, ?_⟩
    simpa using grows

theorem clocked_of_run (positive : 0 < period)
    (run : Run (.start period began capacity collectors) h m) : Clocked period began h m := by
  refine run.invariant ⟨rfl, rfl, ⟨⟨[], .nil, nofun, rfl⟩, nofun, nofun⟩, ?_, nofun⟩ ?_
  · exact ⟨1, Nat.one_pos, by rw [Nat.one_mul]; rfl⟩
  · intro h m now e effects n _ clocked made
    cases move_of_step made with
    | tick =>
      obtain ⟨due, served⟩ := ticker_of_tick made
      exact clocked.tick positive due served
    | _ => exact clocked.still nofun rfl

end HostMonitor.Metric.Supply
