import HostMonitor.Proofs.Posting.Holding

namespace HostMonitor.Posting

open HostMonitor.Metric (Batch)
open Scheduler (Event Effect Transition History Move Run move_of_step step_of_move)

namespace Phase

def due : Phase → Nat
  | .returning rest => rest.length
  | _ => 0

end Phase

namespace Scheduler

def load (s : Scheduler) : Nat := s.holding.length

namespace History

def failures (h : History) : Nat := h.replies.countP fun r => !r.2

end History

def Transition.accepts (x : Transition) : Prop := ∃ b, .accepted b ∈ x.effects

variable {now : Moment} {s t : Scheduler} {e : Event} {effects : List Effect} {b : Batch}
  {h : History} {x : Transition} {settings : Settings} {offset : Span} {queue : Queue}
  {capacity : Nat}

theorem load_eq : s.load =
    s.phase.hand.length + s.queue.channel.length + s.queue.overflow.length := by
  rw [load, holding, Queue.held, List.length_append, List.length_append, Nat.add_assoc]

theorem Move.capacity_eq (move : Move now s e effects t) :
    t.queue.capacity = s.queue.capacity := by
  cases move with
  | accept | hold => exact Queue.capacity_offer
  | enter running found => exact Queue.capacity_enter? found
  | bounce ended found | withdraw running found => exact Queue.capacity_withdraw? found
  | take phase found | merge phase found => exact Queue.capacity_take? found
  | giveBack => exact Queue.capacity_giveBack
  | _ => rfl

theorem Move.hand_le (move : Move now s e effects t) (few : s.phase.hand.length ≤ 2) :
    t.phase.hand.length ≤ 2 := by
  cases move with
  | giveBack phase | abandon phase =>
    simp only [phase, Phase.hand, List.length_cons] at few
    exact Nat.le_of_succ_le few
  | _ => simp_all [Phase.hand]

theorem Move.load_of_accepted (move : Move now s e effects t) (accepted : .accepted b ∈ effects) :
    t.load = s.load + 1 ∧ s.queue.channel.length < s.queue.capacity := by
  cases move with
  | accept running free =>
    refine ⟨?_, Queue.channel_lt_of_free free⟩
    simp only [load, holding, List.length_append, (Queue.held_offer_perm free).length_eq,
      List.length_cons, Nat.add_assoc]
  | enter running found =>
    refine ⟨?_, Queue.channel_lt_of_enter? found⟩
    simp only [load, holding, List.length_append, (Queue.held_enter?_perm found).length_eq,
      List.length_cons, Nat.add_assoc]
  | _ => simp at accepted

theorem Move.load_le (move : Move now s e effects t) (quiet : ∀ b, .accepted b ∉ effects) :
    t.load ≤ s.load := by
  simp only [load, holding, List.length_append]
  cases move with
  | accept | enter => simp at quiet
  | hold running full => exact Nat.le_of_eq (by rw [Queue.held_offer_of_full full])
  | bounce ended found | withdraw running found =>
    exact Nat.le_of_eq (by rw [Queue.held_withdraw? found])
  | take phase found | merge phase found =>
    simp only [phase, Queue.held_take? found, Phase.hand, List.length_cons, List.length_nil]
    omega
  | giveBack phase =>
    simp only [phase, Queue.held_giveBack_perm.length_eq, Phase.hand, List.length_cons]
    omega
  | abandon phase =>
    simp only [phase, Phase.hand, List.length_cons]
    omega
  | _ => simp_all [Phase.hand]

theorem Move.due_le (move : Move now s e effects t) (few : s.phase.hand.length ≤ 2) :
    t.phase.due ≤ s.phase.due +
      2 * (effects.filterMap Effect.reply?).countP fun r => !r.2 := by
  cases move with
  | fail phase =>
    simp only [phase, Phase.hand] at few
    simpa [phase, Phase.due, Effect.reply?, List.filterMap] using few
  | giveBack phase | abandon phase => simp [phase, Phase.due, Effect.reply?, List.filterMap]
  | _ => simp_all [Phase.due]

theorem Move.overflow_cases (move : Move now s e effects t) :
    t.queue.overflow <:+ s.queue.overflow ∨
      ∃ b rest b', s.phase = .returning (b :: rest) ∧ b.fail? = some b' ∧
        b'.isExhausted s.settings.retryLimit = false ∧ t.phase = .returning rest ∧
        t.queue.overflow = s.queue.overflow ++ [b'] := by
  cases move with
  | accept | hold => exact .inl ⟨[], Queue.overflow_offer⟩
  | enter running found => exact .inl ⟨[], Queue.overflow_enter? found⟩
  | bounce ended found | withdraw running found => exact .inl ⟨[], Queue.overflow_withdraw? found⟩
  | take phase found | merge phase found => exact .inl (Queue.overflow_take? found)
  | giveBack phase counted fresh =>
    by_cases free : 0 < s.queue.free
    · exact .inl ⟨[], Queue.overflow_giveBack free⟩
    · exact .inr ⟨_, _, _, phase, counted, fresh, rfl, Queue.overflow_giveBack_of_full free⟩
  | _ => exact .inl (List.suffix_refl _)

theorem Move.overflow_le (move : Move now s e effects t) (few : s.phase.hand.length ≤ 2) :
    t.queue.overflow.length + t.phase.due ≤ s.queue.overflow.length + s.phase.due +
      2 * (effects.filterMap Effect.reply?).countP fun r => !r.2 := by
  have due := move.due_le few
  rcases move.overflow_cases with less | ⟨b, rest, b', phase, -, -, next, more⟩
  · have := less.length_le
    omega
  · rw [next, more, phase, Phase.due, Phase.due, List.length_append, List.length_singleton,
      List.length_cons]
    omega

theorem Move.overflow_eq_nil (move : Move now s e effects t) (once : s.settings.retryLimit = 0)
    (none : s.queue.overflow = []) : t.queue.overflow = [] := by
  rcases move.overflow_cases with less | ⟨b, rest, b', -, counted, fresh, -⟩
  · rwa [none, List.suffix_nil] at less
  · have failed := Batch.toNat_retries_of_fail? counted
    rw [once, Batch.isExhausted, decide_eq_false_iff_not, UInt32.not_lt,
      UInt32.le_iff_toNat_le] at fresh
    simp [failed] at fresh

theorem Run.capacity_eq (run : Run s h t) : t.queue.capacity = s.queue.capacity := by
  induction run with
  | nil => rfl
  | step _ made ih => exact (move_of_step made).capacity_eq.trans ih

theorem Run.hand_le (run : Run s h t) (few : s.phase.hand.length ≤ 2) :
    t.phase.hand.length ≤ 2 := by
  induction run with
  | nil => exact few
  | step _ made ih => exact (move_of_step made).hand_le ih

theorem Run.overflow_le (run : Run s h t) (few : s.phase.hand.length ≤ 2) :
    t.queue.overflow.length + t.phase.due ≤
      s.queue.overflow.length + s.phase.due + 2 * h.failures := by
  induction run with
  | nil => simp [History.failures]
  | step run made ih =>
    have now := (move_of_step made).overflow_le (run.hand_le few)
    simp only [History.failures, History.replies_append, History.replies_cons,
      History.replies_nil, List.append_nil, List.countP_append] at ih ⊢
    omega

theorem Run.overflow_eq_nil (run : Run s h t) (once : s.settings.retryLimit = 0)
    (none : s.queue.overflow = []) : t.queue.overflow = [] := by
  induction run with
  | nil => exact none
  | step run made ih => exact (move_of_step made).overflow_eq_nil (run.settings_eq ▸ once) ih

theorem load_le (few : s.phase.hand.length ≤ 2) :
    s.load ≤ s.queue.capacity + 2 + s.queue.overflow.length := by
  have := s.queue.channel_le
  rw [load_eq]
  omega

theorem load_start (built : Queue.ofCapacity? capacity = some queue) :
    (start settings offset queue).load = 0 := by
  rw [load, holding_start built]
  rfl

theorem Run.load_le_of_accepts (run : Run s h t) (low : s.load ≤ n)
    (below : ∀ x ∈ h, x.accepts → x.source.load < n) : ∀ x ∈ h, x.target.load ≤ n := by
  suffices (∀ x ∈ h, x.target.load ≤ n) ∧ t.load ≤ n from this.1
  induction run with
  | nil => exact ⟨by simp, low⟩
  | @step h t now e u effects run made ih =>
    obtain ⟨before, last⟩ := ih fun x hx => below x (List.mem_append_left _ hx)
    have move := move_of_step made
    have next : u.load ≤ n := by
      by_cases accepts : ∃ b, .accepted b ∈ effects
      · obtain ⟨b, accepted⟩ := accepts
        rw [(move.load_of_accepted accepted).1]
        exact below ⟨t, now, e, effects, u⟩ (by simp) ⟨b, accepted⟩
      · exact Nat.le_trans (move.load_le (not_exists.mp accepts)) last
    refine ⟨fun x hx => ?_, next⟩
    rcases List.mem_append.mp hx with hx | hx
    · exact before x hx
    · cases List.mem_singleton.mp hx
      exact next

end Scheduler

namespace Queue

structure Fresh (q : Queue) : Prop where
  waiting : q.waiting = []
  channel : ∀ b ∈ q.channel, b.retries = 0

structure Stocked (q : Queue) : Prop extends q.Fresh where
  full : q.channel.length = q.capacity

variable {q r : Queue} {b : Batch}

theorem Stocked.free (stocked : q.Stocked) : ¬0 < q.free := by
  rw [Queue.free, stocked.full]
  omega

theorem Stocked.take (stocked : q.Stocked) : ∃ b r, q.take? = some (b, r) ∧ b.retries = 0 ∧
    r.Fresh ∧ r.overflow = q.overflow := by
  have := q.capacity_pos
  have := stocked.full
  unfold take?
  split
  · next b bs channel =>
    have fresh := stocked.channel
    rw [channel] at fresh
    exact ⟨_, _, rfl, fresh b List.mem_cons_self,
      ⟨stocked.waiting, fun a ha => fresh a (List.mem_cons_of_mem b ha)⟩, rfl⟩
  · next channel _ => simp [channel] at this; omega
  · next channel _ => simp [channel] at this; omega

theorem Stocked.giveBack (stocked : q.Stocked) : (q.giveBack b).Stocked ∧
    (q.giveBack b).overflow = q.overflow ++ [b] := by
  refine ⟨⟨⟨?_, ?_⟩, ?_⟩, overflow_giveBack_of_full stocked.free⟩
  · rw [Queue.giveBack, dif_neg stocked.free]
    exact stocked.waiting
  · rw [channel_giveBack_of_full stocked.free]
    exact stocked.channel
  · rw [channel_giveBack_of_full stocked.free, capacity_giveBack]
    exact stocked.full

end Queue

namespace Scheduler

def Leads (s : Scheduler) (i : Nat) (t : Scheduler) (k : Nat) : Prop :=
  i ≤ k ∧ ∃ h, Run s h t ∧ (h.map fun x => x.now.uptime).Pairwise (· ≤ ·) ∧
    ∀ x ∈ h, i ≤ x.now.uptime ∧ x.now.uptime ≤ k

variable {s t u : Scheduler} {i k n : Nat} {e : Event} {effects : List Effect}
  {settings : Settings} {offset : Span} {queue : Queue} {capacity : Nat}

theorem Leads.refl : Leads s i s i := ⟨Nat.le_refl _, [], .nil, by simp⟩

theorem Leads.trans (first : Leads s i t k) (second : Leads t k u n) : Leads s i u n := by
  obtain ⟨later, h, run, onward, within⟩ := first
  obtain ⟨later', h', run', onward', within'⟩ := second
  refine ⟨Nat.le_trans later later', h ++ h', run.append run', ?_, fun x hx => ?_⟩
  · rw [List.map_append, List.pairwise_append]
    refine ⟨onward, onward', fun a ha b hb => ?_⟩
    obtain ⟨x, hx, rfl⟩ := List.mem_map.mp ha
    obtain ⟨y, hy, rfl⟩ := List.mem_map.mp hb
    exact Nat.le_trans (within x hx).2 (within' y hy).1
  · rcases List.mem_append.mp hx with hx | hx
    · exact ⟨(within x hx).1, Nat.le_trans (within x hx).2 later'⟩
    · exact ⟨Nat.le_trans later (within' x hx).1, (within' x hx).2⟩

theorem Leads.step (first : Leads s i t k) (later : k ≤ n)
    (move : Move ⟨n, .epoch⟩ t e effects u) : Leads s i u n :=
  first.trans ⟨later, _, Run.nil.step (step_of_move move), by simp, by simpa using later⟩

theorem fills (running : s.ended = false) (fresh : s.queue.Fresh) : ∃ q : Queue, q.Stocked ∧
    q.overflow = s.queue.overflow ∧ Leads s i { s with queue := q } i := by
  induction room : s.queue.capacity - s.queue.channel.length generalizing s with
  | zero =>
    have := s.queue.channel_le
    exact ⟨s.queue, ⟨fresh, by omega⟩, rfl, .refl⟩
  | succ n ih =>
    have free : 0 < s.queue.free := by
      rw [Queue.free, fresh.waiting, List.length_nil]
      omega
    have fresher : (s.queue.offer (.ofSamples [])).1.Fresh := by
      refine ⟨?_, fun b hb => ?_⟩
      · rw [Queue.offer, dif_pos free]
        exact fresh.waiting
      · rw [Queue.channel_offer free, List.mem_append, List.mem_singleton] at hb
        rcases hb with hb | rfl
        · exact fresh.channel b hb
        · rfl
    obtain ⟨q, stocked, same, leads⟩ :=
      ih (s := { s with queue := (s.queue.offer (.ofSamples [])).1 }) running fresher (by
        rw [Queue.channel_offer free, Queue.capacity_offer, List.length_append,
          List.length_singleton]
        omega)
    exact ⟨q, stocked, same.trans Queue.overflow_offer,
      (Leads.refl.step (Nat.le_refl i) (.accept running free)).trans leads⟩

theorem putsBack {b : Batch} {rest : List Batch} (limit : s.settings.retryLimit ≠ 0)
    (phase : s.phase = .returning (b :: rest)) (new : b.retries = 0)
    (stocked : s.queue.Stocked) : ∃ q : Queue, q.Stocked ∧
      q.overflow.length = s.queue.overflow.length + 1 ∧
      Leads s i { s with queue := q, phase := .returning rest } i := by
  have counted : b.fail? = some { b with retries := b.retries + 1 } := by
    simp [Batch.fail?, new]
  have fresh : ({ b with retries := b.retries + 1 } : Batch).isExhausted s.settings.retryLimit =
      false := by
    have pos : 0 < s.settings.retryLimit.toNat := Nat.pos_of_ne_zero fun none =>
      limit (UInt32.toNat_inj.mp none)
    simp only [Batch.isExhausted, new, decide_eq_false_iff_not, UInt32.not_lt,
      UInt32.le_iff_toNat_le]
    exact pos
  obtain ⟨still, more⟩ := stocked.giveBack (b := { b with retries := b.retries + 1 })
  exact ⟨_, still, by rw [more, List.length_append, List.length_singleton],
    Leads.refl.step (Nat.le_refl i) (.giveBack phase counted fresh)⟩

/-- During an outage, producers that keep the channel full make the list beside it grow by two in
each cycle. -/
theorem outage_cycle (limit : s.settings.retryLimit ≠ 0) (phase : s.phase = .idle)
    (stocked : s.queue.Stocked) (i : Nat) : ∃ t k, Leads s i t k ∧ t.settings = s.settings ∧
      t.phase = .idle ∧ t.queue.Stocked ∧
      t.queue.overflow.length = s.queue.overflow.length + 2 := by
  -- Producers use each slot that a take leaves, so that there is none when the post has failed.
  obtain ⟨a, q₁, first, newA, fresh₁, same₁⟩ := stocked.take
  have taken := Leads.refl.step (Nat.le_refl i) (.take phase first)
  obtain ⟨q₂, stocked₂, same₂, filled⟩ :=
    fills (s := { s with queue := q₁, phase := .merging a }) rfl fresh₁
  obtain ⟨b, q₃, second, newB, fresh₃, same₃⟩ := stocked₂.take
  have merged := (taken.trans filled).step (Nat.le_refl i) (.merge rfl second)
  obtain ⟨q₄, stocked₄, same₄, refilled⟩ :=
    fills (s := { s with queue := q₃, phase := .choosing [a, b] }) rfl fresh₃
  have chosen := (merged.trans refilled).step (Nat.le_refl i) (.choose rfl)
  have posted := chosen.step (Nat.le_add_right i _) (.elapse rfl (Nat.le_refl _))
  have failed := posted.step (Nat.le_refl _) (.fail rfl)
  obtain ⟨q₅, stocked₅, more₅, backA⟩ := putsBack (s := { s with
    queue := q₄, mode := _, phase := .returning [a, b] }) limit rfl newA stocked₄
  obtain ⟨q₆, stocked₆, more₆, backB⟩ := putsBack (s := { s with
    queue := q₅, mode := _, phase := .returning [b] }) limit rfl newB stocked₅
  have done := ((failed.trans backA).trans backB).step (Nat.le_refl _) (.goOn rfl)
  refine ⟨_, _, done, rfl, rfl, stocked₆, ?_⟩
  simp only [more₅, more₆, same₁, same₂, same₃, same₄]

theorem outage (limit : s.settings.retryLimit ≠ 0) (phase : s.phase = .idle)
    (fresh : s.queue.Fresh) (n : Nat) : ∃ t k, Leads s 0 t k ∧ n < t.load := by
  suffices ∃ t k, Leads s 0 t k ∧ t.settings = s.settings ∧ t.phase = .idle ∧ t.queue.Stocked ∧
      n ≤ t.queue.overflow.length by
    obtain ⟨t, k, leads, -, -, stocked, many⟩ := this
    have := stocked.full
    have := t.queue.capacity_pos
    exact ⟨t, k, leads, by rw [load_eq]; omega⟩
  induction n with
  | zero =>
    have running : s.ended = false := by rw [ended, phase]
    obtain ⟨q, stocked, -, leads⟩ := fills running fresh
    exact ⟨_, _, leads, rfl, phase, stocked, Nat.zero_le _⟩
  | succ n ih =>
    obtain ⟨t, k, leads, same, phase, stocked, many⟩ := ih
    obtain ⟨u, m, cycle, same', phase', stocked', more⟩ :=
      outage_cycle (same ▸ limit) phase stocked k
    exact ⟨u, m, leads.trans cycle, same'.trans same, phase', stocked', by omega⟩

/-- What the capacity bounds. The channel has room for each batch that is accepted. What is held
exceeds the capacity and one cycle by two batches for each failed post at most. A run stays within
the capacity and one cycle just when no batch is accepted while so many are held, which happens only
while batches wait beside the channel and the queue is as long as its capacity already. Every run
stays within them only if nothing is ever put back, and else no number bounds what is held. -/
structure Throttled (settings : Settings) (offset : Span) (queue : Queue) : Prop where
  room : ∀ {h t}, Run (.start settings offset queue) h t → ∀ x ∈ h, x.accepts →
    x.source.queue.channel.length < queue.capacity
  outages : ∀ {h t}, Run (.start settings offset queue) h t →
    t.load ≤ queue.capacity + 2 + 2 * h.failures
  within : ∀ {h t}, Run (.start settings offset queue) h t →
    ((∀ x ∈ h, x.target.load ≤ queue.capacity + 2) ↔
      ∀ x ∈ h, x.accepts → x.source.load < queue.capacity + 2)
  beyond : ∀ {h t}, Run (.start settings offset queue) h t → ∀ x ∈ h, x.accepts →
    queue.capacity + 2 ≤ x.source.load →
      x.source.queue.overflow ≠ [] ∧ queue.capacity ≤ x.source.queue.length
  always : (∀ {h t}, Run (.start settings offset queue) h t → t.load ≤ queue.capacity + 2) ↔
    settings.retryLimit = 0
  unbounded : settings.retryLimit ≠ 0 → ∀ n, ∃ h t, Run (.start settings offset queue) h t ∧
    (h.map fun x => x.now.uptime).Pairwise (· ≤ ·) ∧ n < t.load

theorem load_throttled (built : Queue.ofCapacity? capacity = some queue) :
    Throttled settings offset queue := by
  obtain ⟨channel, waiting, overflow⟩ := Queue.empty_of_ofCapacity? built
  have few : (start settings offset queue).phase.hand.length ≤ 2 := Nat.zero_le _
  have low : (start settings offset queue).load ≤ queue.capacity + 2 :=
    (load_start built).symm ▸ Nat.zero_le _
  -- An outage sends what fills the channel beside it, again and again.
  have unbounded : settings.retryLimit ≠ 0 → ∀ n, ∃ h t, Run (.start settings offset queue) h t ∧
      (h.map fun x => x.now.uptime).Pairwise (· ≤ ·) ∧ n < t.load := by
    intro limit n
    obtain ⟨t, -, ⟨-, h, run, onward, -⟩, more⟩ := outage (s := start settings offset queue) limit
      rfl ⟨waiting, by simp [start, channel]⟩ n
    exact ⟨h, t, run, onward, more⟩
  constructor
  case room =>
    rintro h t run x hx ⟨b, accepted⟩
    obtain ⟨h₁, h₂, -, before, move, -⟩ := run.split hx
    have room := (move.load_of_accepted accepted).2
    rwa [before.capacity_eq] at room
  case outages =>
    intro h t run
    have less := run.overflow_le few
    have most := load_le (run.hand_le few)
    rw [run.capacity_eq] at most
    simp only [start, overflow, Phase.due, List.length_nil] at less most
    omega
  case within =>
    refine fun run => ⟨fun within x hx accepts => ?_, run.load_le_of_accepts low⟩
    obtain ⟨b, accepted⟩ := accepts
    have := within x hx
    rw [((run.move hx).load_of_accepted accepted).1] at this
    exact this
  case beyond =>
    rintro h t run x hx ⟨b, accepted⟩ many
    obtain ⟨h₁, h₂, -, before, move, -⟩ := run.split hx
    have room := (move.load_of_accepted accepted).2
    have few := before.hand_le few
    have same : x.source.queue.capacity = queue.capacity := before.capacity_eq
    rw [load_eq] at many
    refine ⟨fun none => ?_, ?_⟩
    · rw [none, List.length_nil] at many
      omega
    · rw [Queue.length, Queue.held, List.length_append]
      omega
  case always =>
    refine ⟨fun bounded => Decidable.byContradiction fun limit => ?_, fun once h t run => ?_⟩
    · obtain ⟨h, t, run, -, more⟩ := unbounded limit (queue.capacity + 2)
      exact Nat.not_lt.mpr (bounded run) more
    · have most := load_le (run.hand_le few)
      rw [run.overflow_eq_nil once overflow, run.capacity_eq] at most
      exact most
  case unbounded => exact unbounded

theorem load_of_trial_throttled : Queue.ofCapacity? 1 = some trial.queue ∧
    Throttled trial.settings trial.offset trial.queue := by
  have built : Queue.ofCapacity? 1 = some trial.queue := rfl
  exact ⟨built, load_throttled built⟩

theorem trial_holds_four : ¬∀ h s, Run trial h s → s.load ≤ trial.queue.capacity + 2 := by
  intro bounded
  obtain ⟨h, s, run, four⟩ := Run.of_play trial (atOnce [
    .offer reading, .take, .offer reading, .merge, .offer reading, .choose, .elapse, .reply false,
    .giveBack, .giveBack, .giveBack, .take, .offer reading]) (fun r => r.2.load) rfl
  have := bounded h s run
  rw [four] at this
  cases Nat.lt_irrefl 3 this

end Scheduler

end HostMonitor.Posting
