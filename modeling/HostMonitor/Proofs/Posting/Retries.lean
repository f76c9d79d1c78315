import HostMonitor.Proofs.Posting.Holding
import HostMonitor.Proofs.Posting.Offset
import HostMonitor.Proofs.Posting.Posts

namespace HostMonitor.Posting

open HostMonitor.Metric (Batch)
open Scheduler (Event Effect Transition History Move Run move_of_step step_of_move)

def tallies (bs : List Batch) : List Nat := bs.map fun b => b.retries.toNat

@[simp] theorem tallies_nil : tallies [] = [] := rfl

@[simp] theorem tallies_cons (b : Batch) (bs : List Batch) :
    tallies (b :: bs) = b.retries.toNat :: tallies bs := rfl

@[simp] theorem tallies_append (bs cs : List Batch) :
    tallies (bs ++ cs) = tallies bs ++ tallies cs := by simp [tallies]

def Phase.tallies : Phase → List Nat
  | .returning rest => rest.map fun b => b.retries.toNat + 1
  | phase => Posting.tallies phase.hand

namespace Ledger

def failures (l : Ledger) (p : Parcel) : Nat := l.posts.countP fun r => !r.2 && decide (p ∈ r.1)

def marks (l : Ledger) (ps : List Parcel) : List Nat := ps.map l.failures

variable {l m : Ledger} {p : Parcel} {ps qs : List Parcel} {h : History} {s t : Scheduler}
  {now : Moment} {e : Event} {effects : List Effect}

@[simp] theorem marks_nil : l.marks [] = [] := rfl

@[simp] theorem marks_cons : l.marks (p :: ps) = l.failures p :: l.marks ps := rfl

@[simp] theorem marks_append : l.marks (ps ++ qs) = l.marks ps ++ l.marks qs := by simp [marks]

theorem failures_congr (posts : m.posts = l.posts) : m.failures = l.failures := by
  funext p
  rw [failures, failures, posts]

theorem marks_congr (posts : m.posts = l.posts) : m.marks ps = l.marks ps := by
  rw [marks, marks, failures_congr posts]

theorem marks_eq_cons {k : Nat} {ks : List Nat} (h : l.marks ps = k :: ks) :
    ∃ p qs, ps = p :: qs ∧ l.failures p = k ∧ l.marks qs = ks :=
  List.map_eq_cons_iff.mp h

theorem failures_deliver : l.deliver.failures = l.failures := by
  funext p
  simp [failures, deliver]

theorem marks_deliver : l.deliver.marks ps = l.marks ps := by
  rw [marks, marks, failures_deliver]

theorem failures_fail_of_mem (h : p ∈ l.hand) : l.fail.failures p = l.failures p + 1 := by
  simp [failures, fail, h]

theorem failures_fail_of_notMem (h : p ∉ l.hand) : l.fail.failures p = l.failures p := by
  simp [failures, fail, h]

theorem marks_fail_hand : l.fail.marks l.hand = (l.marks l.hand).map (· + 1) := by
  simp only [marks, List.map_map]
  exact List.map_congr_left fun p hp => failures_fail_of_mem hp

theorem marks_fail (apart : ∀ p ∈ l.hand, p ∉ ps) : l.fail.marks ps = l.marks ps :=
  List.map_congr_left fun p hp => failures_fail_of_notMem fun hand => apart p hand hp

theorem Known.failures_of_fresh (known : l.Known) (fresh : p ∉ l.accepted) : l.failures p = 0 := by
  refine List.countP_eq_zero.mpr fun r hr => ?_
  have : p ∉ r.1 := fun hp => fresh (known r hr p hp)
  simp [this]

theorem Balanced.next_fresh (balanced : l.Balanced) (b : Batch) :
    ⟨l.accepted.length, b⟩ ∉ l.accepted := by
  intro mem
  have number := List.mem_map_of_mem (f := Parcel.number) mem
  rw [balanced.numbered] at number
  simp at number

/-- Wherever a batch is, its count agrees with the ledger. -/
structure Counts (l : Ledger) (h : History) (s : Scheduler) : Prop where
  channel : l.marks l.channel = tallies s.queue.channel
  overflow : l.marks l.overflow = tallies s.queue.overflow
  hand : s.ended = false → l.marks l.hand = s.phase.tallies
  delivered : l.marks l.delivered = tallies h.delivered
  abandoned : l.marks l.abandoned = tallies h.abandoned

namespace Counts

theorem shift {x : Transition} (counts : l.Counts h x.source)
    (posts : (l.follow x).posts = l.posts) (unanswered : x.effects.filterMap Effect.reply? = [])
    (channel : l.marks (l.follow x).channel = tallies x.target.queue.channel)
    (overflow : l.marks (l.follow x).overflow = tallies x.target.queue.overflow)
    (hand : x.target.ended = false → l.marks (l.follow x).hand = x.target.phase.tallies)
    (abandoned : l.marks (l.follow x).abandoned =
      tallies h.abandoned ++ tallies (x.effects.filterMap Effect.abandoned?)) :
    (l.follow x).Counts (h ++ [x]) x.target where
  channel := (marks_congr posts).trans channel
  overflow := (marks_congr posts).trans overflow
  hand running := (marks_congr posts).trans (hand running)
  delivered := by
    rw [marks_congr posts, Ledger.delivered, posts, ← Ledger.delivered, counts.delivered]
    simp [History.delivered, unanswered]
  abandoned := by
    rw [marks_congr posts, abandoned]
    simp

theorem still {x : Transition} (counts : l.Counts h x.source)
    (silent : ∀ f ∈ x.effects, quiet f = true)
    (channel : x.target.queue.channel = x.source.queue.channel)
    (overflow : x.target.queue.overflow = x.source.queue.overflow)
    (hand : x.target.ended = false →
      x.source.ended = false ∧ x.target.phase.tallies = x.source.phase.tallies) :
    (l.follow x).Counts (h ++ [x]) x.target := by
  have replies : x.effects.filterMap Effect.reply? = [] :=
    List.filterMap_eq_nil_iff.mpr fun f hf => reply?_of_quiet (silent f hf)
  have abandoned : x.effects.filterMap Effect.abandoned? = [] :=
    List.filterMap_eq_nil_iff.mpr fun f hf => abandoned?_of_quiet (silent f hf)
  have same := follow_of_quiet (l := l) silent
  apply counts.shift (by rw [same]) replies
  · rw [same, counts.channel, channel]
  · rw [same, counts.overflow, overflow]
  · intro running
    rw [same, counts.hand (hand running).1, (hand running).2]
  · simp [same, counts.abandoned, abandoned]

theorem entered {b : Batch} (counts : l.Counts h s) (known : l.Known) (balanced : l.Balanced)
    (fresh : b.retries = 0) (channel : t.queue.channel = s.queue.channel ++ [b])
    (overflow : t.queue.overflow = s.queue.overflow) (phase : t.phase = s.phase) :
    (l.follow ⟨s, now, e, [.accepted b], t⟩).Counts (h ++ [⟨s, now, e, [.accepted b], t⟩]) t := by
  have unposted := known.failures_of_fresh (balanced.next_fresh b)
  apply counts.shift rfl rfl
  · simp [follow, note, enter, counts.channel, channel, unposted, fresh]
  · simp [follow, note, enter, counts.overflow, overflow]
  · intro running
    have running : s.ended = false := by simpa [Scheduler.ended, phase] using running
    simp [follow, note, enter, counts.hand running, phase]
  · simp [follow, note, enter, counts.abandoned, Effect.abandoned?, List.filterMap]

theorem taken {b : Batch} (counts : l.Counts h s) (found : s.queue.take? = some (b, t.queue))
    (running : s.ended = false) (hand : t.phase.tallies = s.phase.tallies ++ [b.retries.toNat]) :
    (l.follow ⟨s, now, e, [.took b], t⟩).Counts (h ++ [⟨s, now, e, [.took b], t⟩]) t := by
  have moved : l.marks l.take.channel = tallies t.queue.channel ∧
      l.marks l.take.overflow = tallies t.queue.overflow ∧
      l.marks l.take.hand = l.marks l.hand ++ [b.retries.toNat] := by
    have channel := counts.channel
    have overflow := counts.overflow
    rcases Queue.take?_cases found with ⟨channel', overflow'⟩ | ⟨empty, empty', overflow'⟩
    · rw [channel', tallies_cons] at channel
      obtain ⟨p, ps, split, head, tail⟩ := marks_eq_cons channel
      simp [take, split, head, tail, overflow, overflow']
    · rw [empty] at channel
      rw [overflow', tallies_cons] at overflow
      have channel : l.channel = [] := List.map_eq_nil_iff.mp channel
      obtain ⟨p, ps, split, head, tail⟩ := marks_eq_cons overflow
      simp [take, channel, split, head, tail, empty']
  apply counts.shift
  · exact posts_take
  · rfl
  · exact moved.1
  · exact moved.2.1
  · intro _
    rw [hand, ← counts.hand running]
    exact moved.2.2
  · simp [follow, note, counts.abandoned, Effect.abandoned?, List.filterMap]

theorem posted (counts : l.Counts h s) {cycle : List Batch} (phase : s.phase = .posting cycle) :
    l.marks l.hand = tallies cycle := by
  have hand := counts.hand (by simp [phase, Scheduler.ended])
  rwa [phase] at hand

theorem delivers {cycle : List Batch} (counts : l.Counts h s) (phase : s.phase = .posting cycle)
    (queue : t.queue = s.queue) (done : t.phase = .checking) :
    (l.follow ⟨s, now, e, [.delivered cycle], t⟩).Counts
      (h ++ [⟨s, now, e, [.delivered cycle], t⟩]) t where
  channel := marks_deliver.trans (queue ▸ counts.channel)
  overflow := marks_deliver.trans (queue ▸ counts.overflow)
  hand _ := by
    rw [done]
    rfl
  delivered := by
    have recorded : l.deliver.delivered = l.delivered ++ l.hand := by
      simp [Ledger.delivered, deliver]
    refine marks_deliver.trans ((congrArg l.marks recorded).trans ?_)
    rw [marks_append, counts.delivered, counts.posted phase]
    simp [History.delivered, Effect.reply?]
  abandoned := by
    refine marks_deliver.trans (counts.abandoned.trans ?_)
    simp [Effect.abandoned?, List.filterMap]

theorem fails {cycle : List Batch} (counts : l.Counts h s) (balanced : l.Balanced)
    (phase : s.phase = .posting cycle) (queue : t.queue = s.queue)
    (failed : t.phase = .returning cycle) :
    (l.follow ⟨s, now, e, [.failed cycle], t⟩).Counts
      (h ++ [⟨s, now, e, [.failed cycle], t⟩]) t where
  channel :=
    (marks_fail fun _ hp => (balanced.only_in_hand hp).1).trans (queue ▸ counts.channel)
  overflow :=
    (marks_fail fun _ hp => (balanced.only_in_hand hp).2.1).trans (queue ▸ counts.overflow)
  hand _ := by
    refine marks_fail_hand.trans ?_
    rw [counts.posted phase, failed]
    simp [tallies, Phase.tallies, Function.comp_def]
  delivered := by
    have recorded : l.fail.delivered = l.delivered := by simp [Ledger.delivered, fail]
    refine (congrArg l.fail.marks recorded).trans ?_
    rw [marks_fail fun _ hp => (balanced.only_in_hand hp).2.2.1, counts.delivered]
    simp [History.delivered, Effect.reply?]
  abandoned := by
    refine (marks_fail fun _ hp => (balanced.only_in_hand hp).2.2.2).trans ?_
    simp [counts.abandoned, Effect.abandoned?, List.filterMap]

theorem next {b : Batch} {rest : List Batch} (counts : l.Counts h s)
    (phase : s.phase = .returning (b :: rest)) :
    ∃ p ps, l.hand = p :: ps ∧ l.failures p = b.retries.toNat + 1 ∧
      l.marks ps = (Phase.returning rest).tallies := by
  have hand := counts.hand (by simp [phase, Scheduler.ended])
  rw [phase] at hand
  exact marks_eq_cons hand

theorem abandons {b b' : Batch} {rest : List Batch} (counts : l.Counts h s)
    (phase : s.phase = .returning (b :: rest)) (counted : b.fail? = some b')
    (queue : t.queue = s.queue) (left : t.phase = .returning rest) :
    (l.follow ⟨s, now, e, [.abandoned b'], t⟩).Counts
      (h ++ [⟨s, now, e, [.abandoned b'], t⟩]) t := by
  obtain ⟨p, ps, split, head, tail⟩ := counts.next phase
  have retries := Batch.toNat_retries_of_fail? counted
  apply counts.shift
  · exact posts_abandon
  · rfl
  · simp [follow, note, abandon, split, counts.channel, queue]
  · simp [follow, note, abandon, split, counts.overflow, queue]
  · simp [follow, note, abandon, split, tail, left]
  · simp [follow, note, abandon, split, counts.abandoned, head, retries, Effect.abandoned?]

theorem returns {b b' : Batch} {rest : List Batch} (counts : l.Counts h s)
    (phase : s.phase = .returning (b :: rest)) (counted : b.fail? = some b')
    (queue : t.queue = s.queue.giveBack b') (left : t.phase = .returning rest) :
    (l.follow ⟨s, now, e, [.gaveBack b'], t⟩).Counts
      (h ++ [⟨s, now, e, [.gaveBack b'], t⟩]) t := by
  obtain ⟨p, ps, split, head, tail⟩ := counts.next phase
  have retries := Batch.toNat_retries_of_fail? counted
  apply counts.shift
  · exact posts_giveBack _
  · rfl
  · by_cases free : 0 < s.queue.free
    · simp [follow, note, giveBack, split, free, queue, Queue.channel_giveBack, counts.channel,
        head, retries]
    · simp [follow, note, giveBack, split, free, queue, Queue.channel_giveBack_of_full,
        counts.channel]
  · by_cases free : 0 < s.queue.free
    · simp [follow, note, giveBack, split, free, queue, Queue.overflow_giveBack, counts.overflow]
    · simp [follow, note, giveBack, split, free, queue, Queue.overflow_giveBack_of_full,
        counts.overflow, head, retries]
  · by_cases free : 0 < s.queue.free <;> simp [follow, note, giveBack, split, free, tail, left]
  · by_cases free : 0 < s.queue.free <;>
      simp [follow, note, giveBack, split, free, counts.abandoned, Effect.abandoned?,
        List.filterMap]

theorem move (counts : l.Counts h s) (known : l.Known) (balanced : l.Balanced)
    (move : Move now s e effects t) (fresh : ∀ b, .accepted b ∈ effects → b.retries = 0) :
    (l.follow ⟨s, now, e, effects, t⟩).Counts (h ++ [⟨s, now, e, effects, t⟩]) t := by
  cases move with
  | refuse ended => exact counts.still (by simp [quiet]) rfl rfl fun running => ⟨running, rfl⟩
  | hold running full =>
    exact counts.still (by simp [quiet]) (Queue.channel_offer_of_full full) Queue.overflow_offer
      fun running => ⟨running, rfl⟩
  | bounce ended found | withdraw running found =>
    exact counts.still (by simp [quiet]) (Queue.channel_withdraw? found)
      (Queue.overflow_withdraw? found) fun running => ⟨running, rfl⟩
  | signalIdle phase | signalWaiting phase | alone phase | choose phase | elapse phase | goOn phase
  | finish phase | resume phase =>
    exact counts.still (by simp [quiet]) rfl rfl fun _ => by
      simp [phase, Scheduler.ended, Phase.tallies, Phase.hand]
  | hangUp => exact counts.still (by simp [quiet]) rfl rfl fun running => ⟨running, rfl⟩
  | force | overflow =>
    exact counts.still (by simp [quiet]) rfl rfl fun running => by
      simp [Scheduler.ended] at running
  | accept running free =>
    exact counts.entered known balanced (fresh _ (by simp)) (Queue.channel_offer free)
      Queue.overflow_offer rfl
  | enter running found =>
    exact counts.entered known balanced (fresh _ (by simp)) (Queue.channel_enter? found)
      (Queue.overflow_enter? found) rfl
  | take phase found | merge phase found =>
    exact counts.taken found (by simp [phase, Scheduler.ended])
      (by simp [phase, Phase.tallies, Phase.hand])
  | deliver phase => exact counts.delivers phase rfl rfl
  | fail phase => exact counts.fails balanced phase rfl rfl
  | abandon phase counted => exact counts.abandons phase counted rfl rfl
  | giveBack phase counted => exact counts.returns phase counted rfl rfl

theorem le_of_mem {bs : List Batch} {limit : UInt32} (marks : l.marks ps = tallies bs)
    (within : ∀ b ∈ bs, b.retries ≤ limit) (hp : p ∈ ps) : l.failures p ≤ limit.toNat := by
  have mem : l.failures p ∈ l.marks ps := List.mem_map_of_mem hp
  rw [marks] at mem
  obtain ⟨b, hb, same⟩ := List.mem_map.mp mem
  rw [← same]
  exact UInt32.le_iff_toNat_le.mp (within b hb)

end Counts

end Ledger

section

variable {settings : Settings} {offset : Span} {capacity : Nat} {queue : Queue} {h : History}
  {s t : Scheduler} {now : Moment} {e : Event} {effects : List Effect} {b : Batch}

theorem Ledger.counts_of_run (built : Queue.ofCapacity? capacity = some queue)
    (run : Run (.start settings offset queue) h s) (fresh : ∀ b ∈ h.accepted, b.retries = 0) :
    (Ledger.of h).Counts h s := by
  induction run with
  | nil =>
    obtain ⟨channel, -, overflow⟩ := Queue.empty_of_ofCapacity? built
    constructor <;>
      simp [Ledger.empty, Ledger.delivered, History.delivered, Scheduler.start, channel, overflow,
        Phase.tallies, Phase.hand]
  | @step h t now e u effects run made ih =>
    rw [Ledger.of_append]
    have counts := ih fun b hb => fresh b (by simp [hb])
    refine counts.move (Ledger.known_of h) (Ledger.balanced_of h) (move_of_step made) ?_
    exact fun b hb => fresh b (History.mem_accepted (x := ⟨t, now, e, effects, u⟩) (by simp) hb)

theorem Scheduler.Move.delivered (move : Move now s e effects t)
    (answered : .delivered cycle ∈ effects) : s.phase = .posting cycle := by
  cases move <;> simp_all

theorem Scheduler.Move.abandoned (move : Move now s e effects t)
    (gone : .abandoned b ∈ effects) : ∃ a rest, s.phase = .returning (a :: rest) ∧
      a.fail? = some b ∧ b.isExhausted s.settings.retryLimit = true := by
  cases move <;> simp_all

theorem Ledger.Counts.turn {l : Ledger} {rest : List Batch} (counts : l.Counts h s)
    (within : s.Within) (phase : s.phase = .returning (b :: rest)) (now : Moment) :
    ∃ p ps t effects, l.hand = p :: ps ∧ s.step now .giveBack = some (t, effects) ∧
      ((l.failures p ≤ s.settings.retryLimit.toNat ∧
          ∃ b', effects = [.gaveBack b'] ∧ b'.samples = b.samples ∧
            b'.retries.toNat = l.failures p) ∨
        (l.failures p = s.settings.retryLimit.toNat + 1 ∧
          ∃ b', effects = [.abandoned b'] ∧ b'.samples = b.samples ∧
            b'.retries.toNat = l.failures p) ∨
        (l.failures p = 0x1_0000_0000 ∧ effects = [] ∧ t.phase = .overflown)) := by
  obtain ⟨p, ps, hand, failures, -⟩ := counts.next phase
  have fewer := within.of_returning phase
  cases counted : b.fail? with
  | none =>
    have full := Batch.retries_of_fail?_eq_none counted
    exact ⟨p, ps, _, _, hand, step_of_move (.overflow phase counted),
      .inr (.inr ⟨by omega, rfl, rfl⟩)⟩
  | some b' =>
    have samples := Batch.samples_of_fail? counted
    have retries := Batch.toNat_retries_of_fail? counted
    cases exhausted : b'.isExhausted s.settings.retryLimit with
    | false =>
      have few : b'.retries.toNat ≤ s.settings.retryLimit.toNat :=
        UInt32.le_iff_toNat_le.mp (by simpa [Batch.isExhausted] using exhausted)
      exact ⟨p, ps, _, _, hand, step_of_move (.giveBack phase counted exhausted),
        .inl ⟨by omega, b', rfl, samples, by omega⟩⟩
    | true =>
      have many : s.settings.retryLimit.toNat < b'.retries.toNat :=
        UInt32.lt_iff_toNat_lt.mp (by simpa [Batch.isExhausted] using exhausted)
      exact ⟨p, ps, _, _, hand, step_of_move (.abandon phase counted exhausted),
        .inr (.inl ⟨by omega, b', rfl, samples, by omega⟩)⟩

theorem Ledger.Counts.kept {l : Ledger} {p : Parcel} (counts : l.Counts h s)
    (balanced : l.Balanced) (running : s.ended = false) (within : s.Within)
    (delivered : ∀ b ∈ h.delivered, b.retries ≤ s.settings.retryLimit) (hp : p ∈ l.accepted)
    (left : p ∉ l.abandoned) :
    l.failures p ≤ s.settings.retryLimit.toNat ∨
      (p ∈ l.hand ∧ l.failures p = s.settings.retryLimit.toNat + 1 ∧
        ∃ rest, s.phase = .returning rest) := by
  have place := balanced.placed.subset hp
  simp only [places, Ledger.left, List.mem_append, left, or_false] at place
  rcases place with hp | (hp | hp) | hp
  · exact .inl (Counts.le_of_mem counts.delivered delivered hp)
  · have hand := counts.hand running
    have fewer : ∀ b ∈ s.phase.hand, b.retries ≤ s.settings.retryLimit :=
      fun b hb => within b (Scheduler.mem_holding.mpr (.inl hb))
    cases phase : s.phase with
    | returning rest =>
      have mark : l.failures p ∈ l.marks l.hand := List.mem_map_of_mem hp
      rw [hand, phase] at mark
      obtain ⟨b, hb, failures⟩ := List.mem_map.mp mark
      have few := within.of_mem_hand (by simpa [phase, Phase.hand] using hb)
      by_cases last : l.failures p ≤ s.settings.retryLimit.toNat
      · exact .inl last
      · exact .inr ⟨hp, by omega, rest, rfl⟩
    | _ =>
      rw [phase] at hand fewer
      exact .inl (Counts.le_of_mem hand fewer hp)
  · exact .inl (Counts.le_of_mem counts.channel
      (fun b hb => within b (Scheduler.mem_holding.mpr (.inr (List.mem_append_left _ hb)))) hp)
  · exact .inl (Counts.le_of_mem counts.overflow
      (fun b hb => within b (Scheduler.mem_holding.mpr (.inr (List.mem_append_right _ hb)))) hp)

theorem Scheduler.Run.delivered_within (run : Run s h t) (within : s.Within)
    (entering : ∀ b ∈ h.accepted, b.retries ≤ s.settings.retryLimit) :
    ∀ b ∈ h.delivered, b.retries ≤ s.settings.retryLimit := by
  intro b hb
  obtain ⟨⟨cycle, accepted⟩, answered, hb⟩ := List.mem_flatMap.mp hb
  obtain ⟨answered, rfl⟩ : (cycle, accepted) ∈ h.replies ∧ accepted = true := by
    simpa using answered
  obtain ⟨f, hf, reply⟩ := List.mem_filterMap.mp answered
  obtain ⟨x, hx, hf⟩ := List.mem_flatMap.mp hf
  obtain rfl : f = .delivered cycle := by
    cases f <;> simp_all [Effect.reply?]
  obtain ⟨within, settings, move⟩ := run.within_at within entering hx
  rw [← settings]
  exact within b (Scheduler.mem_holding.mpr (.inl (by rw [move.delivered hf]; exact hb)))

theorem Scheduler.Run.abandoned_spent (run : Run s h t) (within : s.Within)
    (entering : ∀ b ∈ h.accepted, b.retries ≤ s.settings.retryLimit) :
    ∀ b ∈ h.abandoned, b.retries.toNat = s.settings.retryLimit.toNat + 1 := by
  intro b hb
  obtain ⟨f, hf, gone⟩ := List.mem_filterMap.mp hb
  obtain ⟨x, hx, hf⟩ := List.mem_flatMap.mp hf
  obtain rfl : f = .abandoned b := by
    cases f <;> simp_all [Effect.abandoned?]
  obtain ⟨within, settings, move⟩ := run.within_at within entering hx
  obtain ⟨a, rest, phase, counted, exhausted⟩ := move.abandoned hf
  have few := within.of_returning phase
  have many := UInt32.lt_iff_toNat_lt.mp (by simpa [Batch.isExhausted] using exhausted)
  have retries := Batch.toNat_retries_of_fail? counted
  rw [settings] at few many
  omega

theorem Ledger.overflown_of_run (built : Queue.ofCapacity? capacity = some queue)
    (run : Run (.start settings offset queue) h s) (fresh : ∀ b ∈ h.accepted, b.retries = 0)
    (halted : s.phase = .overflown) : settings.retryLimit.toNat = 0xffff_ffff ∧
      ∃ p ∈ (Ledger.of h).hand, (Ledger.of h).failures p = 0x1_0000_0000 := by
  obtain ⟨h₁, x, h₂, rfl, first, move, running, -, phase, closed⟩ :=
    Ledger.closed run (by simp [Scheduler.ended, halted])
  have early : ∀ b ∈ h₁.accepted, b.retries = 0 := fun b hb => fresh b (by simp [hb])
  have within := first.within (Scheduler.within_start built)
    fun b hb => by simp [early b hb]
  obtain ⟨a, rest, returning, full⟩ := move.overflown running (phase.trans halted)
  obtain ⟨p, ps, hand, failures, -⟩ := (Ledger.counts_of_run built first early).next returning
  have few := within.of_returning returning
  have all := Batch.retries_of_fail?_eq_none full
  have bound := settings.retryLimit.toNat_lt
  rw [first.settings_eq] at few
  change _ ≤ settings.retryLimit.toNat at few
  rw [closed]
  exact ⟨by omega, p, by simp [hand], by omega⟩

theorem Ledger.kept_of_run {p : Parcel} (built : Queue.ofCapacity? capacity = some queue)
    (run : Run (.start settings offset queue) h s) (fresh : ∀ b ∈ h.accepted, b.retries = 0)
    (hp : p ∈ (Ledger.of h).accepted) (left : p ∉ (Ledger.of h).abandoned) :
    (Ledger.of h).failures p ≤ settings.retryLimit.toNat ∨
      (p ∈ (Ledger.of h).hand ∧ (Ledger.of h).failures p = settings.retryLimit.toNat + 1 ∧
        ((∃ rest, s.phase = .returning rest) ∨ s.phase = .overflown)) := by
  have start : (Scheduler.start settings offset queue).Within := Scheduler.within_start built
  cases running : s.ended with
  | false =>
    have entering : ∀ b ∈ h.accepted, b.retries ≤ settings.retryLimit :=
      fun b hb => by simp [fresh b hb]
    have kept := (Ledger.counts_of_run built run fresh).kept (Ledger.balanced_of h) running
      (run.within start entering)
      (by rw [run.settings_eq]; exact run.delivered_within start entering) hp left
    rw [run.settings_eq] at kept
    exact kept.imp_right fun ⟨hand, last, returning⟩ => ⟨hand, last, .inl returning⟩
  | true =>
    -- The ledger is the one at the last move, which is made in a running state.
    obtain ⟨h₁, x, h₂, rfl, first, move, running', halted, phase, closed⟩ :=
      Ledger.closed run running
    have early : ∀ b ∈ h₁.accepted, b.retries = 0 := fun b hb => fresh b (by simp [hb])
    have entering : ∀ b ∈ h₁.accepted, b.retries ≤ settings.retryLimit :=
      fun b hb => by simp [early b hb]
    rw [closed] at hp left ⊢
    have kept := (Ledger.counts_of_run built first early).kept (Ledger.balanced_of h₁) running'
      (first.within start entering)
      (by rw [first.settings_eq]; exact first.delivered_within start entering) hp left
    rw [first.settings_eq] at kept
    refine kept.imp_right fun ⟨hand, last, rest, returning⟩ => ⟨hand, last, .inr ?_⟩
    rw [← phase]
    obtain ⟨-, -, ⟨checking, -⟩ | ⟨-, listens, -⟩ | overflown⟩ := move.ending running' halted
    · simp [returning] at checking
    · simp [returning, Phase.listens] at listens
    · exact overflown

/-- How the failures of batches are counted. A batch that is queued carries the number of failed
posts that it was part of, and so does one in hand, except that a batch of a post that has just
failed is counted when it is returned. No count exceeds the limit. A batch is delivered with its
count, and given up when its failures exceed the limit by one, which depends on no other batch. The
count overflows only without a limit, at the failure for which it has no room, and nothing else can
go wrong. -/
structure Retried (limit : UInt32) (l : Ledger) (h : History) (s : Scheduler) : Prop where
  fits : l.Fits h s
  queued : l.marks (l.channel ++ l.overflow) = tallies s.queue.held
  inHand : s.ended = false → l.marks l.hand = s.phase.tallies
  within : ∀ b ∈ s.holding, b.retries ≤ limit
  delivered : l.marks l.delivered = tallies h.delivered
  abandoned : l.marks l.abandoned = tallies h.abandoned ∧
    ∀ p ∈ l.abandoned, l.failures p = limit.toNat + 1
  kept : ∀ p ∈ l.accepted, p ∉ l.abandoned → l.failures p ≤ limit.toNat ∨
    (p ∈ l.hand ∧ l.failures p = limit.toNat + 1 ∧
      ((∃ rest, s.phase = .returning rest) ∨ s.phase = .overflown))
  turn : ∀ {b rest}, s.phase = .returning (b :: rest) → ∀ now, ∃ p ps t effects,
    l.hand = p :: ps ∧ s.step now .giveBack = some (t, effects) ∧
      ((l.failures p ≤ limit.toNat ∧ ∃ b', effects = [.gaveBack b'] ∧ b'.samples = b.samples ∧
          b'.retries.toNat = l.failures p) ∨
        (l.failures p = limit.toNat + 1 ∧ ∃ b', effects = [.abandoned b'] ∧
          b'.samples = b.samples ∧ b'.retries.toNat = l.failures p) ∨
        (l.failures p = 0x1_0000_0000 ∧ effects = [] ∧ t.phase = .overflown))
  counted : limit.toNat < 0xffff_ffff → s.phase ≠ .overflown
  unlimited : limit.toNat = 0xffff_ffff → l.abandoned = [] ∧ h.abandoned = []
  overflown : s.phase = .overflown →
    limit.toNat = 0xffff_ffff ∧ ∃ p ∈ l.hand, l.failures p = 0x1_0000_0000
  delays : ∀ now : Moment,
    untilOffset? s.offset s.settings.interval (Int64.ofInt now.wall.seconds) =
      some (untilOffset s.offset s.settings.interval now.wall.seconds)

theorem retries_count_failures (built : Queue.ofCapacity? capacity = some queue)
    (run : Run (.start settings offset queue) h s) (fresh : ∀ b ∈ h.accepted, b.retries = 0) :
    Retried settings.retryLimit (Ledger.of h) h s := by
  have start : (Scheduler.start settings offset queue).Within := Scheduler.within_start built
  have entering : ∀ b ∈ h.accepted, b.retries ≤ settings.retryLimit :=
    fun b hb => by simp [fresh b hb]
  have counts := Ledger.counts_of_run built run fresh
  have within := run.within start entering
  have same : s.settings = settings := run.settings_eq
  have spent : ∀ b ∈ h.abandoned, b.retries.toNat = settings.retryLimit.toNat + 1 :=
    run.abandoned_spent start entering
  constructor
  case fits => exact Ledger.fits_of_run built run
  case queued =>
    rw [Ledger.marks_append, counts.channel, counts.overflow, ← tallies_append, Queue.held]
  case inHand => exact counts.hand
  case within => exact same ▸ within
  case delivered => exact counts.delivered
  case abandoned =>
    refine ⟨counts.abandoned, fun p hp => ?_⟩
    have mark : (Ledger.of h).failures p ∈ (Ledger.of h).marks (Ledger.of h).abandoned :=
      List.mem_map_of_mem hp
    rw [counts.abandoned] at mark
    obtain ⟨b, hb, failures⟩ := List.mem_map.mp mark
    rw [← failures, spent b hb]
  case kept => exact fun p hp left => Ledger.kept_of_run built run fresh hp left
  case turn => exact fun phase now => same ▸ counts.turn within phase now
  case counted =>
    intro less overflown
    have := (Ledger.overflown_of_run built run fresh overflown).1
    omega
  case unlimited =>
    intro none
    -- A count of 32 bits cannot go beyond the greatest limit.
    have gone : h.abandoned = [] := by
      refine List.eq_nil_iff_forall_not_mem.mpr fun b hb => ?_
      have bound := b.retries.toNat_lt
      have := spent b hb
      omega
    refine ⟨List.map_eq_nil_iff.mp (counts.abandoned.trans ?_), gone⟩
    rw [gone, tallies_nil]
  case overflown => exact Ledger.overflown_of_run built run fresh
  case delays => exact fun now => untilOffset?_of_instant _ _ now.wall

theorem retries_of_a_trial_counted : ∃ h s, Run Scheduler.trial h s ∧
    h.accepted = [Scheduler.reading, Scheduler.reading] ∧
    h.abandoned = [{ Scheduler.reading with retries := 2 }] ∧
    s.queue.held = [{ Scheduler.reading with retries := 1 }] ∧
    Retried 1 (Ledger.of h) h s := by
  obtain ⟨h, s, run, seen⟩ := Run.of_play Scheduler.trial (Scheduler.atOnce [
    .offer Scheduler.reading, .take, .merge, .choose, .elapse, .reply false, .giveBack, .giveBack,
    .offer Scheduler.reading, .take, .enter 0, .merge, .choose, .signal, .reply false, .giveBack,
    .giveBack]) (fun r => (r.1.accepted, r.1.abandoned, r.2.queue.held)) rfl
  simp only [Prod.mk.injEq] at seen
  obtain ⟨accepted, abandoned, held⟩ := seen
  have built : Queue.ofCapacity? 1 = some _ := rfl
  have fresh : ∀ b ∈ h.accepted, b.retries = 0 := by
    rw [accepted]
    decide
  exact ⟨h, s, run, accepted, abandoned, held, retries_count_failures built run fresh⟩

end

end HostMonitor.Posting
