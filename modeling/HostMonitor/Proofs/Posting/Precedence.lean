import HostMonitor.Proofs.Posting.Posts
import HostMonitor.Proofs.Posting.Serving
import Mathlib.Data.List.Basic

namespace HostMonitor.Posting

open HostMonitor.Metric (Batch)
open Scheduler (Event Effect Transition History Move Run move_of_step)

/-- The batches below the number have been posted. In each post, those that are new have the numbers
that are next. -/
inductive Debuts : List (List Parcel) → Nat → Prop
  | nil : Debuts [] 0
  | post {ps : List Parcel} {k : Nat} : Debuts made n →
      (ps.filter (n ≤ ·.number)).map Parcel.number = List.range' n k →
      Debuts (made ++ [ps]) (n + k)

namespace Debuts

variable {made : List (List Parcel)} {ps : List Parcel} {p : Parcel} {n i k : Nat}

theorem number_lt (new : (ps.filter (n ≤ ·.number)).map Parcel.number = List.range' n k)
    (hp : p ∈ ps) : p.number < n + k := by
  by_cases old : p.number < n
  · omega
  · have mem : p.number ∈ (ps.filter (n ≤ ·.number)).map Parcel.number :=
      List.mem_map_of_mem (List.mem_filter.mpr ⟨hp, by simpa using old⟩)
    rw [new, List.mem_range'_1] at mem
    exact mem.2

theorem lt_iff (debuts : Debuts made n) : i < n ↔ ∃ p ∈ made.flatten, p.number = i := by
  induction debuts with
  | nil => simp
  | @post made n ps k before new ih =>
    constructor
    · intro below
      by_cases old : i < n
      · obtain ⟨p, hp, number⟩ := ih.mp old
        exact ⟨p, by simp only [List.flatten_append, List.mem_append]; exact .inl hp, number⟩
      · have mem : i ∈ List.range' n k := List.mem_range'_1.mpr ⟨by omega, below⟩
        rw [← new] at mem
        obtain ⟨p, hp, number⟩ := List.mem_map.mp mem
        exact ⟨p, by simp [(List.mem_filter.mp hp).1], number⟩
    · rintro ⟨p, hp, rfl⟩
      simp only [List.flatten_append, List.mem_append, List.flatten_singleton] at hp
      rcases hp with hp | hp
      · have := ih.mpr ⟨p, hp, rfl⟩
        omega
      · exact number_lt new hp

theorem split (debuts : Debuts made n) (found : made[i]? = some ps) : ∃ m k,
    Debuts (made.take i) m ∧ (ps.filter (m ≤ ·.number)).map Parcel.number = List.range' m k := by
  induction debuts with
  | nil => simp at found
  | @post made n qs k before new ih =>
    rw [List.getElem?_append] at found
    split at found
    · next early =>
      rw [List.take_append_of_le_length (Nat.le_of_lt early)]
      exact ih found
    · next late =>
      have last : i = made.length := by
        have := (List.getElem?_eq_some_iff.mp found).1
        simp at this
        omega
      subst last
      simp at found
      subst found
      rw [List.take_left]
      exact ⟨n, k, before, new⟩

end Debuts

def Phase.Sent : Phase → Prop
  | .posting _ | .returning _ => True
  | _ => False

namespace Ledger

def made (l : Ledger) (s : Scheduler) : List (List Parcel) :=
  l.posts.map Prod.fst ++ s.phase.posting?.toList.map fun _ => l.hand

/-- The batches that have not been posted are those from the number on. They are in order, in hand
and in the channel. -/
structure Lined (l : Ledger) (made : List (List Parcel)) (n : Nat) : Prop where
  debuts : Debuts made n
  reached : n ≤ l.accepted.length
  fresh : (l.hand ++ l.channel).filter (n ≤ ·.number) = l.accepted.drop n
  aside : ∀ p ∈ l.overflow, p.number < n

variable {l m : Ledger} {made : List (List Parcel)} {n : Nat} {p : Parcel} {ps : List Parcel}

theorem filter_eq_nil_of_lt (old : ∀ p ∈ ps, p.number < n) : ps.filter (n ≤ ·.number) = [] :=
  List.filter_eq_nil_iff.mpr fun p hp => by simpa using old p hp

namespace Lined

theorem enter (lined : l.Lined made n) (b : Batch) : (l.enter b).Lined made n where
  debuts := lined.debuts
  reached := by
    have := lined.reached
    simp only [Ledger.enter, List.length_append]
    omega
  fresh := by
    have reached := lined.reached
    simp only [Ledger.enter]
    rw [← List.append_assoc, List.filter_append, lined.fresh,
      List.drop_append_of_le_length reached]
    simp [reached]
  aside := lined.aside

theorem take (lined : l.Lined made n) : l.take.Lined made n := by
  have fresh := lined.fresh
  have aside := lined.aside
  unfold Ledger.take
  split
  · next p ps channel =>
    exact ⟨lined.debuts, lined.reached, by simpa [channel] using fresh, aside⟩
  · next p ps channel overflow =>
    rw [overflow] at aside
    refine ⟨lined.debuts, lined.reached, ?_, fun q hq => aside q (List.mem_cons_of_mem p hq)⟩
    have old : [p].filter (n ≤ ·.number) = [] :=
      filter_eq_nil_of_lt fun q hq => aside q (by simp_all)
    simp only [channel, List.append_nil, List.filter_append, old] at fresh ⊢
    exact fresh
  · exact lined

theorem moved (lined : l.Lined made n) (same : m.accepted = l.accepted)
    (fresh : (m.hand ++ m.channel).filter (n ≤ ·.number) =
      (l.hand ++ l.channel).filter (n ≤ ·.number))
    (aside : ∀ p ∈ m.overflow, p.number < n) : m.Lined made n where
  debuts := lined.debuts
  reached := same ▸ lined.reached
  fresh := by rw [fresh, lined.fresh, same]
  aside := aside

theorem deliver (lined : l.Lined made n) (old : ∀ p ∈ l.hand, p.number < n) :
    l.deliver.Lined made n :=
  lined.moved rfl (by simp [Ledger.deliver, List.filter_append, filter_eq_nil_of_lt old])
    lined.aside

theorem giveBack (lined : l.Lined made n) (old : ∀ p ∈ l.hand, p.number < n) (room : Bool) :
    (l.giveBack room).Lined made n ∧ ∀ p ∈ (l.giveBack room).hand, p.number < n := by
  unfold Ledger.giveBack
  split
  · exact ⟨lined, old⟩
  · next p ps hand =>
    rw [hand] at old
    have first : p.number < n := old p List.mem_cons_self
    have rest : ∀ q ∈ ps, q.number < n := fun q hq => old q (List.mem_cons_of_mem p hq)
    cases room with
    | true =>
      refine ⟨lined.moved rfl ?_ lined.aside, rest⟩
      simp [hand, List.filter_append, Nat.not_le.mpr first]
    | false =>
      refine ⟨lined.moved rfl ?_ fun q hq => ?_, rest⟩
      · simp [hand, List.filter_append, Nat.not_le.mpr first]
      · simp only [Bool.false_eq_true, if_false, List.mem_append, List.mem_singleton] at hq
        rcases hq with hq | rfl
        · exact lined.aside q hq
        · exact first

theorem abandon (lined : l.Lined made n) (old : ∀ p ∈ l.hand, p.number < n) :
    l.abandon.Lined made n ∧ ∀ p ∈ l.abandon.hand, p.number < n := by
  unfold Ledger.abandon
  split
  · exact ⟨lined, old⟩
  · next p ps hand =>
    rw [hand] at old
    have first : p.number < n := old p List.mem_cons_self
    refine ⟨lined.moved rfl ?_ lined.aside, fun q hq => old q (List.mem_cons_of_mem p hq)⟩
    simp [hand, List.filter_append, Nat.not_le.mpr first]

end Lined

theorem Balanced.numbers_drop (balanced : l.Balanced) :
    (l.accepted.drop n).map Parcel.number = List.range' n (l.accepted.length - n) := by
  rw [List.map_drop, balanced.numbered, List.range_eq_range', List.drop_range']
  simp

theorem Lined.post (lined : l.Lined made n) (balanced : l.Balanced) :
    ∃ k, l.Lined (made ++ [l.hand]) k ∧ ∀ p ∈ l.hand, p.number < k := by
  have fresh := lined.fresh
  rw [List.filter_append] at fresh
  have numbers := balanced.numbers_drop (n := n)
  rw [← fresh, List.map_append] at numbers
  -- The new ones in hand are the first `k` of those that were never posted.
  obtain ⟨k, few, hand, channel⟩ := List.range'_eq_append_iff.mp numbers.symm
  rw [Nat.mul_one] at channel
  have old : ∀ p ∈ l.hand, p.number < n + k := fun p hp => Debuts.number_lt hand hp
  refine ⟨n + k, ⟨.post lined.debuts hand, ?_, ?_, fun p hp => ?_⟩, old⟩
  · have := lined.reached
    omega
  · have length : (l.hand.filter (n ≤ ·.number)).length = k := by
      simpa using congrArg List.length hand
    have rest : l.channel.filter (n ≤ ·.number) = l.accepted.drop (n + k) := by
      rw [← List.drop_drop, ← fresh, ← length, List.drop_left]
    have apart : ∀ p ∈ l.channel.filter (n ≤ ·.number), n + k ≤ p.number := fun p hp => by
      have mem := List.mem_map_of_mem (f := Parcel.number) hp
      rw [channel, List.mem_range'_1] at mem
      exact mem.1
    rw [List.filter_append, filter_eq_nil_of_lt old, List.nil_append, ← rest,
      ← List.filter_eq_self.mpr fun p hp => decide_eq_true (apart p hp), List.filter_filter]
    refine List.filter_congr fun p _ => ?_
    simp
    omega
  · have := lined.aside p hp
    omega

structure Orderly (l : Ledger) (s : Scheduler) (n : Nat) : Prop where
  lined : l.Lined (l.made s) n
  sent : s.phase.Sent → ∀ p ∈ l.hand, p.number < n

variable {now : Moment} {s t : Scheduler} {e : Event} {effects : List Effect} {h : History}

theorem made_of_posting (posting : s.phase.posting? = none) : l.made s = l.posts.map Prod.fst := by
  simp [Ledger.made, posting]

theorem Orderly.still (orderly : l.Orderly s n) (silent : ∀ f ∈ effects, quiet f = true)
    (posting : t.phase.posting? = s.phase.posting?) (sent : t.phase.Sent → s.phase.Sent) :
    (l.follow ⟨s, now, e, effects, t⟩).Orderly t n := by
  rw [follow_of_quiet silent]
  exact ⟨by rw [Ledger.made, posting]; exact orderly.lined, fun h => orderly.sent (sent h)⟩

theorem Orderly.entered (orderly : l.Orderly s n) {b : Batch} (phase : t.phase = s.phase) :
    (l.follow ⟨s, now, e, [.accepted b], t⟩).Orderly t n where
  lined := by
    rw [Ledger.made, phase]
    exact orderly.lined.enter b
  sent h := orderly.sent (phase ▸ h)

theorem Orderly.taken (orderly : l.Orderly s n) {b : Batch} (before : s.phase.posting? = none)
    (after : t.phase.posting? = none) (unsent : ¬t.phase.Sent) :
    (l.follow ⟨s, now, e, [.took b], t⟩).Orderly t n where
  lined := by
    have lined := orderly.lined.take
    rw [made_of_posting before] at lined
    simpa [follow, note, made_of_posting after] using lined
  sent h := absurd h unsent

theorem Orderly.posted (orderly : l.Orderly s n) (balanced : l.Balanced) {cycle : List Batch}
    (before : s.phase.posting? = none) (after : t.phase = .posting cycle) :
    ∃ k, (l.follow ⟨s, now, e, [.posts cycle], t⟩).Orderly t k := by
  obtain ⟨k, lined, old⟩ := orderly.lined.post balanced
  rw [made_of_posting before] at lined
  refine ⟨k, ?_, fun _ => old⟩
  rw [follow_of_quiet (by simp [quiet])]
  simpa [Ledger.made, after, Phase.posting?] using lined

theorem Orderly.move (orderly : l.Orderly s n) (balanced : l.Balanced)
    (move : Move now s e effects t) : ∃ k, (l.follow ⟨s, now, e, effects, t⟩).Orderly t k := by
  -- The number grows when a post is made, by what is new in it.
  cases move with
  | refuse | hold | bounce | withdraw | hangUp =>
    exact ⟨n, orderly.still (by simp [quiet]) rfl id⟩
  | accept | enter => exact ⟨n, orderly.entered rfl⟩
  | take phase | merge phase =>
    exact ⟨n, orderly.taken (by simp [phase, Phase.posting?]) rfl id⟩
  | signalIdle phase | alone phase | choose phase | overflow phase | goOn phase | finish phase
  | resume phase =>
    exact ⟨n, orderly.still (by simp [quiet]) (by simp [phase, Phase.posting?]) False.elim⟩
  | force listens =>
    refine ⟨n, orderly.still (by simp [quiet]) ?_ False.elim⟩
    cases phase : s.phase <;> simp_all [Phase.listens, Phase.posting?]
  | signalWaiting phase | elapse phase =>
    exact orderly.posted balanced (by simp [phase, Phase.posting?]) rfl
  | deliver phase =>
    have old := orderly.sent (by simp [phase, Phase.Sent])
    have lined := orderly.lined.deliver old
    refine ⟨n, ?_, False.elim⟩
    simpa [follow, note, Ledger.made, Ledger.deliver, phase, Phase.posting?] using lined
  | fail phase =>
    have old := orderly.sent (by simp [phase, Phase.Sent])
    have lined : l.fail.Lined (l.made s) n := orderly.lined.moved rfl rfl orderly.lined.aside
    refine ⟨n, ?_, fun _ => old⟩
    simpa [follow, note, Ledger.made, Ledger.fail, phase, Phase.posting?] using lined
  | abandon phase =>
    obtain ⟨lined, old⟩ := orderly.lined.abandon (orderly.sent (by simp [phase, Phase.Sent]))
    refine ⟨n, ?_, fun _ => old⟩
    simpa [follow, note, Ledger.made, phase, Phase.posting?] using lined
  | giveBack phase =>
    obtain ⟨lined, old⟩ := orderly.lined.giveBack (orderly.sent (by simp [phase, Phase.Sent]))
      (0 < s.queue.free)
    refine ⟨n, ?_, fun _ => old⟩
    simpa [follow, note, Ledger.made, phase, Phase.posting?] using lined

theorem Balanced.getElem?_number (balanced : l.Balanced) (hp : p ∈ l.accepted) :
    l.accepted[p.number]? = some p := by
  obtain ⟨i, bound, rfl⟩ := List.mem_iff_getElem.mp hp
  have number : (l.accepted.map Parcel.number)[i]? = some i := by
    rw [balanced.numbered, List.getElem?_range bound]
  rw [List.getElem?_map, List.getElem?_eq_getElem bound, Option.map_some, Option.some.injEq]
    at number
  rw [number, List.getElem?_eq_getElem bound]

theorem Balanced.eq_of_number (balanced : l.Balanced) {q : Parcel} (hp : p ∈ l.accepted)
    (hq : q ∈ l.accepted) (same : p.number = q.number) : p = q := by
  have first := balanced.getElem?_number hp
  rw [same, balanced.getElem?_number hq] at first
  exact (Option.some.inj first).symm

theorem Known.of_mem_made (known : l.Known) (balanced : l.Balanced) (made : ps ∈ l.made s)
    (hp : p ∈ ps) : p ∈ l.accepted := by
  rcases List.mem_append.mp made with made | made
  · obtain ⟨r, hr, rfl⟩ := List.mem_map.mp made
    exact known r hr p hp
  · obtain ⟨cycle, -, rfl⟩ := List.mem_map.mp made
    exact balanced.accepted_of_mem_hand hp

theorem Fits.contents_made (fits : l.Fits h s)
    (posted : h.posted = h.replies.map Prod.fst ++ s.phase.posting?.toList) :
    (l.made s).map Parcel.contents = h.posted.map contents := by
  have replied : (l.posts.map Prod.fst).map Parcel.contents =
      (h.replies.map Prod.fst).map contents := by
    simpa [Parcel.shown, shown, Function.comp_def] using congrArg (List.map Prod.fst) fits.posts
  rw [Ledger.made, posted, List.map_append, List.map_append, replied]
  congr 1
  cases phase : s.phase with
  | posting cycle =>
    have hand := fits.hand (by rw [Scheduler.ended, phase])
    simpa [phase, Phase.posting?, Phase.hand] using hand
  | _ => rfl

theorem orderly_of_run {settings : Settings} {offset : Span} {queue : Queue}
    (run : Run (.start settings offset queue) h s) : ∃ n, (of h).Orderly s n := by
  apply run.invariant
  · exact ⟨0, ⟨.nil, Nat.le_refl _, rfl, by simp [empty]⟩, False.elim⟩
  · rintro h t now e effects u run ⟨n, orderly⟩ move
    rw [of_append]
    exact orderly.move (balanced_of h) move

theorem Orderly.debut (orderly : l.Orderly s n) (known : l.Known) (balanced : l.Balanced)
    {q : Parcel} {qs : List Parcel} {i : Nat} (hp : p ∈ l.accepted) (before : p.number < q.number)
    (found : (l.made s)[i]? = some qs) (hq : q ∈ qs) :
    ∃ j ≤ i, ∃ ps, (l.made s)[j]? = some ps ∧ p ∈ ps := by
  obtain ⟨m, k, early, new⟩ := orderly.lined.debuts.split found
  have below : p.number < m + k := Nat.lt_trans before (Debuts.number_lt new hq)
  obtain ⟨p', hp', same⟩ := (early.post new).lt_iff.mp below
  have upTo : (l.made s).take i ++ [qs] = (l.made s).take (i + 1) := by
    rw [List.take_add_one, found, Option.toList_some]
  obtain ⟨ps, made, mem⟩ := List.mem_flatten.mp (upTo ▸ hp')
  obtain ⟨j, bound, rfl⟩ := List.mem_take_iff_getElem.mp made
  have accepted := known.of_mem_made balanced (List.mem_of_mem_take made) mem
  have only : p' = p := balanced.eq_of_number accepted hp same
  exact ⟨j, by omega, _, List.getElem?_eq_getElem (by omega), only ▸ mem⟩

theorem Orderly.together (orderly : l.Orderly s n) (known : l.Known) (balanced : l.Balanced)
    {q : Parcel} {i : Nat} (before : p.number < q.number) (found : (l.made s)[i]? = some ps)
    (few : ps.length ≤ 2) (hp : p ∈ ps) (hq : q ∈ ps)
    (first : ∀ j < i, ∀ qs, (l.made s)[j]? = some qs → p ∉ qs) : ps = [p, q] := by
  obtain ⟨m, k, early, new⟩ := orderly.lined.debuts.split found
  have accepted := known.of_mem_made balanced (List.mem_of_getElem? found) hp
  have late : m ≤ p.number := by
    refine Nat.not_lt.mp fun below => ?_
    obtain ⟨p', hp', same⟩ := early.lt_iff.mp below
    obtain ⟨qs, made, mem⟩ := List.mem_flatten.mp hp'
    have old := known.of_mem_made balanced (List.mem_of_mem_take made) mem
    obtain ⟨j, bound, rfl⟩ := List.mem_take_iff_getElem.mp made
    exact first j (by omega) _ (List.getElem?_eq_getElem (by omega))
      (balanced.eq_of_number old accepted same ▸ mem)
  have sorted : ((ps.filter (m ≤ ·.number)).map Parcel.number).Pairwise (· < ·) :=
    new ▸ List.pairwise_lt_range'
  obtain _ | ⟨a, _ | ⟨b, _ | ⟨c, rest⟩⟩⟩ := ps
  · cases hp
  · cases List.mem_singleton.mp hp
    cases List.mem_singleton.mp hq
    exact absurd before (Nat.lt_irrefl _)
  · simp only [List.mem_cons, List.not_mem_nil, or_false] at hp hq
    rcases hp with rfl | rfl <;> rcases hq with rfl | rfl
    · exact absurd before (Nat.lt_irrefl _)
    · rfl
    · simp [late, Nat.le_trans late (Nat.le_of_lt before)] at sorted
      omega
    · exact absurd before (Nat.lt_irrefl _)
  · simp only [List.length_cons] at few
    omega

end Ledger

section

variable {settings : Settings} {offset : Span} {capacity : Nat} {queue : Queue}
  {h : History} {s : Scheduler}

/-- How posts follow the order of acceptance. A batch is not posted before one that was accepted
earlier, and where both are posted for the first time they are posted in order. A cycle is the batch
that was taken first, with the one at the head of the queue then if there is any, and cycles are
posted as they were taken. A post uploads the samples of its one or two batches, one batch after the
other. If no post fails, the samples that are uploaded are those of the batches that were accepted
first. -/
structure Forward (l : Ledger) (h : History) (s : Scheduler) : Prop where
  accepted : l.accepted.map Parcel.batch = h.accepted
  numbered : l.accepted.map Parcel.number = List.range l.accepted.length
  fits : l.Fits h s
  posted : (l.made s).map Parcel.contents = h.posted.map contents
  debut : ∀ {p q : Parcel} {qs : List Parcel} {i : Nat}, p ∈ l.accepted →
    p.number < q.number → (l.made s)[i]? = some qs → q ∈ qs →
      ∃ j ≤ i, ∃ ps, (l.made s)[j]? = some ps ∧ p ∈ ps
  together : ∀ {p q : Parcel} {ps : List Parcel} {i : Nat}, p.number < q.number →
    (l.made s)[i]? = some ps → p ∈ ps → q ∈ ps →
      (∀ j < i, ∀ qs, (l.made s)[j]? = some qs → p ∉ qs ∧ q ∉ qs) → ps = [p, q]
  cycles : h.posted <+: h.merged ∧ h.posted.flatten <+: h.taken
  uploads : ∀ cycle ∈ h.posted,
    (∃ b, cycle = [b] ∧ Scheduler.samplesOf cycle = b.samples) ∨
      ∃ b c, cycle = [b, c] ∧ Scheduler.samplesOf cycle = b.samples ++ c.samples
  uploaded : h.posted.map Scheduler.samplesOf =
    (l.made s).map fun ps => ps.flatMap fun p => p.batch.samples
  inOrder : (∀ r ∈ h.replies, r.2 = true) →
    ∃ n, h.posted.flatMap Scheduler.samplesOf = (h.accepted.take n).flatMap Batch.samples

theorem samplesOf_cycle {cycle : List Batch} (size : cycle.length = 1 ∨ cycle.length = 2) :
    (∃ b, cycle = [b] ∧ Scheduler.samplesOf cycle = b.samples) ∨
      ∃ b c, cycle = [b, c] ∧ Scheduler.samplesOf cycle = b.samples ++ c.samples := by
  obtain one | two := size
  · obtain ⟨b, rfl⟩ := List.length_eq_one_iff.mp one
    exact .inl ⟨b, rfl, by simp [Scheduler.samplesOf]⟩
  · obtain ⟨b, c, rfl⟩ := List.length_eq_two.mp two
    exact .inr ⟨b, c, rfl, by simp [Scheduler.samplesOf]⟩

theorem first_posts_in_send_order (built : Queue.ofCapacity? capacity = some queue)
    (run : Run (.start settings offset queue) h s) : Forward (Ledger.of h) h s := by
  have known := Ledger.known_of h
  have balanced := Ledger.balanced_of h
  have fits := Ledger.fits_of_run built run
  have posted := fits.contents_made run.posting
  obtain ⟨n, orderly⟩ := Ledger.orderly_of_run run
  constructor
  case accepted => exact Ledger.accepted_of h
  case numbered => exact balanced.numbered
  case fits => exact fits
  case posted => exact posted
  case debut => exact fun hp before found hq => orderly.debut known balanced hp before found hq
  case together =>
    intro p q ps i before found hp hq first
    have few : ps.length ≤ 2 := by
      have seen : (h.posted.map contents)[i]? = some (Parcel.contents ps) := by
        rw [← posted, List.getElem?_map, found, Option.map_some]
      rw [List.getElem?_map] at seen
      obtain ⟨cycle, mem, same⟩ := Option.map_eq_some_iff.mp seen
      have length := congrArg List.length same
      simp only [contents, Parcel.contents, List.length_map] at length
      have := run.length_of_posted (List.mem_of_getElem? mem)
      omega
    exact orderly.together known balanced before found few hp hq
      fun j early qs made => (first j early qs made).1
  case cycles => exact run.posted_prefix
  case uploads => exact fun cycle posted => samplesOf_cycle (run.length_of_posted posted)
  case uploaded =>
    have whole : h.posted.map Scheduler.samplesOf = (h.posted.map contents).map List.flatten := by
      simp [contents, Scheduler.samplesOf, List.flatMap_def]
    rw [whole, ← posted, List.map_map]
    rfl
  case inOrder =>
    intro delivered
    refine ⟨h.posted.flatten.length, ?_⟩
    rw [← List.prefix_iff_eq_take.mp (run.posted_inOrder built delivered),
      List.flatten_eq_flatMap, List.flatMap_assoc]
    rfl

theorem first_posts_of_a_trial_in_order : ∃ h s, Run Scheduler.trial h s ∧
    ((Ledger.of h).made s).map (List.map Parcel.number) = [[0], [1, 2]] ∧
    s.queue.overflow = [{ Scheduler.reading with retries := 1 }] ∧ Forward (Ledger.of h) h s := by
  obtain ⟨h, s, run, seen⟩ := Run.of_play Scheduler.trial (Scheduler.atOnce [
    .offer Scheduler.reading, .take, .merge, .choose, .elapse, .offer Scheduler.reading,
    .reply false, .giveBack, .giveBack, .take, .offer Scheduler.reading, .merge, .choose, .signal])
    (fun r => (((Ledger.of r.1).made r.2).map (List.map Parcel.number), r.2.queue.overflow)) rfl
  simp only [Prod.mk.injEq] at seen
  have built : Queue.ofCapacity? 1 = some _ := rfl
  exact ⟨h, s, run, seen.1, seen.2, first_posts_in_send_order built run⟩

end

end HostMonitor.Posting
