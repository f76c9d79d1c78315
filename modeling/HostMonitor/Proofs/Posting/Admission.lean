import HostMonitor.Proofs.Posting.Lossless

namespace HostMonitor.Posting

open HostMonitor.Metric (Batch)
open Rehearsal (Ends Result)

namespace Mailbox

variable {m n : Mailbox} {h k : History} {e : Event} {f : Effect} {x : Transition} {b : Batch}
  {q r : Queue} {c : Nat}

def History.Receiving (h : History) : Prop :=
  ∀ x ∈ h, x.event = .take ∨ x.event = .receive ∨ ∃ i, x.event = .enter i

theorem History.Entering.receiving (entering : k.Entering) : k.Receiving :=
  fun x hx => .inr (.inr (entering x hx))

theorem Move.served_of_enter (move : Move m (.enter i) f n) :
    Transition.served? ⟨m, .enter i, f, n⟩ = none := by
  cases move
  simp [Transition.served?, Transition.took?]

theorem Run.served_of_entering (run : Run m k n) (entering : k.Entering) : k.served = [] := by
  refine List.filterMap_eq_nil_iff.mpr fun x hx => ?_
  have move := run.move hx
  obtain ⟨i, entered⟩ := entering x hx
  obtain ⟨m, e, f, n⟩ := x
  cases entered
  exact move.served_of_enter

theorem take_eraseIdx {xs : List α} (early : i ≤ j) :
    (xs.eraseIdx i).take j = (xs.take (j + 1)).eraseIdx i := by
  refine List.ext_getElem? fun l => ?_
  simp only [List.getElem?_take, List.getElem?_eraseIdx]
  grind

theorem Move.used (move : Move m (.enter i) (.accepted b) n) :
    (b :: n.queue.waiting.take n.slots).Perm (m.queue.waiting.take m.slots) ∧
      n.queue.waiting.drop n.slots = m.queue.waiting.drop m.slots := by
  cases move with
  | @enter _ _ q live found =>
    have room := Queue.channel_lt_of_enter? found
    have due := Queue.lt_granted_of_enter? found
    obtain ⟨first, left⟩ := Queue.waiting_enter? found
    have slots : m.slots = slots { m with queue := q } + 1 := by
      simp only [slots, Queue.channel_enter? found, Queue.capacity_enter? found,
        List.length_append, List.length_singleton]
      omega
    have early : i ≤ Mailbox.slots { m with queue := q } := by
      simp only [Queue.granted, Mailbox.slots] at due slots ⊢
      omega
    have first : (m.queue.waiting.take m.slots)[i]? = some b := by
      rwa [List.getElem?_take_of_lt (by omega)]
    obtain ⟨bound, rfl⟩ := List.getElem?_eq_some_iff.mp first
    rw [left, take_eraseIdx early, Book.drop_eraseIdx early, ← slots]
    exact ⟨List.getElem_cons_eraseIdx_perm bound, rfl⟩

theorem Move.freed (move : Move m e f n) (asked : e = .take ∨ e = .receive) :
    Transition.accepted? ⟨m, e, f, n⟩ = none ∧ n.queue.waiting = m.queue.waiting ∧
      n.slots = m.slots + (Transition.served? ⟨m, e, f, n⟩).toList.length := by
  have quiet : Transition.accepted? ⟨m, e, f, n⟩ = none ∧
      Transition.lined? ⟨m, e, f, n⟩ = none ∧ n.queue.waiting = m.queue.waiting := by
    cases move with
    | take live found | receive live found =>
      exact ⟨rfl, Transition.lined?_of_put? rfl, Queue.waiting_take? found⟩
    | nothing | pending => exact ⟨rfl, Transition.lined?_of_put? rfl, rfl⟩
    | _ => simp at asked
  have channel := congrArg List.length (Transition.Keeps.of_move move).channel
  have capacity := move.capacity_eq
  have bounds := And.intro m.queue.channel_le n.queue.channel_le
  refine ⟨quiet.1, quiet.2.2, ?_⟩
  simp only [quiet.2.1, List.length_append, Option.toList_none, List.length_nil] at channel
  simp only [slots]
  omega

theorem Move.passes (move : Move m e f n)
    (receiving : e = .take ∨ e = .receive ∨ ∃ i, e = .enter i) :
    ((Transition.accepted? ⟨m, e, f, n⟩).toList ++ n.queue.waiting.take n.slots).Perm
        (m.queue.waiting.take
          (m.slots + (Transition.served? ⟨m, e, f, n⟩).toList.length)) ∧
      n.queue.waiting.drop n.slots = m.queue.waiting.drop
        (m.slots + (Transition.served? ⟨m, e, f, n⟩).toList.length) := by
  rw [← or_assoc] at receiving
  rcases receiving with asked | ⟨i, rfl⟩
  · obtain ⟨quiet, waiting, slots⟩ := move.freed asked
    rw [quiet, waiting, slots]
    exact ⟨.rfl, rfl⟩
  · obtain ⟨b, rfl⟩ : ∃ b, f = .accepted b := by
      cases move
      exact ⟨_, rfl⟩
    rw [move.served_of_enter]
    exact move.used

/-- Those who had a slot and those who got one on the way have used it or have it still; the others
are left. -/
theorem Run.receiving (run : Run m k n) (receiving : k.Receiving) :
    (k.accepted ++ n.queue.waiting.take n.slots).Perm
        (m.queue.waiting.take (m.slots + k.served.length)) ∧
      n.queue.waiting.drop n.slots = m.queue.waiting.drop (m.slots + k.served.length) := by
  induction run with
  | nil => exact ⟨.rfl, rfl⟩
  | @step k n e f o run move ih =>
    obtain ⟨first, rest⟩ := ih fun x hx => receiving x (by simp [hx])
    have kind := receiving ⟨n, e, f, o⟩ (by simp)
    simp only [History.seen_append, History.seen_cons, History.seen_nil, List.append_nil,
      List.length_append] at first rest ⊢
    obtain ⟨now, left⟩ := move.passes (receiving ⟨n, e, f, o⟩ (by simp))
    rw [← Nat.add_assoc]
    generalize (Transition.served? ⟨n, e, f, o⟩).toList.length = c at now left ⊢
    constructor
    · rw [List.append_assoc, List.take_add, ← rest]
      rw [List.take_add] at now
      exact (now.append_left _).trans (by rw [← List.append_assoc]; exact first.append_right _)
    · rw [left, ← List.drop_drop, rest, List.drop_drop]

theorem Run.inTurn (run : Run m k n) (receiving : k.Receiving) (oldest : k.OldestFirst) :
    m.queue.waiting = k.accepted ++ n.queue.waiting := by
  induction run with
  | nil => simp
  | @step k n e f o run move ih =>
    have waiting := ih (fun x hx => receiving x (by simp [hx])) fun x hx => oldest x (by simp [hx])
    have one : n.queue.waiting =
        (Transition.accepted? ⟨n, e, f, o⟩).toList ++ o.queue.waiting := by
      have kind := receiving ⟨n, e, f, o⟩ (by simp)
      have oldest := oldest ⟨n, e, f, o⟩ (by simp)
      cases move with
      | enter live found =>
        obtain rfl := oldest _ rfl
        exact Queue.waiting_enter?_zero found
      | take live found | receive live found => exact (Queue.waiting_take? found).symm
      | nothing | pending => rfl
      | _ => simp at kind
    simp [waiting, one]

theorem slots_or_nobody (settled : m.queue.granted = 0) : m.slots = 0 ∨ m.queue.waiting = [] := by
  rw [← List.length_eq_zero_iff]
  simp only [Queue.granted, slots] at settled ⊢
  omega

theorem Run.spent (run : Run m k n) (receiving : k.Receiving) (spent : n.queue.granted = 0) :
    k.accepted.Perm (m.queue.waiting.take (m.slots + k.served.length)) ∧
      n.queue.waiting = m.queue.waiting.drop (m.slots + k.served.length) ∧
      (k.OldestFirst → k.accepted = m.queue.waiting.take (m.slots + k.served.length)) := by
  obtain ⟨first, rest⟩ := run.receiving receiving
  have none : n.queue.waiting.take n.slots = [] ∧
      n.queue.waiting.drop n.slots = n.queue.waiting := by
    rcases slots_or_nobody spent with slots | nobody
    · simp [slots]
    · simp [nobody]
  rw [none.1, List.append_nil] at first
  rw [none.2] at rest
  refine ⟨first, rest, fun oldest => ?_⟩
  have waiting := run.inTurn receiving oldest
  rw [rest] at waiting
  exact (List.append_cancel_right ((List.take_append_drop _ _).trans waiting)).symm

/-- How the queue keeps back those who send into it. -/
structure Exact (c : Nat) (m : Mailbox) : Prop where
  bounded : m.queue.queued ≤ c
  chance : ∃ k n, Run m k n ∧ k.Entering ∧ k.OldestFirst ∧ n.queue.granted = 0
  completes : ∀ k n, Run m k n → k.Entering → n.queue.granted = 0 →
    k.accepted.Perm (m.queue.waiting.take (c - m.queue.channel.length)) ∧
      n.queue.waiting = m.queue.waiting.drop (c - m.queue.channel.length) ∧
      (k.OldestFirst → k.accepted = m.queue.waiting.take (c - m.queue.channel.length))
  /-- Who has had the chance and waits on does so for want of a slot. -/
  full : m.queue.granted = 0 → m.queue.waiting ≠ [] → m.queue.queued = c
  /-- A send is accepted at once exactly if there is a slot for it and no older one waits. -/
  admits : m.queue.granted = 0 → ∀ b, (∃ f n, Move m (.offer b) f n) ∧
    ∀ {f n}, Move m (.offer b) f n → (f = .accepted b ∨ f = .waits b) ∧
      (f = .accepted b ↔ m.queue.queued < c ∧ m.queue.waiting = [])
  /-- So many of the oldest waiting sends are accepted as slots become free. -/
  freed : m.queue.granted = 0 → ∀ k n, Run m k n → k.Receiving → n.queue.granted = 0 →
    k.accepted.Perm (m.queue.waiting.take k.served.length) ∧
      n.queue.waiting = m.queue.waiting.drop k.served.length ∧
      (k.OldestFirst → k.accepted = m.queue.waiting.take k.served.length)

structure Closed (m : Mailbox) : Prop where
  offered : ∀ b, (∃ n, Move m (.offer b) (.refused b) n) ∧
    ∀ {f n}, Move m (.offer b) f n → f = .refused b ∧ n = m
  waiting : ∀ i b, m.queue.waiting[i]? = some b → (∃ n, Move m (.withdraw i) (.refused b) n) ∧
    ∀ {f n}, Move m (.withdraw i) f n → f = .refused b
  all : ∃ k n, Run m k n ∧ k.refused = m.queue.waiting ∧ n.queue.waiting = []
  refused : ∀ k n, Run m k n → k.accepted = [] ∧ k.withdrawn = [] ∧
    (m.queue.waiting ++ k.offered).Perm (k.refused ++ n.queue.waiting)

theorem Exact.of_live (live : m.live = true) (capacity : m.queue.capacity = c) : Exact c m where
  bounded := capacity ▸ m.queue.granted_le
  chance := by
    obtain ⟨k, run, entering, oldest, -⟩ := Run.settles live
    exact ⟨k, _, run, entering, oldest, Queue.granted_enterAll⟩
  completes := by
    intro k n run entering spent
    have completed := run.spent entering.receiving spent
    rwa [run.served_of_entering entering, List.length_nil, Nat.add_zero, slots, capacity]
      at completed
  full := by
    intro settled some
    have room := m.queue.channel_le
    rw [Ne, ← List.length_eq_zero_iff] at some
    simp only [Queue.queued, Queue.granted, ← capacity] at settled ⊢
    omega
  admits := by
    intro settled b
    -- Where nobody has a slot left to use, a slot is free only if nobody waits.
    have room : m.queue.queued < c ∧ m.queue.waiting = [] ↔ 0 < m.queue.free := by
      rw [← List.length_eq_zero_iff]
      simp only [Queue.queued, Queue.granted, Queue.free, ← capacity] at settled ⊢
      omega
    rw [room]
    constructor
    · by_cases free : 0 < m.queue.free
      · exact ⟨_, _, .accept live free⟩
      · exact ⟨_, _, .hold live (by omega)⟩
    · intro f n move
      cases move with
      | refuse gone => simp [live] at gone
      | accept _ free => simp [free]
      | hold _ full => simp [full]
  freed := by
    intro settled k n run receiving spent
    have freed := run.spent receiving spent
    rcases slots_or_nobody settled with slots | nobody
    · rwa [slots, Nat.zero_add] at freed
    · simpa [nobody] using freed

theorem Run.gone (run : Run m k n) (gone : m.live = false) : n.live = false := by
  cases live : n.live with
  | false => rfl
  | true => simp [run.was_live live] at gone

theorem Move.refused (move : Move m e f n) (gone : m.live = false) (eq : x = ⟨m, e, f, n⟩) :
    x.accepted? = none ∧ x.withdrew? = none ∧
      (m.queue.waiting ++ x.offered?.toList).Perm (x.refused?.toList ++ n.queue.waiting) := by
  subst eq
  cases move with
  | refuse => exact ⟨rfl, rfl, List.perm_append_comm⟩
  | bounce _ found =>
    obtain ⟨found, left⟩ := Queue.waiting_withdraw? found
    obtain ⟨bound, rfl⟩ := List.getElem?_eq_some_iff.mp found
    refine ⟨rfl, rfl, ?_⟩
    simpa [Transition.offered?, Transition.refused?, left] using
      (List.getElem_cons_eraseIdx_perm bound).symm
  | miss => exact ⟨rfl, rfl, by simp [Transition.offered?, Transition.refused?]⟩
  | _ => simp_all

theorem Run.refused (run : Run m k n) (gone : m.live = false) :
    k.accepted = [] ∧ k.withdrawn = [] ∧
      (m.queue.waiting ++ k.offered).Perm (k.refused ++ n.queue.waiting) := by
  induction run with
  | nil => simp
  | step run move ih =>
    obtain ⟨accepted, withdrawn, all⟩ := ih
    obtain ⟨not, none, one⟩ := move.refused (run.gone gone) rfl
    simp only [History.accepted, History.withdrawn, History.offered, History.refused,
      History.seen_append, History.seen_cons, History.seen_nil, List.append_nil] at *
    refine ⟨by simp [accepted, not], by simp [withdrawn, none], ?_⟩
    refine List.perm_iff_count.mpr fun b => ?_
    have all := List.perm_iff_count.mp all b
    have one := List.perm_iff_count.mp one b
    simp only [List.count_append] at all one ⊢
    omega

theorem exists_bounces (gone : m.live = false) :
    ∃ k n, Run m k n ∧ k.refused = m.queue.waiting ∧ n.queue.waiting = [] := by
  -- They come back one after the other, the oldest first.
  generalize waiting : m.queue.waiting = bs
  induction bs generalizing m with
  | nil => exact ⟨[], m, .nil, rfl, waiting⟩
  | cons b bs ih =>
    have found : m.queue.withdraw? 0 = some (b, { m.queue with waiting := bs }) := by
      simp [Queue.withdraw?, waiting]
    obtain ⟨k, n, run, refused, none⟩ :=
      ih (m := { m with queue := { m.queue with waiting := bs } }) gone rfl
    refine ⟨_, n, (Run.single (.bounce gone found)).append run, ?_, none⟩
    simp [refused, Transition.refused?]

theorem Closed.of_gone (gone : m.live = false) : Closed m where
  offered b := by
    refine ⟨⟨m, .refuse gone⟩, fun move => ?_⟩
    cases move with
    | refuse => exact ⟨rfl, rfl⟩
    | accept live | hold live => simp [gone] at live
  waiting i b found := by
    have back : m.queue.withdraw? i =
        some (b, { m.queue with waiting := m.queue.waiting.eraseIdx i }) := by
      rw [Queue.withdraw?, found]
      rfl
    refine ⟨⟨_, .bounce gone back⟩, fun move => ?_⟩
    cases move with
    | bounce _ other =>
      rw [back] at other
      cases other
      rfl
    | withdraw live => simp [gone] at live
    | miss none => simp [back] at none
  all := exists_bounces gone
  refused := fun _ _ run => run.refused gone

theorem rehearse_closed (bs : List Batch) : rehearse ⟨true, none⟩ (bs.map .send) =
    (bs.map fun _ => (.closed, []), ⟨true, none⟩) := by
  induction bs with
  | nil => rfl
  | cons b bs ih => simp [rehearse, Ends.step, ih]

/-- Backpressure is exact, whoever uses the queue in whatever order; so it is after each operation
after which waiting sends get their chance. -/
theorem backpressure_exact (capacity : Nat) (most : capacity ≤ Queue.capacityLimit) :
    ∃ q, Queue.ofCapacity? capacity = some q ∧
      (∀ h m, Run ⟨q, true⟩ h m →
        (m.live = true → Exact (max capacity 1) m) ∧ (m.live = false → Closed m)) ∧
      ∀ ops es, ops.map Event.ofOp? = es.map some → .drop ∉ es → ∃ h r,
        rehearse ⟨true, some q⟩ ops = (h.operations.map Transition.outcome, ⟨true, some r⟩) ∧
        h.operations.map Transition.event = es ∧ Run ⟨q, true⟩ h ⟨r, true⟩ ∧ r.granted = 0 ∧
        ∀ bs : List Batch, rehearse ⟨true, some r⟩ (.dropQueue :: bs.map .send) =
          ((.done, r.waiting.map fun _ => false) :: bs.map fun _ => (.closed, []),
            ⟨true, none⟩) := by
  obtain ⟨q, built⟩ := Queue.exists_ofCapacity? most
  obtain ⟨-, waiting, -⟩ := Queue.empty_of_ofCapacity? built
  have size : q.capacity = max capacity 1 := Queue.capacity_of_ofCapacity? built
  refine ⟨q, built, ?_, ?_⟩
  · intro h m run
    have capacity := run.capacity_eq.trans size
    exact ⟨fun live => .of_live live capacity, fun gone => .of_gone gone⟩
  · intro ops es asked stays
    have settled : q.granted = 0 := by simp [Queue.granted, waiting]
    obtain ⟨h, r, run, -, -, spent, events, outcomes⟩ := Run.rehearsed settled asked stays
    refine ⟨h, r, outcomes, events, run, spent, fun bs => ?_⟩
    simp [rehearse, Ends.step, rehearse_closed]

theorem backpressure_of_two_slots : 2 ≤ Queue.capacityLimit ∧ ∃ q h r,
    Queue.ofCapacity? 2 = some q ∧ Run ⟨q, true⟩ h ⟨r, true⟩ ∧ Exact 2 ⟨r, true⟩ ∧
      h.operations.map Transition.outcome = [(.sent, []), (.sent, []), (.blocked, []),
        (.blocked, []), (.batch (some (reading "first")), [true])] ∧
      rehearse ⟨true, some r⟩ [.dropQueue, .send (reading "fifth")] =
        ([(.done, [false]), (.closed, [])], ⟨true, none⟩) := by
  have most : 2 ≤ Queue.capacityLimit := by decide
  obtain ⟨q, built, runs, rehearsals⟩ := backpressure_exact 2 most
  obtain ⟨h, r, outcomes, -, run, -, closes⟩ := rehearsals
    [.send (reading "first"), .send (reading "second"), .send (reading "third"),
      .send (reading "fourth"), .receive]
    [.offer (reading "first"), .offer (reading "second"), .offer (reading "third"),
      .offer (reading "fourth"), .receive] rfl (by simp)
  refine ⟨most, q, h, r, built, run, (runs h _ run).1 rfl, ?_, ?_⟩
  · cases built
    exact (congrArg Prod.fst outcomes).symm
  · have waiting : r.waiting = [reading "fourth"] := by
      cases built
      have left := congrArg (fun s => s.2.queue.map Queue.waiting) outcomes
      exact (Option.some.inj left).symm
    simpa [waiting] using closes [reading "fifth"]

end Mailbox

end HostMonitor.Posting
