import HostMonitor.Proofs.Posting.Rounds
import HostMonitor.Proofs.Posting.Sends

namespace HostMonitor.Posting

open HostMonitor.Metric (Batch)

theorem Queue.take?_eq_none_iff {q : Queue} : q.take? = none ↔ q.length = 0 := by
  rw [← Option.not_isSome_iff_eq_none, q.take?_isSome]
  simp [Queue.length]

namespace Mailbox

variable {m n : Mailbox} {h : History} {e : Event} {f : Effect} {x : Transition} {b : Batch}

theorem Transition.lined?_of_put? (nothing : x.put? = none) : x.lined? = none := by
  rw [Transition.lined?, nothing, ite_self]

structure Transition.Keeps (x : Transition) : Prop where
  channel : x.source.queue.channel ++ x.lined?.toList = x.served?.toList ++ x.target.queue.channel
  aside : x.source.queue.overflow ++ x.shelved?.toList =
    x.fetched?.toList ++ x.target.queue.overflow
  last : x.fetched? ≠ none → x.source.queue.channel = []
  sent : x.accepted? ≠ none → x.lined? = x.accepted?

namespace Transition.Keeps

theorem of_channel (overflow : x.target.queue.overflow = x.source.queue.overflow)
    (channel : x.source.queue.channel ++ x.put?.toList = x.took?.toList ++ x.target.queue.channel) :
    x.Keeps := by
  have still : x.shelves = false ∧ x.fetches = false := by simp [shelves, fetches, overflow]
  constructor
  · simpa [lined?, served?, still] using channel
  · simp [shelved?, fetched?, still, overflow]
  · simp [fetched?, still]
  · cases some : x.accepted? <;> simp [lined?, still, put?, some]

theorem of_move (move : Move m e f n) : Transition.Keeps ⟨m, e, f, n⟩ := by
  cases move with
  | refuse | miss | nothing | pending | drop =>
    exact of_channel rfl (by simp [put?, accepted?, gaveBack?, took?])
  | accept live free =>
    exact of_channel Queue.overflow_offer
      (by simp [put?, accepted?, took?, Queue.channel_offer free])
  | hold live full =>
    exact of_channel Queue.overflow_offer
      (by simp [put?, accepted?, gaveBack?, took?, Queue.channel_offer_of_full full])
  | enter live found =>
    exact of_channel (Queue.overflow_enter? found)
      (by simp [put?, accepted?, took?, Queue.channel_enter? found])
  | bounce live found | withdraw live found =>
    exact of_channel (Queue.overflow_withdraw? found)
      (by simp [put?, accepted?, gaveBack?, took?, Queue.channel_withdraw? found])
  | @giveBack b live =>
    -- Only here does the list beside the channel grow, when no slot is free.
    by_cases free : 0 < m.queue.free
    · exact of_channel (Queue.overflow_giveBack free)
        (by simp [put?, accepted?, gaveBack?, took?, Queue.channel_giveBack free])
    · have channel := Queue.channel_giveBack_of_full (b := b) free
      have overflow := Queue.overflow_giveBack_of_full (b := b) free
      constructor <;> simp [lined?, shelved?, served?, fetched?, shelves, fetches, put?, accepted?,
        gaveBack?, took?, channel, overflow]
  | take live found | receive live found =>
    rcases Queue.take?_cases found with ⟨channel, overflow⟩ | ⟨empty, left, overflow⟩
    · exact of_channel overflow (by simp [put?, accepted?, gaveBack?, took?, channel])
    · constructor <;> simp [lined?, shelved?, served?, fetched?, shelves, fetches, put?, accepted?,
        gaveBack?, took?, empty, left, overflow]

end Transition.Keeps

namespace History

variable {f g u v : Transition → Option Batch}

theorem perm_seen (one : ∀ x, (f x).toList ++ (g x).toList = (u x).toList ++ (v x).toList)
    (h : History) : (h.seen f ++ h.seen g).Perm (h.seen u ++ h.seen v) := by
  induction h with
  | nil => rfl
  | cons x h ih =>
    refine List.perm_iff_count.mpr fun b => ?_
    have ih := List.perm_iff_count.mp ih b
    have one := congrArg (List.count b) (one x)
    simp only [seen_cons, List.count_append] at ih one ⊢
    omega

theorem perm_put (h : History) : (h.lined ++ h.shelved).Perm (h.accepted ++ h.returned) := by
  refine perm_seen ?_ h
  intro x
  cases shelves : x.shelves <;> cases effect : x.effect <;>
    simp [Transition.lined?, Transition.shelved?, shelves, Transition.put?, Transition.accepted?,
      Transition.gaveBack?, effect]

theorem perm_taken (h : History) : (h.served ++ h.fetched).Perm h.taken := by
  have none : h.seen (fun _ => Option.none) = ([] : List Batch) := by simp [seen]
  rw [← List.append_nil h.taken, ← none]
  refine perm_seen ?_ h
  intro x
  cases fetches : x.fetches <;> simp [Transition.served?, Transition.fetched?, fetches]

end History

theorem passed_on {before within after put taken once next : List Batch}
    (first : before ++ put = taken ++ within) (last : within ++ once = next ++ after) :
    before ++ (put ++ once) = taken ++ next ++ after := by
  rw [← List.append_assoc, first, List.append_assoc, last, List.append_assoc]

theorem Run.levels (run : Run m h n) :
    m.queue.channel ++ h.lined = h.served ++ n.queue.channel ∧
      m.queue.overflow ++ h.shelved = h.fetched ++ n.queue.overflow := by
  induction run with
  | nil => simp
  | step run move ih =>
    have keeps := Transition.Keeps.of_move move
    simp only [History.seen_append, History.seen_cons, History.seen_nil, List.append_nil]
    exact ⟨passed_on ih.1 keeps.channel, passed_on ih.2 keeps.aside⟩

theorem Run.conserved (run : Run m h n) (empty : m.queue.held = []) :
    (h.accepted ++ h.returned).Perm (h.taken ++ n.queue.held) := by
  obtain ⟨channel, aside⟩ := run.levels
  simp only [Queue.held, List.append_eq_nil_iff] at empty
  rw [empty.1, List.nil_append] at channel
  rw [empty.2, List.nil_append] at aside
  refine List.perm_iff_count.mpr fun b => ?_
  have put := List.perm_iff_count.mp h.perm_put b
  have taken := List.perm_iff_count.mp h.perm_taken b
  simp only [channel, aside, Queue.held, List.count_append] at put taken ⊢
  omega

/-- What the queue answers to those who use its other end. -/
structure Obliging (m : Mailbox) : Prop where
  take : (∃ f n, Move m .take f n) ∧
    ∀ {f n}, Move m .take f n → ((∃ b, f = .took b) ↔ 0 < m.queue.length)
  receive : (∃ f n, Move m .receive f n) ∧
    (∀ {b n}, Move m .receive (.took b) n ↔ Move m .take (.took b) n) ∧
    ∀ {f n}, Move m .receive f n → (∃ b, f = .took b) ∨ (f = .pending ∧ n = m)
  giveBack : ∀ b, (∃ n, Move m (.giveBack b) (.gaveBack b) n) ∧
    ∀ {f n}, Move m (.giveBack b) f n → f = .gaveBack b ∧ n.queue.waiting = m.queue.waiting ∧
      n.queue.granted = m.queue.granted

theorem Obliging.of_live (live : m.live = true) : Obliging m where
  take := by
    constructor
    · cases found : m.queue.take? with
      | none => exact ⟨_, _, .nothing live found⟩
      | some pair => exact ⟨_, _, .take live found⟩
    · intro f n move
      cases move with
      | take _ found =>
        have some : m.queue.take? ≠ none := by simp [found]
        rw [Ne, Queue.take?_eq_none_iff] at some
        exact ⟨fun _ => Nat.pos_of_ne_zero some, fun _ => ⟨_, rfl⟩⟩
      | nothing _ none =>
        rw [Queue.take?_eq_none_iff] at none
        simp [none]
  receive := by
    refine ⟨?_, ⟨?_, ?_⟩, ?_⟩
    · cases found : m.queue.take? with
      | none => exact ⟨_, _, .pending live found⟩
      | some pair => exact ⟨_, _, .receive live found⟩
    · rintro ⟨⟩
      exact .take ‹_› ‹_›
    · rintro ⟨⟩
      exact .receive ‹_› ‹_›
    · intro f n move
      cases move with
      | receive _ found => exact .inl ⟨_, rfl⟩
      | pending _ none => exact .inr ⟨rfl, rfl⟩
  giveBack b := by
    refine ⟨⟨_, .giveBack live⟩, fun move => ?_⟩
    cases move
    exact ⟨rfl, Queue.waiting_giveBack, Queue.granted_giveBack⟩

def reading (name : String) : Batch := .ofSamples [⟨"host", name, 0, ⟨0⟩⟩]

def twoSlots (channel waiting : List Batch)
    (fits : channel.length ≤ 2 := by exact Nat.le_of_ble_eq_true rfl) : Mailbox :=
  ⟨⟨2, channel, waiting, [], Nat.zero_lt_two, fits⟩, true⟩

/-- A send that has its slot can be overtaken on the way into the channel, by one that was given a
slot after it and is there to use it first. -/
theorem younger_may_enter_first (a b c d : Batch) :
    ∃ h, Run (twoSlots [] []) h (twoSlots [d, c] []) ∧
      (Book.of h).admitted = [⟨0, a⟩, ⟨1, b⟩, ⟨2, c⟩, ⟨3, d⟩] ∧
      (Book.of h).accepted = [⟨0, a⟩, ⟨1, b⟩, ⟨3, d⟩, ⟨2, c⟩] := by
  have run := Run.nil (m := twoSlots [] [])
  have run := run.step (o := twoSlots [a] []) (.accept rfl Nat.zero_lt_two)
  have run := run.step (o := twoSlots [a, b] []) (.accept rfl Nat.zero_lt_one)
  have run := run.step (o := twoSlots [a, b] [c]) (.hold rfl rfl)
  have run := run.step (o := twoSlots [b] [c]) (.take rfl rfl)
  have run := run.step (o := twoSlots [] [c]) (.take rfl rfl)
  have run := run.step (o := twoSlots [d] [c]) (.accept rfl Nat.zero_lt_one)
  have run := run.step (o := twoSlots [d, c] []) (.enter (i := 0) rfl rfl)
  refine ⟨_, run, ?_, ?_⟩ <;>
    simp [Book.of, Book.empty, Book.follow, Book.record, Book.start, Book.next, Book.conclude,
      Book.grant, twoSlots, slots]

end Mailbox

end HostMonitor.Posting
