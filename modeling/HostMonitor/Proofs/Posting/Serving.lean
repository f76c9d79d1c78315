import HostMonitor.Proofs.Posting.Custody
import HostMonitor.Proofs.Posting.Termination

namespace HostMonitor.Posting

open HostMonitor.Metric (Batch)
open Scheduler (Event Effect Transition History Move Run move_of_step)

namespace Phase

def chosen : Phase → List (List Batch)
  | .choosing cycle | .waiting cycle _ => [cycle]
  | _ => []

def unsent : Phase → List Batch
  | .merging first => [first]
  | .choosing cycle | .waiting cycle _ => cycle
  | _ => []

def posting? : Phase → Option (List Batch)
  | .posting cycle => some cycle
  | _ => none

end Phase

namespace Scheduler

def Effect.took? : Effect → Option Batch
  | .took b => some b
  | _ => none

def Transition.merged? (x : Transition) : Option (List Batch) :=
  match x.event, x.source.phase with
  | .merge, .merging first => some (first :: x.source.queue.held.take 1)
  | _, _ => none

namespace History

def taken (h : History) : List Batch := h.effects.filterMap Effect.took?

def merged (h : History) : List (List Batch) := h.filterMap Transition.merged?

@[simp] theorem taken_nil : taken [] = [] := rfl

@[simp] theorem taken_cons (x : Transition) (h : History) :
    taken (x :: h) = x.effects.filterMap Effect.took? ++ taken h := by simp [taken]

@[simp] theorem taken_append (h k : History) : taken (h ++ k) = taken h ++ taken k := by
  simp [taken]

theorem merged_singleton (x : Transition) : merged [x] = x.merged?.toList := by
  cases found : x.merged? <;> simp [merged, found]

@[simp] theorem merged_append (h k : History) : merged (h ++ k) = merged h ++ merged k := by
  simp [merged]

end History

variable {now : Moment} {s t : Scheduler} {e : Event} {effects : List Effect} {h : History}
  {settings : Settings} {offset : Span} {queue : Queue} {capacity : Nat} {cycle : List Batch}

theorem Move.merged (move : Move now s e effects t) (running : t.ended = false) :
    s.phase.chosen ++ (Transition.merged? ⟨s, now, e, effects, t⟩).toList =
      effects.filterMap Effect.posts? ++ t.phase.chosen := by
  cases move with
  | force | overflow => simp [ended] at running
  | merge phase found =>
    simp [Transition.merged?, phase, Phase.chosen, Effect.posts?, List.filterMap,
      Queue.held_take? found]
  | alone phase none =>
    have empty : s.queue.held = [] := by
      rw [← Queue.isEmpty_iff]
      simpa [none] using Queue.take?_isSome s.queue
    simp [Transition.merged?, phase, Phase.chosen, empty]
  | _ => simp_all [Transition.merged?, Phase.chosen, Effect.posts?, List.filterMap]

theorem Move.taken (move : Move now s e effects t) (running : t.ended = false) :
    s.phase.unsent ++ effects.filterMap Effect.took? =
      (effects.filterMap Effect.posts?).flatten ++ t.phase.unsent := by
  cases move with
  | force | overflow => simp [ended] at running
  | _ => simp_all [Phase.unsent, Effect.took?, Effect.posts?, List.filterMap]

/-- The queue gives batches out in the order in which it accepts them, while none is put back. -/
theorem Move.inOrder (move : Move now s e effects t) (none : s.queue.overflow = [])
    (kept : ∀ rest, s.phase ≠ .returning rest)
    (delivered : ∀ r ∈ effects.filterMap Effect.reply?, r.2 = true) :
    s.queue.channel ++ effects.filterMap Effect.accepted? =
        effects.filterMap Effect.took? ++ t.queue.channel ∧
      t.queue.overflow = [] ∧ ∀ rest, t.phase ≠ .returning rest := by
  cases move with
  | accept running free =>
    simpa [Effect.accepted?, Effect.took?, List.filterMap, Queue.channel_offer free, none] using kept
  | hold running full =>
    simpa [Effect.accepted?, Effect.took?, List.filterMap, Queue.channel_offer_of_full full, none]
      using kept
  | enter running found =>
    simpa [Effect.accepted?, Effect.took?, List.filterMap, Queue.channel_enter? found,
      Queue.overflow_enter? found, none] using kept
  | bounce ended found | withdraw running found =>
    simpa [Effect.accepted?, Effect.took?, List.filterMap, Queue.channel_withdraw? found,
      Queue.overflow_withdraw? found, none] using kept
  | take phase found | merge phase found =>
    rcases Queue.take?_cases found with ⟨channel, same⟩ | ⟨-, -, more⟩
    · simp [Effect.accepted?, Effect.took?, List.filterMap, channel, same, none]
    · simp [none] at more
  | fail phase => simp [Effect.reply?, List.filterMap] at delivered
  | overflow phase | abandon phase | giveBack phase | goOn phase => exact absurd phase (kept _)
  | _ => simp_all [Effect.accepted?, Effect.took?, List.filterMap]

theorem Run.merged (run : Run (.start settings offset queue) h s) (running : s.ended = false) :
    h.merged = h.posted ++ s.phase.chosen := by
  induction run with
  | nil => rfl
  | step run made ih =>
    have move := move_of_step made
    simp only [History.merged_append, History.merged_singleton, ih (move.running running),
      History.posted_append, History.posted_cons, History.posted_nil, List.append_nil,
      List.append_assoc]
    rw [move.merged running]

theorem Run.taken (run : Run (.start settings offset queue) h s) (running : s.ended = false) :
    h.taken = h.posted.flatten ++ s.phase.unsent := by
  induction run with
  | nil => rfl
  | step run made ih =>
    have move := move_of_step made
    simp only [History.taken_append, History.taken_cons, History.taken_nil, List.append_nil,
      ih (move.running running), History.posted_append, History.posted_cons, History.posted_nil,
      List.flatten_append, List.append_assoc]
    rw [move.taken running]

theorem Run.inOrder (built : Queue.ofCapacity? capacity = some queue)
    (run : Run (.start settings offset queue) h s) (delivered : ∀ r ∈ h.replies, r.2 = true) :
    h.accepted = h.taken ++ s.queue.channel := by
  obtain ⟨channel, -, overflow⟩ := Queue.empty_of_ofCapacity? built
  suffices h.accepted = h.taken ++ s.queue.channel ∧ s.queue.overflow = [] ∧
      ∀ rest, s.phase ≠ .returning rest from this.1
  induction run with
  | nil => exact ⟨channel.symm, overflow, nofun⟩
  | step run made ih =>
    simp only [History.replies_append, History.replies_cons, History.replies_nil, List.append_nil,
      List.mem_append] at delivered
    obtain ⟨before, none, kept⟩ := ih fun r hr => delivered r (.inl hr)
    obtain ⟨now, still⟩ :=
      (move_of_step made).inOrder none kept fun r hr => delivered r (.inr hr)
    refine ⟨?_, still⟩
    simp only [History.accepted_append, History.accepted_cons, History.accepted_nil,
      History.taken_append, History.taken_cons, History.taken_nil, List.append_nil, before,
      List.append_assoc]
    rw [now]

theorem Run.posted_before_end (run : Run (.start settings offset queue) h s) : ∃ h₁ h₂ t,
    h = h₁ ++ h₂ ∧ Run (.start settings offset queue) h₁ t ∧ t.ended = false ∧
      h.posted = h₁.posted := by
  cases halted : s.ended with
  | false => exact ⟨h, [], s, (List.append_nil h).symm, run, halted, rfl⟩
  | true =>
    obtain ⟨h₁, x, h₂, rfl, first, -, running, -, -, -, silent⟩ := run.closing rfl halted
    have none : History.posted (x :: h₂) = [] := by
      refine List.filterMap_eq_nil_iff.mpr fun f hf => ?_
      obtain ⟨b, rfl⟩ := silent f hf
      rfl
    exact ⟨h₁, x :: h₂, x.source, rfl, first, running, by
      rw [History.posted_append, none, List.append_nil]⟩

theorem Run.posted_prefix (run : Run (.start settings offset queue) h s) :
    h.posted <+: h.merged ∧ h.posted.flatten <+: h.taken := by
  obtain ⟨h₁, h₂, t, rfl, first, running, same⟩ := run.posted_before_end
  rw [same, History.merged_append, History.taken_append, first.merged running,
    first.taken running]
  constructor
  · rw [List.append_assoc]
    exact List.prefix_append _ _
  · rw [List.append_assoc]
    exact List.prefix_append _ _

theorem Run.posted_inOrder (built : Queue.ofCapacity? capacity = some queue)
    (run : Run (.start settings offset queue) h s) (delivered : ∀ r ∈ h.replies, r.2 = true) :
    h.posted.flatten <+: h.accepted := by
  rw [run.inOrder built delivered]
  exact run.posted_prefix.2.trans (List.prefix_append _ _)

theorem Transition.length_of_merged? {x : Transition} (merged : x.merged? = some cycle) :
    cycle.length = 1 ∨ cycle.length = 2 := by
  unfold Transition.merged? at merged
  split at merged
  · cases merged
    rw [List.length_cons, List.length_take]
    omega
  · cases merged

theorem Run.length_of_posted (run : Run (.start settings offset queue) h s)
    (posted : cycle ∈ h.posted) : cycle.length = 1 ∨ cycle.length = 2 := by
  obtain ⟨x, -, merged⟩ := List.mem_filterMap.mp (run.posted_prefix.1.subset posted)
  exact Transition.length_of_merged? merged

theorem Move.posting (move : Move now s e effects t) :
    s.phase.posting?.toList ++ effects.filterMap Effect.posts? =
      (effects.filterMap Effect.reply?).map Prod.fst ++ t.phase.posting?.toList := by
  cases move with
  | force listens => cases phase : s.phase <;> simp_all [Phase.listens, Phase.posting?]
  | _ => simp_all [Phase.posting?, Effect.posts?, Effect.reply?, List.filterMap]

theorem Run.posting (run : Run (.start settings offset queue) h s) :
    h.posted = h.replies.map Prod.fst ++ s.phase.posting?.toList := by
  induction run with
  | nil => rfl
  | step run made ih =>
    simp only [History.posted_append, History.posted_cons, History.posted_nil,
      History.replies_append, History.replies_cons, History.replies_nil, List.append_nil,
      List.map_append, ih, List.append_assoc]
    rw [(move_of_step made).posting]

end Scheduler

end HostMonitor.Posting
