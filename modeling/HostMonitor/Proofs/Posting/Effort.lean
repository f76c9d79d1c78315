import HostMonitor.Proofs.Posting.Drain
import HostMonitor.Proofs.Posting.Holding
import HostMonitor.Proofs.Posting.Termination

namespace HostMonitor.Posting

open HostMonitor.Metric (Batch)
open Scheduler (Event Effect Transition History Move Run move_of_step step_of_move)

def room (k : Nat) : List Batch → Nat
  | [] => 0
  | b :: bs => (k - b.retries.toNat) + room k bs

section

variable {k : Nat} {b : Batch} {bs cs : List Batch}

@[simp] theorem room_nil : room k [] = 0 := rfl

@[simp] theorem room_cons : room k (b :: bs) = (k - b.retries.toNat) + room k bs := rfl

@[simp] theorem room_append : room k (bs ++ cs) = room k bs + room k cs := by
  induction bs with
  | nil => simp
  | cons b bs ih => simp [ih, Nat.add_assoc]

theorem room_perm (h : bs.Perm cs) : room k bs = room k cs := by
  induction h with
  | nil => rfl
  | cons b _ ih => rw [room_cons, room_cons, ih]
  | swap a b bs => simp only [room_cons]; omega
  | trans _ _ ih₁ ih₂ => exact ih₁.trans ih₂

theorem room_succ (h : ∀ b ∈ bs, b.retries.toNat ≤ k) : room (k + 1) bs = room k bs + bs.length := by
  induction bs with
  | nil => rfl
  | cons b bs ih =>
    have few := h b List.mem_cons_self
    rw [room_cons, room_cons, ih fun a ha => h a (List.mem_cons_of_mem b ha), List.length_cons]
    omega

theorem room_le_succ : room k bs ≤ room (k + 1) bs := by
  induction bs with
  | nil => exact Nat.le_refl _
  | cons b bs ih => rw [room_cons, room_cons]; omega

theorem eq_nil_of_room (h : ∀ b ∈ bs, b.retries.toNat ≤ k) (none : room (k + 1) bs = 0) :
    bs = [] := by
  rw [room_succ h] at none
  exact List.eq_nil_of_length_eq_zero (by omega)

end

def Phase.room (limit : Nat) : Phase → Nat
  | .posting cycle | .returning cycle => Posting.room limit cycle
  | phase => Posting.room (limit + 1) phase.hand

namespace Scheduler

def effort (s : Scheduler) : Nat := room (s.settings.retryLimit.toNat + 1) s.holding

/-- The attempts that are not spent by a post that was made. -/
def potential (s : Scheduler) : Nat :=
  s.phase.room s.settings.retryLimit.toNat +
    room (s.settings.retryLimit.toNat + 1) s.queue.held

variable {now : Moment} {s t u : Scheduler} {e : Event} {effects : List Effect} {h : History}

theorem potential_le_effort : s.potential ≤ s.effort := by
  rw [potential, effort, holding, room_append]
  refine Nat.add_le_add_right ?_ _
  cases phase : s.phase with
  | posting cycle | returning cycle => exact room_le_succ
  | _ => exact Nat.le_refl _

theorem Move.loaded (move : Move now s e effects t) (loaded : s.phase.Loaded) : t.phase.Loaded := by
  cases move <;> simp_all [Phase.Loaded]

structure Solvent (s : Scheduler) : Prop where
  within : s.Within
  loaded : s.phase.Loaded

theorem Move.solvent (move : Move now s e effects t) (solvent : s.Solvent)
    (quiet : effects.filterMap Effect.accepted? = []) : t.Solvent where
  within := move.within solvent.within fun b hb => by
    have : b ∈ effects.filterMap Effect.accepted? := List.mem_filterMap.mpr ⟨_, hb, rfl⟩
    rw [quiet] at this
    cases this
  loaded := move.loaded solvent.loaded

theorem Solvent.spends (solvent : s.Solvent) :
    room s.settings.retryLimit.toNat s.phase.hand + s.phase.hand.length =
      room (s.settings.retryLimit.toNat + 1) s.phase.hand :=
  (room_succ fun _ hb => solvent.within.of_mem_hand hb).symm

theorem Move.potential (move : Move now s e effects t) (solvent : s.Solvent)
    (quiet : effects.filterMap Effect.accepted? = []) :
    (effects.filterMap Effect.posts?).flatten.length + t.potential ≤ s.potential := by
  have spends := solvent.spends
  unfold Scheduler.potential
  cases move with
  | refuse => simp [Effect.posts?, List.filterMap]
  | accept | enter => simp [Effect.accepted?, List.filterMap] at quiet
  | hold running full => simp [Effect.posts?, List.filterMap, Queue.held_offer_of_full full]
  | bounce ended found | withdraw running found =>
    simp [Effect.posts?, List.filterMap, Queue.held_withdraw? found]
  | signalIdle phase | alone phase | goOn phase | finish phase | resume phase =>
    simp [phase, Phase.room, Phase.hand]
  | choose phase => simp [Effect.posts?, List.filterMap, phase, Phase.room, Phase.hand]
  -- The only moves after which the batches in hand have an attempt less.
  | signalWaiting phase | elapse phase =>
    rw [phase] at spends
    simp only [Phase.hand] at spends
    simp [Effect.posts?, List.filterMap, phase, Phase.room, Phase.hand, ← spends]
    omega
  | force | overflow => simp [Phase.room, Phase.hand]
  | hangUp => simp
  | take phase found | merge phase found =>
    simp [Effect.posts?, List.filterMap, phase, Phase.room, Phase.hand, Queue.held_take? found,
      Nat.add_assoc]
  | deliver phase => simp [Effect.posts?, List.filterMap, phase, Phase.room, Phase.hand]
  | fail phase => simp [Effect.posts?, List.filterMap, phase, Phase.room]
  | abandon phase => simp [Effect.posts?, List.filterMap, phase, Phase.room]
  | giveBack phase counted =>
    have retries := Batch.toNat_retries_of_fail? counted
    simp only [Effect.posts?, List.filterMap, List.flatten_nil, List.length_nil, phase, Phase.room,
      room_perm Queue.held_giveBack_perm, room_cons, retries]
    omega

theorem Run.solvent (run : Run s h t) (solvent : s.Solvent) (quiet : h.accepted = []) :
    t.Solvent := by
  induction run with
  | nil => exact solvent
  | step run made ih =>
    rw [History.accepted_concat_eq_nil] at quiet
    exact (move_of_step made).solvent (ih quiet.1) quiet.2

theorem Run.potential (run : Run s h t) (solvent : s.Solvent) (quiet : h.accepted = []) :
    h.posted.flatten.length + t.potential ≤ s.potential := by
  induction run with
  | nil => simp
  | step run made ih =>
    rw [History.accepted_concat_eq_nil] at quiet
    have before := ih quiet.1
    have now := (move_of_step made).potential (run.solvent solvent quiet.1) quiet.2
    simp only [History.posted_append, History.posted_cons, History.posted_nil, List.append_nil,
      List.flatten_append, List.length_append]
    omega

end Scheduler

def Phase.rank : Phase → Nat
  | .posting cycle => cycle.length + 6
  | .returning rest => rest.length + 5
  | .checking => 5
  | .idle => 4
  | .merging _ => 3
  | .choosing _ => 2
  | .waiting _ _ => 1
  | .stopped _ | .overflown => 0

namespace Scheduler

variable {now : Moment} {s t u : Scheduler} {e : Event} {effects : List Effect} {h : History}

def patience (s : Scheduler) : Nat :=
  s.phase.rank + (if s.mode = .draining then 0 else 2) + (if s.listening then 1 else 0)

/-- The steps that the scheduler can still make while no batch comes. -/
def budget (s : Scheduler) : Nat :=
  -- A cycle of two batches is eight steps from its end when it is posted, and has cost two attempts.
  8 * s.potential + s.patience

theorem Move.quiet_of_own (move : Move now s e effects t) (own : e.isSend = false) :
    effects.filterMap Effect.accepted? = [] := by
  cases move <;> simp_all [Event.isSend, Effect.accepted?, List.filterMap]

theorem Move.patience (move : Move now s e effects t) (loaded : s.phase.Loaded)
    (own : e.isSend = false) :
    t.patience < s.patience + 8 * (effects.filterMap Effect.posts?).flatten.length := by
  unfold Scheduler.patience
  cases move with
  | refuse | accept | hold | enter | bounce | withdraw => simp [Event.isSend] at own
  | signalIdle phase listening other => simp [phase, Phase.rank, other]
  | signalWaiting phase listening other =>
    have := List.length_pos_iff.mpr (by simpa [phase, Phase.Loaded] using loaded)
    simp [phase, Phase.rank, other, Effect.posts?, List.filterMap]
    omega
  | elapse phase =>
    have := List.length_pos_iff.mpr (by simpa [phase, Phase.Loaded] using loaded)
    simp [phase, Phase.rank, Effect.posts?, List.filterMap]
    omega
  | force listens listening draining =>
    cases phase : s.phase <;> simp_all [Phase.rank, Phase.listens]
  | hangUp listens listening => simp [listening]
  | choose phase | fail phase =>
    simp only [phase, Phase.rank, Mode.afterTaking_eq_draining, Mode.afterFailure_eq_draining]
    omega
  | take phase | merge phase | alone phase | deliver phase | overflow phase | abandon phase
  | giveBack phase | goOn phase | finish phase | resume phase =>
    simp only [phase, Phase.rank, List.length_cons, List.length_nil]
    omega

theorem Move.budget (move : Move now s e effects t) (solvent : s.Solvent)
    (own : e.isSend = false) : t.budget < s.budget := by
  have potential := move.potential solvent (move.quiet_of_own own)
  have patience := move.patience solvent.loaded own
  unfold Scheduler.budget
  omega

theorem Move.budget_of_send (move : Move now s e effects t) (sends : e.isSend = true)
    (quiet : effects.filterMap Effect.accepted? = []) : t.budget = s.budget := by
  obtain ⟨q, rfl, ⟨b, rfl, -⟩ | ⟨-, held⟩⟩ := move.send sends
  · cases quiet
  · simp [Scheduler.budget, Scheduler.potential, Scheduler.patience, held]

end Scheduler

namespace Scheduler.History

def steps (h : History) : Nat := h.countP fun x => !x.event.isSend

@[simp] theorem steps_append (h k : History) : steps (h ++ k) = steps h + steps k := by
  simp [steps]

end Scheduler.History

namespace Scheduler

variable {now : Moment} {s t u : Scheduler} {e : Event} {effects : List Effect} {h : History}

theorem Run.budget (run : Run s h t) (solvent : s.Solvent) (quiet : h.accepted = []) :
    h.steps + t.budget ≤ s.budget := by
  induction run with
  | nil => simp [History.steps]
  | @step h t now e u effects run made ih =>
    rw [History.accepted_concat_eq_nil] at quiet
    have before := ih quiet.1
    have move := move_of_step made
    rw [History.steps_append]
    cases sends : e.isSend with
    | true =>
      have now := move.budget_of_send sends quiet.2
      simp [History.steps, sends] at before ⊢
      omega
    | false =>
      have now := move.budget (run.solvent solvent quiet.1) sends
      simp [History.steps, sends] at before ⊢
      omega

end Scheduler

end HostMonitor.Posting
