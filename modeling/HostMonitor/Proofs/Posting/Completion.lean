import HostMonitor.Proofs.Posting.Effort

namespace HostMonitor.Posting

open HostMonitor.Metric (Batch)
open Scheduler (Event Effect Transition History Move Run move_of_step step_of_move)

namespace Scheduler

def Event.begins : Event → Bool
  | .take => true
  | _ => false

namespace History

def cycles (h : History) : Nat := h.countP fun x => x.event.begins

end History

variable {now : Moment} {s t u : Scheduler} {e : Event} {effects : List Effect} {h : History}

def Event.isWork : Event → Bool
  | .take | .merge | .choose | .elapse | .reply _ | .giveBack | .check => true
  | _ => false

/-- Whatever the service replies, the scheduler can go on until its queue is empty. -/
theorem progress (running : s.ended = false) (busy : s.phase = .idle → s.queue.held ≠ [])
    (accepted : Bool) : ∃ e since, e.isWork = true ∧ (∀ a, e = .reply a → a = accepted) ∧
      ∀ now : Moment, since ≤ now.uptime → ∃ effects t, Move now s e effects t := by
  -- In each phase one kind of event is possible; only the end of a wait has to be waited for.
  cases phase : s.phase with
  | idle =>
    have some : s.queue.take?.isSome = true := by
      rw [Queue.take?_isSome, Bool.not_eq_true', ← Bool.not_eq_true, Queue.isEmpty_iff]
      exact busy phase
    obtain ⟨⟨b, q⟩, found⟩ := Option.isSome_iff_exists.mp some
    exact ⟨.take, 0, rfl, nofun, fun now _ => ⟨_, _, .take phase found⟩⟩
  | merging first =>
    cases found : s.queue.take? with
    | none => exact ⟨.merge, 0, rfl, nofun, fun now _ => ⟨_, _, .alone phase found⟩⟩
    | some r => exact ⟨.merge, 0, rfl, nofun, fun now _ => ⟨_, _, .merge phase found⟩⟩
  | choosing cycle => exact ⟨.choose, 0, rfl, nofun, fun now _ => ⟨_, _, .choose phase⟩⟩
  | waiting cycle deadline =>
    exact ⟨.elapse, deadline, rfl, nofun, fun now due => ⟨_, _, .elapse phase due⟩⟩
  | posting cycle =>
    refine ⟨.reply accepted, 0, rfl, fun a same => ?_, fun now _ => ?_⟩
    · cases same; rfl
    · cases accepted with
      | true => exact ⟨_, _, .deliver phase⟩
      | false => exact ⟨_, _, .fail phase⟩
  | returning rest =>
    refine ⟨.giveBack, 0, rfl, nofun, fun now _ => ?_⟩
    cases rest with
    | nil => exact ⟨_, _, .goOn phase⟩
    | cons b rest =>
      cases counted : b.fail? with
      | none => exact ⟨_, _, .overflow phase counted⟩
      | some b' =>
        cases exhausted : b'.isExhausted s.settings.retryLimit with
        | true => exact ⟨_, _, .abandon phase counted exhausted⟩
        | false => exact ⟨_, _, .giveBack phase counted exhausted⟩
  | checking =>
    refine ⟨.check, 0, rfl, nofun, fun now _ => ?_⟩
    by_cases done : s.mode = .draining ∧ s.queue.isEmpty = true
    · exact ⟨_, _, .finish phase done.1 done.2⟩
    · exact ⟨_, _, .resume phase done⟩
  | stopped | overflown => simp [ended, phase] at running

theorem Move.left_at_end (move : Move now s e effects t) (running : s.ended = false)
    (within : s.Within) (limited : s.settings.retryLimit.toNat < 0xffff_ffff)
    (halted : t.ended = true) :
    t.holding = [] ∨ (e = .signal ∧ t.phase = .stopped (.error .forcedTermination)) := by
  obtain ⟨-, same, ⟨-, -, empty, ok⟩ | ⟨signal, -, -, forced⟩ | overflown⟩ :=
    move.ending running halted
  · refine .inl ?_
    rw [holding, ok, same, empty]
    rfl
  · exact .inr ⟨signal, forced⟩
  · exact absurd overflown (move.not_overflown running within limited)

theorem Run.left_at_end (run : Run s h t) (running : s.ended = false) (solvent : s.Solvent)
    (limited : s.settings.retryLimit.toNat < 0xffff_ffff) (quiet : h.accepted = [])
    (halted : t.ended = true) :
    t.holding = [] ∨ t.phase = .stopped (.error .forcedTermination) := by
  obtain ⟨h₁, x, h₂, rfl, before, move, running, halted, phase, held, -⟩ :=
    run.closing running halted
  simp only [History.accepted_append, List.append_eq_nil_iff] at quiet
  have within := (before.solvent solvent quiet.1).within
  rw [← before.settings_eq] at limited
  rw [holding, ← phase, ← held]
  exact (move.left_at_end running within limited halted).imp_right fun forced => forced.2

end Scheduler

namespace Phase

def unposted : Phase → Nat
  | .merging _ | .choosing _ | .waiting _ _ => 1
  | _ => 0

end Phase

namespace Scheduler

variable {now : Moment} {s t u : Scheduler} {e : Event} {effects : List Effect} {h : History}

theorem Move.unposted (move : Move now s e effects t)
    (unforced : ∀ f, t.phase ≠ .stopped (.error f)) :
    (effects.filterMap Effect.posts?).length + t.phase.unposted =
      s.phase.unposted + (if e.begins then 1 else 0) := by
  cases move with
  | force => simp at unforced
  | _ => simp_all [Phase.unposted, Event.begins, Effect.posts?, List.filterMap]

theorem Run.unposted (run : Run s h t) (unforced : ∀ f, t.phase ≠ .stopped (.error f)) :
    h.posted.length + t.phase.unposted = s.phase.unposted + h.cycles := by
  induction run with
  | nil => simp [History.cycles]
  | @step h t now e u effects run made ih =>
    have move := move_of_step made
    have before := ih fun f forced => by
      have phase := (move.refused (by simp [ended, forced])).2.2.1
      exact unforced f (phase.trans forced)
    have now := move.unposted unforced
    simp [History.cycles, List.countP_cons] at before now ⊢
    omega

theorem Move.posted_le (move : Move now s e effects t) (loaded : s.phase.Loaded) :
    (effects.filterMap Effect.posts?).length ≤
      (effects.filterMap Effect.posts?).flatten.length := by
  cases move with
  | signalWaiting phase | elapse phase =>
    simp only [phase, Phase.Loaded] at loaded
    simpa [Effect.posts?, List.filterMap, Nat.succ_le_iff] using List.length_pos_iff.mpr loaded
  | _ => simp [Effect.posts?, List.filterMap]

theorem Run.posted_le (run : Run s h t) (loaded : s.phase.Loaded) :
    h.posted.length ≤ h.posted.flatten.length := by
  suffices h.posted.length ≤ h.posted.flatten.length ∧ t.phase.Loaded from this.1
  induction run with
  | nil => exact ⟨Nat.le_refl _, loaded⟩
  | step run made ih =>
    have move := move_of_step made
    have now := move.posted_le ih.2
    refine ⟨?_, move.loaded ih.2⟩
    simp only [History.posted_append, History.posted_cons, History.posted_nil, List.append_nil,
      List.flatten_append, List.length_append]
    exact Nat.add_le_add ih.1 now

theorem Move.reply (move : Move now s e effects t) {n : Nat} {r : List Batch × Bool}
    (found : (effects.filterMap Effect.reply?)[n]? = some r) : n = 0 ∧ e = .reply r.2 := by
  cases move with
  | deliver | fail =>
    simp only [Effect.reply?, List.filterMap, List.getElem?_singleton] at found
    split at found
    · next first => cases found; exact ⟨first, rfl⟩
    · cases found
  | _ => simp [Effect.reply?, List.filterMap] at found

namespace History

/-- From the start on, nobody does anything but the scheduler and the service, whose replies are
given. -/
structure Alone (start : Moment) (replies : Nat → Bool) (h : History) : Prop where
  works : ∀ x ∈ h, x.event.isWork = true
  onward : (start :: h.map Transition.now).Pairwise fun a b => a.uptime ≤ b.uptime
  replied : ∀ {n r}, h.replies[n]? = some r → r.2 = replies n

variable {start : Moment} {replies : Nat → Bool}

theorem Alone.nil : Alone start replies [] where
  works _ hx := nomatch hx
  onward := List.pairwise_singleton _ _
  replied found := nomatch found

theorem Alone.cons (work : e.isWork = true) (later : start.uptime ≤ now.uptime)
    (replied : ∀ {n r}, (effects.filterMap Effect.reply?)[n]? = some r → r.2 = replies n)
    (alone : h.Alone now fun n => replies (n + (effects.filterMap Effect.reply?).length)) :
    Alone start replies (⟨s, now, e, effects, t⟩ :: h) where
  works x hx := by
    rcases List.mem_cons.mp hx with rfl | hx
    · exact work
    · exact alone.works x hx
  onward := by
    have onward := alone.onward
    rw [List.map_cons, List.pairwise_cons]
    refine ⟨fun m hm => ?_, onward⟩
    rcases List.mem_cons.mp hm with rfl | hm
    · exact later
    · exact Nat.le_trans later ((List.pairwise_cons.mp onward).1 m hm)
  replied {n r} found := by
    rw [replies_cons, List.getElem?_append] at found
    split at found
    · exact replied found
    · next beyond =>
      rw [alone.replied found, Nat.sub_add_cancel (Nat.le_of_not_lt beyond)]

end History

theorem drains (running : s.ended = false) (solvent : s.Solvent)
    (limited : s.settings.retryLimit.toNat < 0xffff_ffff) (start : Moment)
    (replies : Nat → Bool) :
    ∃ h t, Run s h t ∧ h.Alone start replies ∧ t.holding = [] := by
  -- Each step costs some of the budget, and a reply takes the first one of those that are given.
  induction budget : s.budget using Nat.strongRecOn generalizing s start replies with
  | ind n ih =>
    by_cases empty : s.holding = []
    · exact ⟨[], s, .nil, .nil, empty⟩
    have busy : s.phase = .idle → s.queue.held ≠ [] := fun phase none =>
      empty (by rw [holding, phase, none]; rfl)
    obtain ⟨e, since, work, answer, moves⟩ := progress running busy (replies 0)
    let now : Moment := { start with uptime := max start.uptime since }
    obtain ⟨effects, t, move⟩ := moves now (Nat.le_max_right _ _)
    have own : e.isSend = false := by cases e <;> simp_all [Event.isWork, Event.isSend]
    have replied : ∀ {n r}, (effects.filterMap Effect.reply?)[n]? = some r → r.2 = replies n := by
      intro n r found
      obtain ⟨rfl, reply⟩ := move.reply found
      exact answer _ reply
    have later : start.uptime ≤ now.uptime := Nat.le_max_left _ _
    cases halted : t.ended with
    | true =>
      refine ⟨[⟨s, now, e, effects, t⟩], t, .cons (step_of_move move) .nil,
        .cons work later replied .nil, ?_⟩
      refine (move.left_at_end running solvent.within limited halted).resolve_right fun forced => ?_
      rw [forced.1] at work
      cases work
    | false =>
      obtain ⟨h, u, run, alone, drained⟩ := ih _ (budget ▸ move.budget solvent own) halted
        (move.solvent solvent (move.quiet_of_own own)) (by rwa [move.settings_eq]) now
        (fun n => replies (n + (effects.filterMap Effect.reply?).length)) rfl
      exact ⟨_, u, .cons (step_of_move move) run, .cons work later replied alone, drained⟩

theorem potential_eq_effort (posting : ∀ cycle, s.phase ≠ .posting cycle)
    (returning : ∀ rest, s.phase ≠ .returning rest) : s.potential = s.effort := by
  rw [potential, effort, holding, room_append]
  congr 1
  cases phase : s.phase with
  | posting cycle => exact absurd phase (posting cycle)
  | returning rest => exact absurd phase (returning rest)
  | _ => rfl

theorem Run.spends (run : Run s h t) (solvent : s.Solvent) (quiet : h.accepted = [])
    (start : s.phase = .idle) (finish : t.phase = .idle ∨ t.phase = .stopped (.ok ())) :
    h.posted.length = h.cycles ∧ t.effort + h.cycles ≤ s.effort := by
  have unforced : ∀ f, t.phase ≠ .stopped (.error f) := fun f forced => by
    rcases finish with phase | phase <;> simp [phase] at forced
  have once := run.unposted unforced
  have spent := run.potential solvent quiet
  have full := run.posted_le solvent.loaded
  have first : s.potential = s.effort :=
    potential_eq_effort (by simp [start]) (by simp [start])
  have last : t.potential = t.effort := by
    rcases finish with phase | phase <;>
      exact potential_eq_effort (by simp [phase]) (by simp [phase])
  have none : t.phase.unposted = 0 := by
    rcases finish with phase | phase <;> simp [phase, Phase.unposted]
  have begun : s.phase.unposted = 0 := by rw [start]; rfl
  rw [none, begun, Nat.add_zero, Nat.zero_add] at once
  exact ⟨once, by omega⟩

/-- As long as the queue accepts nothing, there are no more posts than the attempts that are left to
the batches, and after as many the queue is empty. Each cycle is posted once, which costs at least
one attempt, unless the end is forced. The scheduler goes on while it holds something, whatever the
service replies, for so many steps at most, and left alone it comes to hold nothing. -/
structure Dwindling (s : Scheduler) : Prop where
  posts : ∀ {h t}, Run s h t → h.accepted = [] →
    h.posted.length ≤ s.effort ∧ (h.posted.length = s.effort → t.queue.held = [])
  cycles : ∀ {h t k u}, Run s h t → Run t k u → (h ++ k).accepted = [] → t.phase = .idle →
    u.phase = .idle ∨ u.phase = .stopped (.ok ()) →
    k.posted.length = k.cycles ∧ u.effort + k.cycles ≤ t.effort
  steps : ∃ n, ∀ {h t}, Run s h t → h.accepted = [] → h.steps ≤ n
  goesOn : ∀ {h t}, Run s h t → h.accepted = [] → t.ended = false → t.holding ≠ [] →
    ∀ accepted, ∃ e since, e.isWork = true ∧ (∀ a, e = .reply a → a = accepted) ∧
      ∀ now : Moment, since ≤ now.uptime → ∃ effects u, t.step now e = some (u, effects)
  ends : s.ended = false → ∀ {h t}, Run s h t → h.accepted = [] → t.ended = true →
    t.holding = [] ∨ t.phase = .stopped (.error .forcedTermination)
  drains : ∀ {h t}, Run s h t → h.accepted = [] → t.ended = false → ∀ start replies,
    ∃ k u, Run t k u ∧ k.Alone start replies ∧ u.holding = []

theorem posts_bounded_by_effort (within : s.Within) (loaded : s.phase.Loaded)
    (limited : s.settings.retryLimit.toNat < 0xffff_ffff) : s.Dwindling := by
  have solvent : s.Solvent := ⟨within, loaded⟩
  constructor
  case posts =>
    intro h t run quiet
    have few := run.potential solvent quiet
    have full := run.posted_le loaded
    have most := s.potential_le_effort
    refine ⟨by omega, fun all => ?_⟩
    -- No attempt is left to a batch in the queue, which has one at least.
    have none : room (t.settings.retryLimit.toNat + 1) t.queue.held = 0 := by
      have : room (t.settings.retryLimit.toNat + 1) t.queue.held ≤ t.potential :=
        Nat.le_add_left _ _
      omega
    exact eq_nil_of_room (fun _ hb => (run.solvent solvent quiet).within.of_mem_held hb) none
  case cycles =>
    intro h t k u before run quiet start finish
    rw [History.accepted_append, List.append_eq_nil_iff] at quiet
    exact run.spends (before.solvent solvent quiet.1) quiet.2 start finish
  case steps =>
    refine ⟨s.budget, fun run quiet => ?_⟩
    have := run.budget solvent quiet
    omega
  case goesOn =>
    intro h t run quiet running some accepted
    have busy : t.phase = .idle → t.queue.held ≠ [] := fun phase none =>
      some (by rw [holding, phase, none]; rfl)
    obtain ⟨e, since, work, answer, moves⟩ := progress running busy accepted
    refine ⟨e, since, work, answer, fun now due => ?_⟩
    obtain ⟨effects, u, move⟩ := moves now due
    exact ⟨effects, u, step_of_move move⟩
  case ends =>
    exact fun running _ _ run quiet halted => run.left_at_end running solvent limited quiet halted
  case drains =>
    intro h t run quiet running start replies
    exact Scheduler.drains running (run.solvent solvent quiet) (by rwa [run.settings_eq]) start
      replies

def twoLeft : Scheduler := { trial with
  phase := .waiting [{ reading with retries := 1 }] 0
  queue := ⟨1, [reading], [], [], Nat.one_pos, Nat.le_refl 1⟩ }

theorem posts_of_two_left_bounded : twoLeft.effort = 3 ∧ twoLeft.Dwindling ∧
    ∃ h t, Run twoLeft h t ∧ h.accepted = [] ∧ h.posted.length = 3 ∧ t.holding = [] := by
  have within : twoLeft.Within := by
    intro b hb
    rcases List.mem_cons.mp hb with rfl | hb
    · decide
    · cases List.mem_singleton.mp hb
      decide
  let cycle : List Event := [.take, .merge, .choose, .elapse, .reply false, .giveBack, .giveBack]
  let script : List (Moment × Event) := (cycle.drop 3 ++ cycle ++ cycle).zipIdx.map
    fun (e, n) => (⟨60_000 * n, .epoch⟩, e)
  obtain ⟨h, t, run, seen⟩ := Run.of_play twoLeft script
    (fun r => (r.1.accepted, r.1.posted.length, r.2.holding)) rfl
  simp only [Prod.mk.injEq] at seen
  exact ⟨rfl, posts_bounded_by_effort within (by simp [twoLeft, Phase.Loaded]) (by decide), h, t,
    run, seen⟩

end Scheduler

end HostMonitor.Posting
