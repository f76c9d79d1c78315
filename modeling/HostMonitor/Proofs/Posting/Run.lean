import HostMonitor.Proofs.Posting.Move
import HostMonitor.Proofs.Posting.Queue

namespace HostMonitor.Posting.Scheduler

open HostMonitor.Metric (Batch)

def Event.isSend : Event → Bool
  | .offer _ | .enter _ | .withdraw _ => true
  | _ => false

structure Transition : Type where
  source : Scheduler
  now : Moment
  event : Event
  effects : List Effect
  target : Scheduler

abbrev History : Type := List Transition

namespace Effect

def accepted? : Effect → Option Batch
  | .accepted b => some b
  | _ => none

def reply? : Effect → Option (List Batch × Bool)
  | .delivered cycle => some (cycle, true)
  | .failed cycle => some (cycle, false)
  | _ => none

def abandoned? : Effect → Option Batch
  | .abandoned b => some b
  | _ => none

def posts? : Effect → Option (List Batch)
  | .posts cycle => some cycle
  | _ => none

end Effect

namespace History

def effects (h : History) : List Effect := h.flatMap Transition.effects

def accepted (h : History) : List Batch := h.effects.filterMap Effect.accepted?

def replies (h : History) : List (List Batch × Bool) := h.effects.filterMap Effect.reply?

def delivered (h : History) : List Batch := (h.replies.filter Prod.snd).flatMap Prod.fst

def abandoned (h : History) : List Batch := h.effects.filterMap Effect.abandoned?

def posted (h : History) : List (List Batch) := h.effects.filterMap Effect.posts?

def signals (h : History) : Nat := h.countP fun x => x.event matches .signal

@[simp] theorem effects_nil : effects [] = [] := rfl

@[simp] theorem effects_cons (x : Transition) (h : History) :
    effects (x :: h) = x.effects ++ effects h := rfl

@[simp] theorem effects_append (h k : History) :
    effects (h ++ k) = effects h ++ effects k := by simp [effects]

@[simp] theorem accepted_nil : accepted [] = [] := rfl

@[simp] theorem accepted_cons (x : Transition) (h : History) :
    accepted (x :: h) = x.effects.filterMap Effect.accepted? ++ accepted h := by simp [accepted]

@[simp] theorem replies_nil : replies [] = [] := rfl

@[simp] theorem replies_cons (x : Transition) (h : History) :
    replies (x :: h) = x.effects.filterMap Effect.reply? ++ replies h := by simp [replies]

@[simp] theorem abandoned_nil : abandoned [] = [] := rfl

@[simp] theorem abandoned_cons (x : Transition) (h : History) :
    abandoned (x :: h) = x.effects.filterMap Effect.abandoned? ++ abandoned h := by
  simp [abandoned]

@[simp] theorem accepted_append (h k : History) :
    accepted (h ++ k) = accepted h ++ accepted k := by simp [accepted]

theorem accepted_concat_eq_nil {h : History} {x : Transition} : accepted (h ++ [x]) = [] ↔
    accepted h = [] ∧ x.effects.filterMap Effect.accepted? = [] := by
  simp

@[simp] theorem replies_append (h k : History) :
    replies (h ++ k) = replies h ++ replies k := by simp [replies]

@[simp] theorem abandoned_append (h k : History) :
    abandoned (h ++ k) = abandoned h ++ abandoned k := by simp [abandoned]

@[simp] theorem posted_nil : posted [] = [] := rfl

@[simp] theorem posted_cons (x : Transition) (h : History) :
    posted (x :: h) = x.effects.filterMap Effect.posts? ++ posted h := by simp [posted]

@[simp] theorem posted_append (h k : History) :
    posted (h ++ k) = posted h ++ posted k := by simp [posted]

@[simp] theorem signals_append (h k : History) :
    signals (h ++ k) = signals h + signals k := by simp [signals]

theorem mem_accepted {x : Transition} {h : History} {b : Batch} (hx : x ∈ h)
    (hb : .accepted b ∈ x.effects) : b ∈ h.accepted :=
  List.mem_filterMap.mpr ⟨_, List.mem_flatMap.mpr ⟨x, hx, hb⟩, rfl⟩

theorem signals_of_signal {x : Transition} (h : x.event = .signal) : signals [x] = 1 := by
  simp [signals, h]

theorem signals_of_ne {x : Transition} (h : x.event ≠ .signal) : signals [x] = 0 := by
  unfold signals
  rw [List.countP_eq_zero]
  intro y hy
  cases List.mem_singleton.mp hy
  split <;> simp_all

end History

inductive Run (s : Scheduler) : History → Scheduler → Prop
  | nil : Run s [] s
  | step : Run s h t → t.step now e = some (u, effects) →
      Run s (h ++ [⟨t, now, e, effects, u⟩]) u

namespace Run

variable {h k : History} {s t u : Scheduler} {x : Transition}

theorem invariant {P : History → Scheduler → Prop} (run : Run s h t) (start : P [] s)
    (keep : ∀ {h t now e effects u}, Run s h t → P h t → Move now t e effects u →
      P (h ++ [⟨t, now, e, effects, u⟩]) u) : P h t := by
  induction run with
  | nil => exact start
  | step run made ih => exact keep run ih (move_of_step made)

theorem append (run : Run s h t) (rest : Run t k u) : Run s (h ++ k) u := by
  induction rest with
  | nil => simpa using run
  | step _ made ih => simpa using ih.step made

theorem cons {effects : List Effect} (made : s.step now e = some (t, effects)) (rest : Run t h u) :
    Run s (⟨s, now, e, effects, t⟩ :: h) u :=
  (Run.nil.step made).append rest

theorem split (run : Run s h u) (hx : x ∈ h) : ∃ h₁ h₂, h = h₁ ++ x :: h₂ ∧
    Run s h₁ x.source ∧ Move x.now x.source x.event x.effects x.target ∧ Run x.target h₂ u := by
  induction run with
  | nil => cases hx
  | @step h t now e u effects run made ih =>
    rcases List.mem_append.mp hx with hx | hx
    · obtain ⟨h₁, h₂, rfl, before, move, after⟩ := ih hx
      exact ⟨h₁, h₂ ++ [_], by simp, before, move, after.step made⟩
    · cases List.mem_singleton.mp hx
      exact ⟨h, [], by simp, run, move_of_step made, .nil⟩

theorem move (run : Run s h u) (hx : x ∈ h) : Move x.now x.source x.event x.effects x.target := by
  obtain ⟨_, _, -, -, move, -⟩ := run.split hx
  exact move

theorem since {P : Scheduler → Prop} (run : Run s h u) (hx : x ∈ h)
    (keep : ∀ {now s e effects t}, Move now s e effects t → P s → P t) (target : P x.target) :
    P u := by
  obtain ⟨_, _, -, -, -, after⟩ := run.split hx
  exact after.invariant (P := fun _ s => P s) target fun _ held move => keep move held

end Run

theorem Move.ending {now : Moment} {s t : Scheduler} {e : Event} {effects : List Effect}
    (move : Move now s e effects t) (running : s.ended = false) (halted : t.ended = true) :
    effects = [] ∧ t.queue = s.queue ∧
      ((s.phase = .checking ∧ s.mode = .draining ∧ s.queue.held = [] ∧
          t.phase = .stopped (.ok ())) ∨
        (e = .signal ∧ s.phase.listens ∧ s.mode = .draining ∧
          t.phase = .stopped (.error .forcedTermination)) ∨
        t.phase = .overflown) := by
  cases move with
  | finish phase draining empty =>
    exact ⟨rfl, rfl, .inl ⟨phase, draining, by simpa using empty, rfl⟩⟩
  | force listens listening draining => exact ⟨rfl, rfl, .inr (.inl ⟨rfl, listens, draining, rfl⟩)⟩
  | overflow => exact ⟨rfl, rfl, .inr (.inr rfl)⟩
  | _ => simp_all [ended]

theorem Move.refused {now : Moment} {s t : Scheduler} {e : Event} {effects : List Effect}
    (move : Move now s e effects t) (halted : s.ended = true) :
    (∃ b, effects = [.refused b]) ∧ e ≠ .signal ∧ t.phase = s.phase ∧ t.mode = s.mode ∧
      t.queue.held = s.queue.held := by
  cases move with
  | refuse => exact ⟨⟨_, rfl⟩, nofun, rfl, rfl, rfl⟩
  | bounce ended found => exact ⟨⟨_, rfl⟩, nofun, rfl, rfl, Queue.held_withdraw? found⟩
  | force listens | hangUp listens =>
    cases phase : s.phase <;> simp_all [ended, Phase.listens]
  | _ => simp_all [ended]

theorem Move.send {now : Moment} {s t : Scheduler} {e : Event} {effects : List Effect}
    (move : Move now s e effects t) (sends : e.isSend = true) : ∃ q, t = { s with queue := q } ∧
      ((∃ b, effects = [.accepted b] ∧ q.held ≠ []) ∨
        (effects.filterMap Effect.accepted? = [] ∧ q.held = s.queue.held)) := by
  cases move with
  | refuse => exact ⟨s.queue, rfl, .inr ⟨rfl, rfl⟩⟩
  | accept running free => exact ⟨_, rfl, .inl ⟨_, rfl, Queue.held_offer_ne_nil free⟩⟩
  | hold running full => exact ⟨_, rfl, .inr ⟨rfl, Queue.held_offer_of_full full⟩⟩
  | enter running found => exact ⟨_, rfl, .inl ⟨_, rfl, Queue.held_enter?_ne_nil found⟩⟩
  | bounce ended found | withdraw running found =>
    exact ⟨_, rfl, .inr ⟨rfl, Queue.held_withdraw? found⟩⟩
  | _ => simp [Event.isSend] at sends

namespace Run

variable {h : History} {s t : Scheduler}

theorem refused (run : Run s h t) (halted : s.ended = true) :
    t.phase = s.phase ∧ t.mode = s.mode ∧ t.queue.held = s.queue.held ∧
      (∀ f ∈ h.effects, ∃ b, f = .refused b) ∧ h.signals = 0 := by
  induction run with
  | nil => exact ⟨rfl, rfl, rfl, nofun, rfl⟩
  | @step h t now e u effects run made ih =>
    obtain ⟨phase, mode, held, silent, signals⟩ := ih
    have halted : t.ended = true := by simpa [ended, phase] using halted
    obtain ⟨⟨b, rfl⟩, other, phase', mode', held'⟩ := (move_of_step made).refused halted
    refine ⟨phase'.trans phase, mode'.trans mode, held'.trans held, ?_, ?_⟩
    · intro f hf
      rw [History.effects_append, List.mem_append] at hf
      rcases hf with hf | hf
      · exact silent f hf
      · exact ⟨b, by simpa using hf⟩
    · cases e <;> simp_all [History.signals]

theorem ending (run : Run s h t) (running : s.ended = false) (halted : t.ended = true) :
    ∃ h₁ x h₂, h = h₁ ++ x :: h₂ ∧ Run s h₁ x.source ∧
      Move x.now x.source x.event x.effects x.target ∧ x.source.ended = false ∧
      x.target.ended = true ∧ Run x.target h₂ t := by
  induction run with
  | nil => simp [running] at halted
  | @step h t now e u effects run made ih =>
    cases before : t.ended with
    | true =>
      obtain ⟨h₁, x, h₂, rfl, first, move, running, halted, rest⟩ := ih before
      exact ⟨h₁, x, h₂ ++ [_], by simp, first, move, running, halted, rest.step made⟩
    | false =>
      exact ⟨h, ⟨t, now, e, effects, u⟩, [], by simp, run, move_of_step made, before, halted, .nil⟩

/-- The move that ends a run and what comes after it change nothing but who is refused. -/
theorem closing (run : Run s h t) (running : s.ended = false) (halted : t.ended = true) :
    ∃ h₁ x h₂, h = h₁ ++ x :: h₂ ∧ Run s h₁ x.source ∧
      Move x.now x.source x.event x.effects x.target ∧ x.source.ended = false ∧
      x.target.ended = true ∧ x.target.phase = t.phase ∧ x.target.queue.held = t.queue.held ∧
      ∀ f ∈ History.effects (x :: h₂), ∃ b, f = .refused b := by
  obtain ⟨h₁, x, h₂, rfl, first, move, running, halted, rest⟩ := run.ending running halted
  obtain ⟨phase, -, held, silent, -⟩ := rest.refused halted
  refine ⟨h₁, x, h₂, rfl, first, move, running, halted, phase.symm, held.symm, fun f hf => ?_⟩
  rw [History.effects_cons, (move.ending running halted).1, List.nil_append] at hf
  exact silent f hf

end Run

def play (s : Scheduler) : List (Moment × Event) → Option (History × Scheduler)
  | [] => some ([], s)
  | (now, e) :: rest => do
    let (t, effects) ← s.step now e
    let (h, u) ← t.play rest
    return (⟨s, now, e, effects, t⟩ :: h, u)

theorem run_of_play {s : Scheduler} {script : List (Moment × Event)}
    (h : s.play script = some (past, t)) : Run s past t := by
  induction script generalizing s past with
  | nil => cases h; exact .nil
  | cons first rest ih =>
    simp only [play, Option.bind_eq_bind, Option.bind_eq_some_iff] at h
    obtain ⟨⟨u, effects⟩, made, ⟨past, v⟩, played, h⟩ := h
    cases h
    exact .cons made (ih played)

theorem Run.of_play (s : Scheduler) (script : List (Moment × Event))
    (see : History × Scheduler → α) (h : (s.play script).map see = some a) :
    ∃ past t, Run s past t ∧ see (past, t) = a := by
  obtain ⟨⟨past, t⟩, played, seen⟩ := Option.map_eq_some_iff.mp h
  exact ⟨past, t, run_of_play played, seen⟩

def trial : Scheduler :=
  .start ⟨.ofSeconds 30, .ofSeconds 60, 1, .ofSeconds 60⟩ (.ofSeconds 20)
    ⟨1, [], [], [], by decide, by decide⟩

def reading : Batch := .ofSamples [⟨"host", "value", 0, ⟨0⟩⟩]

def atOnce (es : List Event) : List (Moment × Event) := es.map (⟨0, .epoch⟩, ·)

end HostMonitor.Posting.Scheduler
