import HostMonitor.Time.Moment

namespace HostMonitor.Machine

variable {σ ε φ : Type}

structure Transition (σ ε φ : Type) : Type where
  source : σ
  now : Moment
  event : ε
  effects : List φ
  target : σ

abbrev History (σ ε φ : Type) : Type := List (Transition σ ε φ)

def History.effects (h : History σ ε φ) : List φ := h.flatMap Transition.effects

@[simp] theorem History.effects_nil : effects ([] : History σ ε φ) = [] := rfl

@[simp] theorem History.effects_cons (x : Transition σ ε φ) (h : History σ ε φ) :
    effects (x :: h) = x.effects ++ effects h := rfl

@[simp] theorem History.effects_append (h k : History σ ε φ) :
    effects (h ++ k) = effects h ++ effects k := by simp [effects]

/-- From the state `s`, the steps of the history lead to the state `t`. -/
inductive Run (step : Moment → σ → ε → Option (σ × List φ)) (s : σ) : History σ ε φ → σ → Prop
  | nil : Run step s [] s
  | step : Run step s h t → step now t e = some (u, effects) →
      Run step s (h ++ [⟨t, now, e, effects, u⟩]) u

def Transition.Made (step : Moment → σ → ε → Option (σ × List φ)) (x : Transition σ ε φ) : Prop :=
  step x.now x.source x.event = some (x.target, x.effects)

variable {step : Moment → σ → ε → Option (σ × List φ)} {s t u : σ} {h k : History σ ε φ}
  {x : Transition σ ε φ}

namespace Run

theorem single {effects : List φ} (made : step now s e = some (t, effects)) :
    Run step s [⟨s, now, e, effects, t⟩] t :=
  Run.nil.step made

theorem invariant {P : History σ ε φ → σ → Prop} (run : Run step s h t) (start : P [] s)
    (keep : ∀ {h t now e effects u}, Run step s h t → P h t → step now t e = some (u, effects) →
      P (h ++ [⟨t, now, e, effects, u⟩]) u) : P h t := by
  induction run with
  | nil => exact start
  | step run made ih => exact keep run ih made

theorem append (run : Run step s h t) (rest : Run step t k u) : Run step s (h ++ k) u := by
  induction rest with
  | nil => simpa using run
  | step _ made ih => simpa using ih.step made

theorem cons {effects : List φ} (made : step now s e = some (t, effects))
    (rest : Run step t h u) : Run step s (⟨s, now, e, effects, t⟩ :: h) u :=
  (single made).append rest

theorem parts (run : Run step s (h ++ x :: k) u) :
    Run step s h x.source ∧ x.Made step ∧ Run step x.target k u := by
  generalize whole : h ++ x :: k = l at run
  induction run generalizing k with
  | nil => simp at whole
  | @step l t now e u effects run made ih =>
    rcases List.eq_nil_or_concat k with rfl | ⟨k, y, rfl⟩
    · obtain ⟨rfl, last⟩ := List.append_inj' whole rfl
      cases last
      exact ⟨run, made, .nil⟩
    · rw [List.concat_eq_append, ← List.cons_append, ← List.append_assoc] at whole
      obtain ⟨init, last⟩ := List.append_inj' whole rfl
      cases last
      obtain ⟨before, first, after⟩ := ih init
      rw [List.concat_eq_append]
      exact ⟨before, first, after.step made⟩

theorem made (run : Run step s h u) (hx : x ∈ h) : x.Made step := by
  obtain ⟨_, _, rfl⟩ := List.append_of_mem hx
  exact run.parts.2.1

/-- A part of a machine makes a run of its own, if each step of the machine gives one of the part.
-/
theorem project {τ ε' φ' : Type} {step' : Moment → τ → ε' → Option (τ × List φ')} (part : σ → τ)
    (see : Transition σ ε φ → History τ ε' φ')
    (steps : ∀ x : Transition σ ε φ, x.Made step → Run step' (part x.source) (see x) (part x.target))
    (run : Run step s h t) : Run step' (part s) (h.flatMap see) (part t) := by
  induction run with
  | nil => exact .nil
  | @step h t now e u effects _ made ih =>
    rw [List.flatMap_append, List.flatMap_singleton]
    exact ih.append (steps ⟨t, now, e, effects, u⟩ made)

end Run

def play (step : Moment → σ → ε → Option (σ × List φ)) (s : σ) :
    List (Moment × ε) → Option (History σ ε φ × σ)
  | [] => some ([], s)
  | (now, e) :: rest => do
    let (t, effects) ← step now s e
    let (h, u) ← play step t rest
    return (⟨s, now, e, effects, t⟩ :: h, u)

theorem run_of_play {script : List (Moment × ε)} (h : play step s script = some (past, t)) :
    Run step s past t := by
  induction script generalizing s past with
  | nil => cases h; exact .nil
  | cons first rest ih =>
    simp only [play, Option.bind_eq_bind, Option.bind_eq_some_iff] at h
    obtain ⟨⟨u, effects⟩, made, ⟨past, v⟩, played, h⟩ := h
    cases h
    exact .cons made (ih played)

theorem Run.of_play (step : Moment → σ → ε → Option (σ × List φ)) (s : σ)
    (script : List (Moment × ε)) (see : History σ ε φ × σ → α)
    (h : (play step s script).map see = some a) :
    ∃ past t, Run step s past t ∧ see (past, t) = a := by
  obtain ⟨⟨past, t⟩, played, seen⟩ := Option.map_eq_some_iff.mp h
  exact ⟨past, t, run_of_play played, seen⟩

end HostMonitor.Machine
