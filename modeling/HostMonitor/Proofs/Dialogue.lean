import HostMonitor.Dialogue

namespace HostMonitor.Dialogue

inductive Turn (Q : Type) (A : Q → Type) : Type
  | asked (q : Q) (a : A q)
  | rested (length : Span)

abbrev Log (Q : Type) (A : Q → Type) : Type := List (Turn Q A)

variable {Q : Type} {A : Q → Type} {α β σ : Type}

open Turn

/-- The program asks the questions of the log, in order, and given its answers ends with `x`. -/
inductive Leads : Dialogue Q A α → Log Q A → α → Prop
  | done : Leads (done x) [] x
  | ask {next : A q → Dialogue Q A α} :
      Leads (next a) log x → Leads (ask q next) (asked q a :: log) x
  | rest : Leads next log x → Leads (rest length next) (rested length :: log) x

/-- An environment that is in the state `s` at first and in the state `t` at last answers so, if it
answers each question as `answers` allows. -/
inductive Answered (answers : σ → (q : Q) → A q → σ → Prop) : σ → Log Q A → σ → Prop
  | nil : Answered answers s [] s
  | asked : answers s q a t → Answered answers t log u → Answered answers s (asked q a :: log) u
  | rested : Answered answers s log t → Answered answers s (rested length :: log) t

variable {d : Dialogue Q A α} {log : Log Q A} {q : Q} {x y : α} {z : β}

@[simp] theorem leads_done : (done x : Dialogue Q A α).Leads log y ↔ log = [] ∧ y = x := by
  constructor
  · intro leads
    cases leads
    exact ⟨rfl, rfl⟩
  · rintro ⟨rfl, rfl⟩
    exact .done

theorem leads_ask {next : A q → Dialogue Q A α} :
    (ask q next).Leads log x ↔ ∃ a rest, log = asked q a :: rest ∧ (next a).Leads rest x := by
  constructor
  · intro leads
    cases leads with
    | ask leads => exact ⟨_, _, rfl, leads⟩
  · rintro ⟨a, rest, rfl, leads⟩
    exact leads.ask

theorem leads_rest {length : Span} :
    (rest length d).Leads log x ↔ ∃ rest, log = rested length :: rest ∧ d.Leads rest x := by
  constructor
  · intro leads
    cases leads with
    | rest leads => exact ⟨_, rfl, leads⟩
  · rintro ⟨rest, rfl, leads⟩
    exact leads.rest

theorem Leads.unique {log' rest rest' : Log Q A} (leads : d.Leads log x) (leads' : d.Leads log' y)
    (same : log ++ rest = log' ++ rest') : log = log' ∧ x = y ∧ rest = rest' := by
  induction leads generalizing log' with
  | done =>
    obtain ⟨rfl, rfl⟩ := leads_done.mp leads'
    exact ⟨rfl, rfl, same⟩
  | ask _ ih =>
    cases leads' with
    | ask leads' =>
      rw [List.cons_append, List.cons_append, List.cons.injEq] at same
      obtain ⟨⟨⟩, same⟩ := same
      obtain ⟨rfl, rfl, rfl⟩ := ih leads' same
      exact ⟨rfl, rfl, rfl⟩
  | rest _ ih =>
    cases leads' with
    | rest leads' =>
      obtain ⟨rfl, rfl, rfl⟩ := ih leads' (List.cons.inj same).2
      exact ⟨rfl, rfl, rfl⟩

theorem leads_bind {f : α → Dialogue Q A β} : (d.bind f).Leads log z ↔
    ∃ x log₁ log₂, log = log₁ ++ log₂ ∧ d.Leads log₁ x ∧ (f x).Leads log₂ z := by
  induction d generalizing log with
  | done x =>
    constructor
    · intro leads
      exact ⟨x, [], log, rfl, .done, leads⟩
    · rintro ⟨_, _, _, rfl, first, second⟩
      obtain ⟨rfl, rfl⟩ := leads_done.mp first
      exact second
  | ask q next ih =>
    simp only [bind, leads_ask, ih]
    constructor
    · rintro ⟨a, _, rfl, x, log₁, log₂, rfl, first, second⟩
      exact ⟨x, asked q a :: log₁, log₂, rfl, ⟨a, log₁, rfl, first⟩, second⟩
    · rintro ⟨x, _, log₂, rfl, ⟨a, log₁, rfl, first⟩, second⟩
      exact ⟨a, log₁ ++ log₂, rfl, x, log₁, log₂, rfl, first, second⟩
  | rest length next ih =>
    simp only [bind, leads_rest, ih]
    constructor
    · rintro ⟨_, rfl, x, log₁, log₂, rfl, first, second⟩
      exact ⟨x, rested length :: log₁, log₂, rfl, ⟨log₁, rfl, first⟩, second⟩
    · rintro ⟨x, _, log₂, rfl, ⟨log₁, rfl, first⟩, second⟩
      exact ⟨log₁ ++ log₂, rfl, x, log₁, log₂, rfl, first, second⟩

theorem answered_append {answers : σ → (q : Q) → A q → σ → Prop} {log' : Log Q A} :
    Answered answers s (log ++ log') t ↔
      ∃ u, Answered answers s log u ∧ Answered answers u log' t := by
  induction log generalizing s with
  | nil =>
    constructor
    · exact fun answered => ⟨s, .nil, answered⟩
    · rintro ⟨u, none, answered⟩
      cases none
      exact answered
  | cons turn log ih =>
    constructor
    · intro answered
      cases answered with
      | asked answer rest =>
        obtain ⟨u, before, after⟩ := ih.mp rest
        exact ⟨u, .asked answer before, after⟩
      | rested rest =>
        obtain ⟨u, before, after⟩ := ih.mp rest
        exact ⟨u, .rested before, after⟩
    · rintro ⟨u, before, after⟩
      cases before with
      | asked answer rest => exact .asked answer (ih.mpr ⟨u, rest, after⟩)
      | rested rest => exact .rested (ih.mpr ⟨u, rest, after⟩)

end HostMonitor.Dialogue
