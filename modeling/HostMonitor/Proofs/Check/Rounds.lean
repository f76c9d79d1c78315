import HostMonitor.Proofs.Check.Ledger

namespace HostMonitor.Check

open Aggregator (Event Effect Transition History Move Run step_of_move)

/-- The third list has the elements of the first two, each in their order. It grows at its end, as a
queue does. -/
inductive Interleaved {α : Type} : List α → List α → List α → Prop
  | nil : Interleaved [] [] []
  | left : Interleaved xs ys zs → Interleaved (xs ++ [x]) ys (zs ++ [x])
  | right : Interleaved xs ys zs → Interleaved xs (ys ++ [y]) (zs ++ [y])

inductive PutBack (queued rs : List Report) (h : History) (a : Aggregator) : Prop
  | underway (back rest mixed : List Report) : rs = back ++ rest → a.phase = .returning rest last →
      a.intake = queued ++ mixed → Interleaved back h.accepted mixed → PutBack queued rs h a
  | done (h₁ h₂ : History) (x : Transition) (mixed : List Report) : h = h₁ ++ x :: h₂ →
      x.event = .giveBack → x.source.phase = .returning [] last →
      x.source.intake = queued ++ mixed → Interleaved rs h₁.accepted mixed → PutBack queued rs h a

/-- What has become of the last round, if `due` was in the intake when it began. -/
inductive LastRound (due : List Report) (h : History) (a : Aggregator) : Prop
  | draining (got : List Report) : a.phase = .draining got true → h.attempts = [] →
      got ++ a.intake = due ++ h.accepted → LastRound due h a
  | nothing : a.phase = .stopped → h.attempts = [] → due = [] → h.accepted = [] → LastRound due h a
  | attempted (late : List Report) : (a.phase = .delivering (due ++ late) true ∨
        (∃ rest, a.phase = .returning rest true) ∨ a.phase = .stopped) →
      h.attempts = [due ++ late] → late <+: h.accepted → LastRound due h a

def Finishes (now : Moment) (answer : Bool) (a : Aggregator) : Prop :=
  ∃ h b, Run a h b ∧ b.phase = .stopped ∧
    ∀ x ∈ h, x.now = now ∧ (x.event = .drain ∨ x.event = .giveBack ∨ x.event = .reply answer)

variable {queued rs due : List Report} {h : History} {a b : Aggregator} {now : Moment} {e : Event}
  {effects : List Effect} {answer : Bool}

theorem PutBack.move (back : PutBack queued rs h a) (move : Move now a e effects b) :
    PutBack queued rs (h ++ [⟨a, now, e, effects, b⟩]) b := by
  cases back with
  | done h₁ h₂ x mixed split event phase intake merged =>
    exact .done h₁ (h₂ ++ [⟨a, now, e, effects, b⟩]) x mixed (by simp [split]) event phase intake
      merged
  | underway back rest mixed split phase intake merged =>
    cases move with
    | refuse stopped => simp [phase] at stopped
    -- Reports may be forwarded between those that are put back.
    | @accept r =>
      refine .underway back rest (mixed ++ [r]) split phase ?_ ?_
      · rw [intake, List.append_assoc]
      · simpa [Effect.accepted?] using merged.right
    | escalate => exact .underway back rest mixed split phase intake (by simpa using merged)
    | @giveBack r rest' _ phase' =>
      rw [phase] at phase'
      cases phase'
      refine .underway (back ++ [r]) rest' (mixed ++ [r]) (by simp [split]) rfl ?_ ?_
      · rw [intake, List.append_assoc]
      · simpa using merged.left
    | goOn phase' =>
      rw [phase] at phase'
      cases phase'
      exact .done h [] _ mixed rfl rfl phase intake (by simpa [split] using merged)
    | elapse phase' | wake phase' | signal phase' | drain phase' | findNothing phase'
    | deliver phase' | succeed phase' | fail phase' => simp [phase] at phase'

theorem putBack_of_run (phase : a.phase = .returning rs last) (run : Run a h b) :
    PutBack a.intake rs h b := by
  apply run.keeps
  · exact .underway [] rs [] rfl phase (List.append_nil _).symm .nil
  · exact fun back move => back.move move

theorem gives_back (now : Moment) (phase : a.phase = .returning rest last) :
    ∃ h b, Run a h b ∧ (∀ x ∈ h, x.now = now ∧ x.event = .giveBack) ∧
      b.intake = a.intake ++ rest ∧
      b.phase = if last then .stopped else .waiting (now.uptime + a.ceiling) := by
  induction rest generalizing a with
  | nil =>
    have move : Move now a .giveBack [] _ := .goOn phase
    exact ⟨_, _, .single (step_of_move move), by simp, by simp, rfl⟩
  | cons r rest ih =>
    have move : Move now a .giveBack [] _ := .giveBack phase
    obtain ⟨h, b, run, alone, intake, resumed⟩ := ih (a := { a with
      intake := a.intake ++ [r], phase := .returning rest last }) rfl
    refine ⟨_, b, run.cons (step_of_move move), ?_, ?_, resumed⟩
    · simpa using alone
    · rw [intake, List.append_assoc, List.singleton_append]

theorem Aggregator.Move.attempted (move : Move now a e effects b) (phase : a.phase = .delivering rs true ∨
      (∃ rest, a.phase = .returning rest true) ∨ a.phase = .stopped) :
    effects.filterMap Effect.delivers? = [] ∧ (b.phase = .delivering rs true ∨
      (∃ rest, b.phase = .returning rest true) ∨ b.phase = .stopped) := by
  cases move with
  | refuse | accept | escalate => exact ⟨rfl, phase⟩
  | succeed phase' =>
    rcases phase with phase | ⟨rest, phase⟩ | phase
    · cases phase.symm.trans phase'
      exact ⟨rfl, .inr (.inr rfl)⟩
    · simp [phase] at phase'
    · simp [phase] at phase'
  | fail phase' =>
    rcases phase with phase | ⟨rest, phase⟩ | phase
    · cases phase.symm.trans phase'
      exact ⟨rfl, .inr (.inl ⟨_, rfl⟩)⟩
    · simp [phase] at phase'
    · simp [phase] at phase'
  | giveBack phase' =>
    rcases phase with phase | ⟨rest, phase⟩ | phase
    · simp [phase] at phase'
    · cases phase.symm.trans phase'
      exact ⟨rfl, .inr (.inl ⟨_, rfl⟩)⟩
    · simp [phase] at phase'
  | goOn phase' =>
    rcases phase with phase | ⟨rest, phase⟩ | phase
    · simp [phase] at phase'
    · cases phase.symm.trans phase'
      exact ⟨rfl, .inr (.inr rfl)⟩
    · simp [phase] at phase'
  | elapse phase' | wake phase' | signal phase' | drain phase' | findNothing phase'
  | deliver phase' => rcases phase with phase | ⟨rest, phase⟩ | phase <;> simp [phase] at phase'

namespace LastRound

theorem ne_waiting (round : LastRound due h a) : a.phase ≠ .waiting t := by
  cases round with
  | draining got phase | nothing phase => simp [phase]
  | attempted late phase =>
    rcases phase with phase | ⟨rest, phase⟩ | phase <;> simp [phase]

theorem no_wake (round : LastRound due h a) (move : Move now a e effects b) :
    e ≠ .elapse ∧ e ≠ .wake ∧ e ≠ .signal := by
  cases move with
  | elapse phase | wake phase | signal phase => exact absurd phase round.ne_waiting
  | _ => exact ⟨nofun, nofun, nofun⟩

theorem move (round : LastRound due h a) (move : Move now a e effects b) :
    LastRound due (h ++ [⟨a, now, e, effects, b⟩]) b := by
  cases round with
  | draining got phase none all =>
    cases move with
    | refuse stopped => simp [phase] at stopped
    | accept =>
      refine .draining got phase (by simp [none, Effect.delivers?]) ?_
      simp [← all, Effect.accepted?, ← List.append_assoc]
    | escalate => exact .draining got phase (by simp [none]) (by simpa using all)
    | drain phase' intake =>
      rw [phase] at phase'
      cases phase'
      refine .draining _ rfl (by simp [none]) ?_
      simpa [intake] using all
    | findNothing phase' intake =>
      rw [phase] at phase'
      cases phase'
      rw [intake, List.append_nil, eq_comm, List.append_eq_nil_iff] at all
      exact .nothing rfl (by simp [none]) all.1 (by simp [all.2])
    | deliver phase' intake =>
      rw [phase] at phase'
      cases phase'
      rw [intake, List.append_nil] at all
      refine .attempted h.accepted (.inl (by rw [all])) ?_ ?_
      · simp [none, Effect.delivers?, all]
      · simp
    | elapse phase' | wake phase' | signal phase' | succeed phase' | fail phase' | giveBack phase'
    | goOn phase' => simp [phase] at phase'
  | nothing phase none empty quiet =>
    cases move with
    | refuse stopped =>
      exact .nothing phase (by simp [none, Effect.delivers?]) empty
        (by simp [quiet, Effect.accepted?])
    | escalate => exact .nothing phase (by simp [none]) empty (by simp [quiet])
    | accept running => exact absurd phase running
    | elapse phase' | wake phase' | signal phase' | drain phase' | findNothing phase'
    | deliver phase' | succeed phase' | fail phase' | giveBack phase' | goOn phase' =>
      simp [phase] at phase'
  | attempted late phase one early =>
    have later : late <+: History.accepted (h ++ [⟨a, now, e, effects, b⟩]) := by
      rw [History.accepted_append]
      exact early.trans (List.prefix_append _ _)
    obtain ⟨silent, phase⟩ := move.attempted phase
    exact .attempted late phase (by simp [one, silent]) later

end LastRound

theorem lastRound_of_run (phase : a.phase = .draining [] true) (run : Run a h b) :
    LastRound a.intake h b ∧ ∀ x ∈ h, x.event ≠ .elapse ∧ x.event ≠ .wake ∧ x.event ≠ .signal := by
  refine run.keeps (P := fun h b => LastRound a.intake h b ∧
    ∀ x ∈ h, x.event ≠ .elapse ∧ x.event ≠ .wake ∧ x.event ≠ .signal) ?_ ?_
  · exact ⟨.draining [] phase rfl (by simp), by simp⟩
  · rintro h now a e effects b ⟨round, alone⟩ move
    refine ⟨round.move move, fun x hx => ?_⟩
    rcases List.mem_append.mp hx with hx | hx
    · exact alone x hx
    · cases List.mem_singleton.mp hx
      exact round.no_wake move

namespace Finishes

theorem of_stopped (phase : a.phase = .stopped) : Finishes now answer a :=
  ⟨[], a, .nil, phase, by simp⟩

theorem of_move (move : Move now a e effects b)
    (own : e = .drain ∨ e = .giveBack ∨ e = .reply answer) (rest : Finishes now answer b) :
    Finishes now answer a := by
  obtain ⟨h, c, run, stopped, alone⟩ := rest
  refine ⟨_ :: h, c, .cons (step_of_move move) run, stopped, fun x hx => ?_⟩
  rcases List.mem_cons.mp hx with rfl | hx
  · exact ⟨rfl, own⟩
  · exact alone x hx

theorem of_returning (phase : a.phase = .returning rest true) : Finishes now answer a := by
  induction rest generalizing a with
  | nil => exact .of_move (.goOn phase) (.inr (.inl rfl)) (.of_stopped rfl)
  | cons r rest ih => exact .of_move (.giveBack phase) (.inr (.inl rfl)) (ih rfl)

theorem of_delivering (phase : a.phase = .delivering rs true) : Finishes now answer a := by
  cases answer with
  | true => exact .of_move (.succeed phase) (.inr (.inr rfl)) (.of_stopped rfl)
  | false => exact .of_move (.fail phase) (.inr (.inr rfl)) (.of_returning rfl)

theorem of_draining (phase : a.phase = .draining got true) : Finishes now answer a := by
  generalize intake : a.intake = queued
  induction queued generalizing a got with
  | cons r rs ih => exact .of_move (.drain phase intake) (.inl rfl) (ih rfl rfl)
  | nil =>
    by_cases none : got = []
    · subst none
      exact .of_move (.findNothing phase intake) (.inl rfl) (.of_stopped rfl)
    · exact .of_move (.deliver phase intake none) (.inl rfl) (.of_delivering rfl)

theorem of_lastRound (round : LastRound due h a) : Finishes now answer a := by
  cases round with
  | draining got phase => exact .of_draining phase
  | nothing phase => exact .of_stopped phase
  | attempted late phase =>
    rcases phase with phase | ⟨rest, phase⟩ | phase
    · exact .of_delivering phase
    · exact .of_returning phase
    · exact .of_stopped phase

end Finishes

end HostMonitor.Check
