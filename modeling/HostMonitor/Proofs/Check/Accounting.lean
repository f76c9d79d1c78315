import HostMonitor.Proofs.Check.Rounds

namespace HostMonitor.Check

namespace Aggregator

def Phase.isLast : Phase → Bool
  | .waiting _ => false
  | .draining _ last | .delivering _ last | .returning _ last => last
  | .stopped => true

@[simp] theorem isLast_resume (a : Aggregator) (now : Nat) (last : Bool) :
    (a.resume now last).phase.isLast = last := by
  cases last <;> rfl

@[simp] theorem resume_ne_returning (a : Aggregator) (now : Nat) (last last' : Bool) :
    (a.resume now last).phase ≠ .returning rs last' := by
  cases last <;> nofun

variable {now : Moment} {a b : Aggregator} {e : Event} {effects : List Effect} {h : History}

theorem Run.answered (run : Run a h b) :
    a.phase.outstanding ++ h.attempts = h.replies.map Prod.fst ++ b.phase.outstanding := by
  apply run.keeps
  · simp
  · intro h now a e effects b answered move
    simp only [History.attempts_append, History.attempts_cons, History.attempts_nil,
      History.replies_append, History.replies_cons, History.replies_nil, List.append_nil,
      List.map_append, List.append_assoc]
    rw [← List.append_assoc, answered, List.append_assoc, move.answered]

theorem Move.filled (move : Move now a e effects b) :
    ∀ rs ∈ effects.filterMap Effect.delivers?, rs ≠ [] := by
  cases move with
  | deliver phase intake some => simpa [Effect.delivers?] using some
  | _ => simp [Effect.delivers?]

theorem Run.filled (run : Run a h b) : ∀ rs ∈ h.attempts, rs ≠ [] := by
  refine run.keeps (P := fun h _ => ∀ rs ∈ h.attempts, rs ≠ []) (by simp) ?_
  intro h now a e effects b filled move rs hrs
  simp only [History.attempts_append, History.attempts_cons, History.attempts_nil, List.append_nil,
    List.mem_append] at hrs
  rcases hrs with hrs | hrs
  · exact filled rs hrs
  · exact move.filled rs hrs

theorem Move.in_order (move : Move now a e effects b)
    (none : ∀ rest last, a.phase ≠ .returning rest last)
    (succeeded : ∀ c ∈ effects.filterMap Effect.reply?, c.2 = true) :
    a.phase.hand ++ a.intake ++ effects.filterMap Effect.accepted? =
        ((effects.filterMap Effect.reply?).filter Prod.snd).flatMap Prod.fst ++
          (b.phase.hand ++ b.intake) ∧
      ∀ rest last, b.phase ≠ .returning rest last := by
  cases move with
  | refuse | escalate => exact ⟨List.append_nil _, none⟩
  | accept => exact ⟨List.append_assoc _ _ _, none⟩
  | elapse phase | wake phase | signal phase | deliver phase =>
    rw [phase]
    exact ⟨List.append_nil _, nofun⟩
  | drain phase intake =>
    rw [phase, intake]
    exact ⟨by simp [Phase.hand], nofun⟩
  | findNothing phase intake =>
    rw [phase, hand_resume, intake_resume, intake]
    exact ⟨rfl, fun _ _ => resume_ne_returning _ _ _ _⟩
  | succeed phase =>
    rw [phase, hand_resume, intake_resume]
    exact ⟨by simp [Phase.hand, Effect.reply?, List.filterMap_cons, Effect.accepted?],
      fun _ _ => resume_ne_returning _ _ _ _⟩
  | fail => simp [Effect.reply?] at succeeded
  | giveBack phase | goOn phase => exact absurd phase (none _ _)

theorem Run.in_order {ceiling began : Nat} (run : Run (.start ceiling began) h a)
    (succeeded : ∀ c ∈ h.replies, c.2 = true) :
    h.accepted = h.delivered ++ (a.phase.hand ++ a.intake) ∧
      ∀ rest last, a.phase ≠ .returning rest last := by
  revert succeeded
  refine run.keeps (P := fun h a => (∀ c ∈ h.replies, c.2 = true) →
    h.accepted = h.delivered ++ (a.phase.hand ++ a.intake) ∧
      ∀ rest last, a.phase ≠ .returning rest last) ?_ ?_
  · exact fun _ => ⟨rfl, nofun⟩
  · intro h now a e effects b ih move succeeded
    obtain ⟨all, none⟩ := ih fun c hc => succeeded c (by simp [hc])
    obtain ⟨step, none⟩ := move.in_order none fun c hc => succeeded c (by simp [hc])
    refine ⟨?_, none⟩
    rw [History.accepted_append, all, List.append_assoc, History.accepted_cons,
      History.accepted_nil, List.append_nil, step, History.delivered_append, History.delivered,
      History.delivered, History.replies_cons, History.replies_nil, List.append_nil,
      List.append_assoc]

theorem Move.isLast (move : Move now a e effects b) :
    b.phase.isLast = true ↔ a.phase.isLast = true ∨ e = .signal := by
  cases move with
  | refuse | accept | escalate => simp
  | findNothing phase | succeed phase | goOn phase => rw [isLast_resume, phase]; simp [Phase.isLast]
  | elapse phase | wake phase | signal phase | drain phase | deliver phase | fail phase
  | giveBack phase => simp [phase, Phase.isLast]

theorem Run.isLast {ceiling began : Nat} (run : Run (.start ceiling began) h a) :
    a.phase.isLast = true ↔ ∃ x ∈ h, x.event = .signal := by
  refine run.keeps (P := fun h a => a.phase.isLast = true ↔ ∃ x ∈ h, x.event = .signal) ?_ ?_
  · simp [start, Phase.isLast]
  · intro h now a e effects b ih move
    rw [move.isLast, ih]
    simp [or_and_right, exists_or]

theorem Move.stopped (move : Move now a e effects b) (phase : a.phase = .stopped) :
    b.phase = .stopped := by
  cases move with
  | refuse | accept | escalate => exact phase
  | elapse phase' | wake phase' | signal phase' | drain phase' | findNothing phase'
  | deliver phase' | succeed phase' | fail phase' | giveBack phase' | goOn phase' =>
    simp [phase] at phase'

theorem Run.stopped (run : Run a h b) (phase : a.phase = .stopped) : b.phase = .stopped :=
  run.keeps (P := fun _ b => b.phase = .stopped) phase fun stopped move => move.stopped stopped

end Aggregator

open Aggregator (Event Effect Transition History Move Run move_of_step)

theorem Ledger.Fits.conserved {h : History} {a : Aggregator} (fits : (Ledger.of h).Fits h a) :
    h.accepted.Perm (h.delivered ++ a.phase.hand ++ a.intake) := by
  rw [← fits.accepted, ← fits.delivered, ← fits.hand, ← fits.intake, ← Slip.reports_append,
    ← Slip.reports_append]
  exact (Ledger.balanced_of h).placed.map _

/-- What follows on a termination signal, with `due` in the intake. Those are all reports that are
accepted and not delivered. There is one more round, which has them all in its call, if it finds any
report; no other wake comes, and it ends by itself, whatever the service replies. -/
structure Flushed (before : History) (due : List Report) (after : History) (a : Aggregator) :
    Prop where
  complete : before.accepted.Perm (before.delivered ++ due)
  round : LastRound due after a
  alone : ∀ x ∈ after, x.event ≠ .elapse ∧ x.event ≠ .wake ∧ x.event ≠ .signal
  ends : ∀ now answer, Finishes now answer a

/-- Where the reports of a run are. The accepted ones are those delivered, in hand and in the
intake. The ledger, which numbers them, has each in one place and in no second one, so that none is
in two successful calls. No call is empty; the reports of a failed one come back, and without a
failed one none overtakes another. After a signal comes one last round, and after it a report that
is forwarded is refused. -/
structure Accounted (h : History) (a : Aggregator) : Prop where
  conserved : h.accepted.Perm (h.delivered ++ a.phase.hand ++ a.intake)
  numbered : (Ledger.of h).accepted.map Slip.number = List.range (Ledger.of h).accepted.length
  placed : (Ledger.of h).accepted.Perm (Ledger.of h).places
  once : ((Ledger.of h).places.map Slip.number).Nodup
  fits : (Ledger.of h).Fits h a
  answered : h.attempts = h.replies.map Prod.fst ++ a.phase.outstanding
  filled : ∀ rs ∈ h.attempts, rs ≠ []
  returned : ∀ h₁ x h₂, h = h₁ ++ x :: h₂ → ∀ rs, x.effects = [.failed rs] →
    PutBack x.source.intake rs h₂ a
  givesBack : ∀ {rest last}, a.phase = .returning rest last → ∀ now, ∃ k b, Run a k b ∧
    (∀ x ∈ k, x.now = now ∧ x.event = .giveBack) ∧ b.intake = a.intake ++ rest ∧
    b.phase = if last then .stopped else .waiting (now.uptime + a.ceiling)
  ordered : (∀ c ∈ h.replies, c.2 = true) → h.accepted = h.delivered ++ (a.phase.hand ++ a.intake)
  forwarded : ∀ x ∈ h, ∀ r, x.event = .forward r →
    x.effects = if x.source.phase = .stopped then [.refused r] else [.accepted r]
  flushed : ∀ h₁ x h₂, h = h₁ ++ x :: h₂ → x.event = .signal →
    Flushed h₁ x.source.intake h₂ a
  signalled : a.phase = .stopped → ∃ x ∈ h, x.event = .signal
  final : ∀ x ∈ h, x.source.phase = .stopped → a.phase = .stopped

section

variable {ceiling began : Nat} {h h₁ h₂ : History} {x : Transition} {a : Aggregator}

theorem returned_of_run (run : Run (.start ceiling began) (h₁ ++ x :: h₂) a)
    (failed : x.effects = [.failed rs]) : PutBack x.source.intake rs h₂ a := by
  obtain ⟨-, made, after⟩ := run.parts
  have move := move_of_step made
  generalize x.event = e, x.target = b, x.effects = effects at move after failed
  cases move with
  | fail phase =>
    cases failed
    have back := putBack_of_run rfl after
    exact back
  | _ => simp at failed

theorem flushed_of_run (run : Run (.start ceiling began) (h₁ ++ x :: h₂) a)
    (signal : x.event = .signal) : Flushed h₁ x.source.intake h₂ a := by
  obtain ⟨before, made, after⟩ := run.parts
  have move := move_of_step made
  have conserved := (Ledger.fits_of_run before).conserved
  generalize x.event = e, x.target = b, x.effects = effects at move after signal
  subst signal
  cases move with
  | signal phase =>
    obtain ⟨round, alone⟩ := lastRound_of_run rfl after
    simp only [phase, Aggregator.Phase.hand, List.append_nil] at conserved
    exact ⟨conserved, round, alone, fun _ _ => .of_lastRound round⟩

end

theorem check_reports_accounted {runners : List Runner} {ceiling began : Nat} {h : Watch.History}
    {w : Watch} (run : Watch.Run ⟨runners, .start ceiling began⟩ h w) :
    Accounted h.ofAggregator w.aggregator := by
  have run := run.ofAggregator
  have balanced := Ledger.balanced_of h.ofAggregator
  have fits := Ledger.fits_of_run run
  constructor
  case conserved => exact fits.conserved
  case numbered => exact balanced.numbered
  case placed => exact balanced.placed
  case once => exact balanced.nodup
  case fits => exact fits
  case answered => exact run.answered
  case filled => exact run.filled
  case returned =>
    intro h₁ x h₂ split rs failed
    rw [split] at run
    exact returned_of_run run failed
  case givesBack => exact fun phase now => gives_back now phase
  case ordered => exact fun succeeded => (run.in_order succeeded).1
  case forwarded =>
    intro x hx r forward
    have move := move_of_step (run.made hx)
    generalize x.event = e, x.target = b, x.effects = effects at move forward
    subst forward
    cases move with
    | refuse stopped => rw [if_pos stopped]
    | accept running => rw [if_neg running]
  case flushed =>
    intro h₁ x h₂ split signal
    rw [split] at run
    exact flushed_of_run run signal
  case signalled =>
    intro stopped
    exact run.isLast.mp (by rw [stopped]; rfl)
  case final =>
    intro x hx stopped
    obtain ⟨h₁, h₂, split⟩ := List.append_of_mem hx
    rw [split] at run
    obtain ⟨-, made, after⟩ := run.parts
    exact Run.stopped after ((move_of_step made).stopped stopped)

theorem check_reports_of_a_trial_accounted : ∃ h w, Watch.Run Watch.trial h w ∧
    w.aggregator.phase = .stopped ∧ h.ofAggregator.accepted = [Watch.disk, Watch.load] ∧
    h.ofAggregator.delivered = [Watch.load, Watch.disk] ∧
    Accounted h.ofAggregator w.aggregator := by
  obtain ⟨h, w, run, seen⟩ := Watch.Run.of_play Watch.trial (Watch.atOnce [
    .runner 0 .tick, .runner 0 (.result (some Watch.disk)), .forward 0, .escalate 0,
    .aggregator .wake, .aggregator .drain, .runner 1 .tick,
    .runner 1 (.result (some Watch.load)), .aggregator .drain, .forward 1, .escalate 1,
    .aggregator (.reply false), .aggregator .giveBack, .aggregator .giveBack, .aggregator .signal,
    .aggregator .drain, .aggregator .drain, .aggregator .drain, .aggregator (.reply true)])
    (fun r => (r.2.aggregator.phase, r.1.ofAggregator.accepted, r.1.ofAggregator.delivered)) rfl
  simp only [Prod.mk.injEq] at seen
  exact ⟨h, w, run, seen.1, seen.2.1, seen.2.2, check_reports_accounted run⟩

end HostMonitor.Check
