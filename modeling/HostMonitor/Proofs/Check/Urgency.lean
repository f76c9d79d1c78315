import HostMonitor.Proofs.Check.Ledger

/-!
No escalation is lost. Escalations that come while one is pending are one with it, and they may come
at any step of the aggregator; a report that has been escalated for and not been in a call yet never
has to wait for the ceiling.
-/

namespace HostMonitor.Check

open Aggregator (Move move_of_step)

namespace Watch

def History.deeds (h : History) : List (Event × List Aggregator.Effect) :=
  h.map fun x => (x.event, x.effects)

@[simp] theorem History.deeds_append (h : History) (x : Transition) :
    deeds (h ++ [x]) = deeds h ++ [(x.event, x.effects)] := by simp [deeds]

def acceptedIn (ds : List (Event × List Aggregator.Effect)) : List Report :=
  (ds.flatMap Prod.snd).filterMap Aggregator.Effect.accepted?

theorem acceptedIn_append (ds ds' : List (Event × List Aggregator.Effect)) :
    acceptedIn (ds ++ ds') = acceptedIn ds ++ acceptedIn ds' := by simp [acceptedIn]

theorem acceptedIn_cons (d : Event × List Aggregator.Effect)
    (ds : List (Event × List Aggregator.Effect)) :
    acceptedIn (d :: ds) = d.2.filterMap Aggregator.Effect.accepted? ++ acceptedIn ds := by
  simp [acceptedIn]

/-- A runner forwarded the report with the number `n`, and then escalated for it. -/
def Escalated (h : History) (n : Nat) : Prop :=
  ∃ ds i r ds' ds'', h.deeds = ds ++ (.forward i, [.accepted r]) :: ds' ++ (.escalate i, []) :: ds'' ∧
    (acceptedIn ds).length = n ∧ ∀ d ∈ ds', d.1 ≠ .forward i

variable {h : History} {x : Transition} {w v : Watch} {now : Moment} {e : Event}
  {effects : List Aggregator.Effect} {n : Nat}

theorem Escalated.of_append (escalated : Escalated (h ++ [x]) n) :
    Escalated h n ∨ ∃ i, x.event = .escalate i ∧ x.effects = [] := by
  obtain ⟨ds, i, r, ds', ds'', split, number, same⟩ := escalated
  rw [History.deeds_append] at split
  rcases List.eq_nil_or_concat ds'' with rfl | ⟨ds'', d, rfl⟩
  · obtain ⟨-, last⟩ := List.append_inj' split rfl
    simp only [List.cons.injEq, Prod.mk.injEq, and_true] at last
    exact .inr ⟨i, last⟩
  · rw [List.concat_eq_append, ← List.cons_append, ← List.append_assoc] at split
    obtain ⟨split, -⟩ := List.append_inj' split rfl
    exact .inl ⟨ds, i, r, ds', ds'', split, number, same⟩

theorem Escalated.lt (escalated : Escalated h n) : n < (acceptedIn h.deeds).length := by
  obtain ⟨ds, i, r, ds', ds'', split, number, -⟩ := escalated
  rw [split, acceptedIn_append, acceptedIn_append, acceptedIn_cons]
  simp only [List.length_append, number, Aggregator.Effect.accepted?, List.filterMap_cons,
    List.length_cons]
  omega

theorem Run.acceptedIn_deeds (run : Run w h v) : h.ofAggregator.accepted = acceptedIn h.deeds := by
  induction run with
  | nil => rfl
  | @step h t now e u effects _ made ih =>
    rw [History.ofAggregator_append, Aggregator.History.accepted_append, ih, History.deeds_append,
      acceptedIn_append]
    rcases (move_of_step made).ofAggregator with ⟨silent, -, rfl⟩ | ⟨f, heard, -⟩
    · simp [Transition.ofAggregator, silent, acceptedIn]
    · simp [Transition.ofAggregator, heard, acceptedIn]

end Watch

namespace Ledger

variable {l : Ledger} {h : Aggregator.History} {a b : Aggregator} {now : Moment}
  {e : Aggregator.Event} {effects : List Aggregator.Effect} {s : Slip}

def Tried (l : Ledger) (a : Aggregator) : Prop :=
  ∀ s ∈ l.hand, (∃ got last, a.phase = .draining got last) ∨ ∃ attempt ∈ l.attempts, s ∈ attempt

theorem attempts_note (l : Ledger) (e : Aggregator.Event) (effects : List Aggregator.Effect) :
    l.attempts ⊆ (l.note e effects).attempts := by
  unfold note
  split
  · exact List.Subset.refl _
  · unfold take; split <;> exact List.Subset.refl _
  · exact List.subset_append_left _ _
  · exact List.Subset.refl _
  · exact List.Subset.refl _
  · unfold giveBack; split <;> exact List.Subset.refl _
  · exact List.Subset.refl _

theorem Tried.in_attempt (tried : l.Tried a) (mem : s ∈ l.hand)
    (settled : ∀ got last, a.phase ≠ .draining got last) :
    ∃ attempt ∈ l.attempts, s ∈ attempt := by
  rcases tried s mem with ⟨got, last, draining⟩ | tried
  · exact absurd draining (settled got last)
  · exact tried

theorem Tried.move (tried : l.Tried a) (fits : l.Fits h a) (move : Move now a e effects b) :
    (l.note e effects).Tried b := by
  intro s hs
  cases move with
  | refuse | accept | escalate => exact tried s hs
  | elapse | wake | signal | drain => exact .inl ⟨_, _, rfl⟩
  | findNothing phase intake =>
    rw [note, take, fits.nothing intake, fits.empty_hand (by rw [phase]; rfl)] at hs
    cases hs
  | deliver => exact .inr ⟨l.hand, List.mem_append_right _ (List.mem_singleton.mpr rfl), hs⟩
  | succeed => cases hs
  | fail phase => exact .inr (tried.in_attempt hs (by simp [phase]))
  | giveBack phase =>
    obtain ⟨t, ts, next, -, -⟩ := fits.next phase
    simp only [note, Ledger.giveBack, next] at hs ⊢
    exact .inr (tried.in_attempt (by rw [next]; exact List.mem_cons_of_mem t hs) (by simp [phase]))
  | goOn phase =>
    simp [note, Ledger.giveBack, fits.empty_hand (by rw [phase]; rfl)] at hs

theorem tried_of_run {ceiling began : Nat} (run : Aggregator.Run (.start ceiling began) h a) :
    (of h).Tried a := by
  have both : (of h).Fits h a ∧ (of h).Tried a := by
    refine run.keeps (P := fun h a => (of h).Fits h a ∧ (of h).Tried a) ?_ ?_
    · exact ⟨by constructor <;> rfl, fun s hs => absurd hs List.not_mem_nil⟩
    · rintro h now a e effects b ⟨fits, tried⟩ move
      rw [of_append]
      exact ⟨fits.move move, tried.move fits move⟩
  exact both.2

theorem Fits.fresh (fits : l.Fits h a) (tried : l.Tried a) (move : Move now a e effects b)
    (calm : b.urgent = false) (settled : ∀ got last, b.phase ≠ .draining got last)
    (queued : s ∈ (l.note e effects).intake)
    (fresh : ∀ attempt ∈ (l.note e effects).attempts, s ∉ attempt) :
    (s ∈ l.intake ∧ a.urgent = false ∧ ∀ got last, a.phase ≠ .draining got last) ∨
      (s.number = l.accepted.length ∧ effects ≠ []) := by
  cases move with
  | refuse => exact .inl ⟨queued, calm, settled⟩
  | accept =>
    rcases List.mem_append.mp queued with old | new
    · exact .inl ⟨old, calm, settled⟩
    · cases List.mem_singleton.mp new
      exact .inr ⟨rfl, List.cons_ne_nil _ _⟩
  | escalate => simp at calm
  | elapse | wake | signal | drain => exact absurd rfl (settled _ _)
  | findNothing phase intake => simp [note, take, fits.nothing intake] at queued
  | deliver phase intake => simp [note, attempt, fits.nothing intake] at queued
  | succeed phase => exact .inl ⟨queued, calm, by simp [phase]⟩
  | fail phase => exact .inl ⟨queued, calm, by simp [phase]⟩
  | giveBack phase =>
    obtain ⟨t, ts, next, -, -⟩ := fits.next phase
    simp only [note, Ledger.giveBack, next, List.mem_append, List.mem_singleton] at queued fresh
    rcases queued with old | rfl
    · exact .inl ⟨old, calm, by simp [phase]⟩
    · obtain ⟨attempt, made, mem⟩ :=
        tried.in_attempt (by rw [next]; exact List.mem_cons_self) (by simp [phase])
      exact absurd mem (fresh attempt made)
  | goOn phase =>
    have none : l.hand = [] := fits.empty_hand (by rw [phase]; rfl)
    simp only [note, Ledger.giveBack, none] at queued
    exact .inl ⟨queued, calm, by simp [phase]⟩

end Ledger

open Watch (Escalated)

/-- A report in the intake that was escalated for, and has not been in any call yet. -/
def Pressing (h : Watch.History) (s : Slip) : Prop :=
  s ∈ (Ledger.of h.ofAggregator).intake ∧ Escalated h s.number ∧
    ∀ attempt ∈ (Ledger.of h.ofAggregator).attempts, s ∉ attempt

/-- An escalation is pending, or the aggregator has woken and not finished its drain, or it has
taken its termination signal. -/
def Awake (h : Watch.History) (w : Watch) : Prop :=
  w.aggregator.urgent = true ∨ (∃ got last, w.aggregator.phase = .draining got last) ∨
    ∃ x ∈ h, x.event = .aggregator .signal

/-- No escalation is lost: the aggregator is awake while any report is pressing, and if it waits
for anything but its end, it can wake at once. -/
structure Prompt (h : Watch.History) (w : Watch) : Prop where
  fits : (Ledger.of h.ofAggregator).Fits h.ofAggregator w.aggregator
  awake : ∀ s, Pressing h s → Awake h w
  wakes : ∀ s, Pressing h s → (∀ x ∈ h, x.event ≠ .aggregator .signal) →
    ∀ t, w.aggregator.phase = .waiting t → ∀ now, w.aggregator.next? now = some .wake ∧
      ∀ moment, ∃ v, w.step moment (.aggregator .wake) = some (v, []) ∧
        v.aggregator.phase = .draining [] false

section

variable {runners : List Runner} {ceiling began : Nat} {h : Watch.History} {w v : Watch}
  {now : Moment} {e : Watch.Event} {effects : List Aggregator.Effect}

theorem awake_of_run (run : Watch.Run ⟨runners, .start ceiling began⟩ h w) :
    ∀ s, Pressing h s → Awake h w := by
  induction run with
  | nil => exact fun s pressing => absurd pressing.1 List.not_mem_nil
  | @step h w now e v effects run made ih =>
    rintro s ⟨queued, escalated, fresh⟩
    have alone := Watch.Run.ofAggregator run
    have fits := Ledger.fits_of_run alone
    -- Who sleeps after the step slept before it, and then nothing was pressing.
    by_contra asleep
    simp only [Awake, not_or, Bool.not_eq_true, not_exists, List.mem_append, List.mem_singleton]
      at asleep
    obtain ⟨calm, settled, unsignalled⟩ := asleep
    have was_asleep (calm : w.aggregator.urgent = false)
        (settled : ∀ got last, w.aggregator.phase ≠ .draining got last) : ¬Awake h w := by
      rintro (urgent | ⟨got, last, draining⟩ | ⟨x, hx, signal⟩)
      · simp [calm] at urgent
      · exact settled got last draining
      · exact unsignalled x ⟨.inl hx, signal⟩
    rw [Watch.History.ofAggregator_append] at queued fresh
    rcases (Watch.move_of_step made).ofAggregator with ⟨silent, same, rfl⟩ | ⟨f, heard, move⟩
    · -- A step of a runner alone; an escalation would have been heard.
      simp only [Watch.History.ofAggregator, Watch.Transition.ofAggregator, silent,
        List.flatMap_singleton, Option.map_none, Option.toList_none, List.append_nil]
        at queued fresh
      rw [same] at calm settled
      rcases escalated.of_append with old | ⟨i, rfl, -⟩
      · exact was_asleep calm settled (ih s ⟨queued, old, fresh⟩)
      · simp [Watch.heard?] at silent
    · simp only [Watch.History.ofAggregator, Watch.Transition.ofAggregator, heard,
        List.flatMap_singleton, Option.map_some, Option.toList_some, Ledger.of_append,
        Ledger.follow] at queued fresh
      rcases fits.fresh (Ledger.tried_of_run alone) move calm settled queued fresh with
        ⟨old, calm', settled'⟩ | ⟨number, shown⟩
      · rcases escalated.of_append with before | ⟨i, rfl, -⟩
        · exact was_asleep calm' settled' (ih s ⟨old, before, fun attempt made =>
            fresh attempt (Ledger.attempts_note _ _ _ made)⟩)
        · cases heard
          generalize v.aggregator = b at move calm
          cases move with
          | escalate => simp at calm
      · rcases escalated.of_append with before | ⟨i, -, silent⟩
        · -- A report that has just come is not escalated for.
          have lt := before.lt
          rw [← Watch.Run.acceptedIn_deeds run, ← fits.accepted, Slip.reports, List.length_map]
            at lt
          omega
        · exact shown silent

end

theorem no_escalation_lost {runners : List Runner} {ceiling began : Nat} {h : Watch.History}
    {w : Watch} (run : Watch.Run ⟨runners, .start ceiling began⟩ h w) : Prompt h w where
  fits := Ledger.fits_of_run run.ofAggregator
  awake := awake_of_run run
  wakes s pressing unsignalled t waiting now := by
    have urgent : w.aggregator.urgent = true := by
      rcases awake_of_run run s pressing with urgent | ⟨got, last, draining⟩ | ⟨x, hx, signal⟩
      · exact urgent
      · simp [waiting] at draining
      · exact absurd signal (unsignalled x hx)
    refine ⟨by simp [Aggregator.next?, waiting, urgent], fun moment => ?_⟩
    rw [Watch.step_aggregator rfl, Aggregator.step_of_move (.wake waiting urgent)]
    exact ⟨_, rfl, rfl⟩

open Watch (disk load) in
theorem escalation_during_a_call_not_lost : ∃ h w, Watch.Run Watch.trial h w ∧
    w.aggregator.phase = .delivering [load] false ∧ w.aggregator.intake = [disk] ∧
    Pressing h ⟨1, disk⟩ ∧ w.aggregator.urgent = true ∧ Prompt h w := by
  obtain ⟨h, w, run, seen⟩ := Watch.Run.of_play Watch.trial (Watch.atOnce [
    .runner 1 .tick, .runner 1 (.result (some load)), .forward 1, .escalate 1, .aggregator .wake,
    .runner 0 .tick, .runner 0 (.result (some disk)), .aggregator .drain, .aggregator .drain,
    .forward 0, .escalate 0])
    (fun r => ((r.2.aggregator.phase, r.2.aggregator.intake, r.2.aggregator.urgent),
      (Ledger.of r.1.ofAggregator).intake, (Ledger.of r.1.ofAggregator).attempts, r.1.deeds))
    (show _ = some ((.delivering [load] false, [disk], true), [⟨1, disk⟩], [[⟨0, load⟩]], [
      (.runner 1 .tick, []), (.runner 1 (.result (some load)), []),
      (.forward 1, [.accepted load]), (.escalate 1, []), (.aggregator .wake, []),
      (.runner 0 .tick, []), (.runner 0 (.result (some disk)), []), (.aggregator .drain, []),
      (.aggregator .drain, [.delivers [load]]), (.forward 0, [.accepted disk]),
      (.escalate 0, [])]) from rfl)
  simp only [Prod.mk.injEq] at seen
  obtain ⟨⟨phase, intake, urgent⟩, slips, attempts, deeds⟩ := seen
  refine ⟨h, w, run, phase, intake, ⟨?_, ?_, ?_⟩, urgent, no_escalation_lost run⟩
  · rw [slips]
    exact List.mem_singleton.mpr rfl
  · exact ⟨h.deeds.take 9, 0, disk, [], [], by rw [deeds]; rfl, by rw [deeds]; rfl, by simp⟩
  · rw [attempts]
    decide

end HostMonitor.Check
