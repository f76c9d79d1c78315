import HostMonitor.Check.Runner
import HostMonitor.Proofs.Machine
import Mathlib.Data.List.Destutter

namespace HostMonitor.Check

namespace Memory

def of (r : Report) : Memory := ⟨r.status, r.message⟩

def after (m : Memory) (rs : List Report) : Memory := (rs.getLast?.map of).getD m

/-- The reports of a check that is run again and again, each with the decision about it. There is
no report where the check could not be run. -/
def decisions (m : Memory) : List (Option Report) → List (Report × Decision)
  | [] => []
  | none :: os => m.decisions os
  | some r :: os => (r, (m.observe r).1) :: (m.observe r).2.decisions os

def Differs (m n : Memory) : Prop := ¬ (n.status = .ok ∧ n = m)

instance : DecidableRel Differs := fun m n =>
  inferInstanceAs (Decidable (¬ (n.status = .ok ∧ n = m)))

def collapse (ms : List Memory) : List Memory := ms.destutter Differs

variable {m n : Memory} {r : Report} {d : Decision} {o : Option Report}
  {os os' : List (Option Report)} {es es' : List (Report × Decision)}

theorem forward_decide : (m.decide r).forward = true ↔ m.Differs (of r) := by
  obtain ⟨status, message⟩ := m
  unfold decide Differs of
  split
  · next same => simpa using same
  · next differs => simpa using differs

theorem urgent_decide : (m.decide r).urgent = true ↔
    r.status ≠ m.status ∧ ¬ (m.status = .undefined ∧ r.status = .ok) := by
  unfold decide
  split
  · next same => simp [same.2.1]
  · simp [Decidable.or_iff_not_imp_left]

theorem forward_of_urgent (urgent : (m.decide r).urgent = true) : (m.decide r).forward = true := by
  rw [forward_decide]
  rintro ⟨-, same⟩
  exact (urgent_decide.mp urgent).1 (congrArg status same)

theorem of_eq_of_withheld (withheld : ¬ (m.decide r).forward = true) : of r = m := by
  rw [forward_decide] at withheld
  exact (Decidable.not_not.mp withheld).2

theorem observe_eq (m : Memory) (r : Report) : m.observe r = (m.decide r, of r) := by
  unfold observe
  split
  · rfl
  · next withheld => rw [of_eq_of_withheld withheld]

theorem blank_differs (n : Memory) : blank.Differs n := by
  rintro ⟨ok, rfl⟩
  cases ok

@[simp] theorem after_cons (r : Report) (rs : List Report) :
    m.after (r :: rs) = (of r).after rs := by
  rw [after, after, List.getLast?_cons]
  cases rs.getLast? <;> rfl

theorem after_append (rs rs' : List Report) : m.after (rs ++ rs') = (m.after rs).after rs' := by
  induction rs generalizing m with
  | nil => rfl
  | cons r rs ih => rw [List.cons_append, after_cons, after_cons, ih]

theorem map_fst_decisions : (m.decisions os).map Prod.fst = os.filterMap id := by
  induction os generalizing m with
  | nil => rfl
  | cons o os ih => cases o <;> simp [decisions, ih]

theorem decisions_filterMap : m.decisions os = m.decisions ((os.filterMap id).map some) := by
  induction os generalizing m with
  | nil => rfl
  | cons o os ih =>
    cases o with
    | none => exact ih
    | some r => exact congrArg (_ :: ·) ih

theorem decisions_append : m.decisions (os ++ os') =
    m.decisions os ++ (m.after (os.filterMap id)).decisions os' := by
  induction os generalizing m with
  | nil => rfl
  | cons o os ih => cases o <;> simp [decisions, ih, observe_eq]

theorem decision_eq (split : m.decisions os = es ++ (r, d) :: es') :
    d = (m.after (es.map Prod.fst)).decide r := by
  induction os generalizing m es with
  | nil => simp [decisions] at split
  | cons o os ih =>
    cases o with
    | none => exact ih split
    | some r' =>
      cases es with
      | nil =>
        obtain ⟨first, -⟩ := List.cons.inj split
        cases first
        rfl
      | cons e es =>
        obtain ⟨rfl, rest⟩ := List.cons.inj split
        rw [observe_eq] at rest
        rw [List.map_cons, after_cons]
        exact ih rest

def forwarded (es : List (Report × Decision)) : List Report :=
  (es.filter fun e => e.2.forward).map Prod.fst

/-- What is forwarded tells the same as all reports, less the repetitions. -/
theorem destutter_decisions : m :: (forwarded (m.decisions os)).map of =
    ((os.filterMap id).map of).destutter' Differs m := by
  induction os generalizing m with
  | nil => rfl
  | cons o os ih =>
    cases o with
    | none => exact ih
    | some r =>
      rw [decisions, observe_eq]
      show _ = (of r :: (os.filterMap id).map of).destutter' Differs m
      by_cases differs : m.Differs (of r)
      · rw [List.destutter'_cons_pos (h := differs), ← ih]
        simp [forwarded, forward_decide.mpr differs]
      · obtain rfl : of r = m := (Decidable.not_not.mp differs).2
        have withheld : (decide (of r) r).forward = false := by
          rw [← Bool.not_eq_true, forward_decide]
          exact differs
        rw [List.destutter'_cons_neg (h := differs), ← ih]
        simp [forwarded, withheld]

theorem map_forwarded : (forwarded (blank.decisions os)).map of =
    collapse ((os.filterMap id).map of) := by
  have all : blank :: (forwarded (blank.decisions os)).map of =
      ((os.filterMap id).map of).destutter' Differs blank := destutter_decisions
  cases reports : (os.filterMap id).map of with
  | nil =>
    rw [reports] at all
    exact (List.cons.inj all).2
  | cons n ns =>
    rw [reports, List.destutter'_cons_pos (h := blank_differs n)] at all
    exact (List.cons.inj all).2

/-- The decisions about the reports of a checker. Each is about the report `r` that comes after the
reports of `es`, with `last` the one before it. -/
structure Compressed (ds : List (Report × Decision)) : Prop where
  withheld : ∀ es r d es', ds = es ++ (r, d) :: es' →
    (d.forward = false ↔ r.status = .ok ∧ (es.getLast?.map fun e => of e.1) = some (of r))
  urgent : ∀ es r d es', ds = es ++ (r, d) :: es' →
    (d.urgent = true ↔ r.status ≠ (blank.after (es.map Prod.fst)).status ∧
      ¬ ((blank.after (es.map Prod.fst)).status = .undefined ∧ r.status = .ok))
  forwarded : ∀ e ∈ ds, e.2.urgent = true → e.2.forward = true
  latest : ∀ es r d es', ds = es ++ (r, d) :: es' →
    (Memory.forwarded (es ++ [(r, d)])).getLast?.map of = some (of r)
  collapsed : collapse ((Memory.forwarded ds).map of) = collapse (ds.map fun e => of e.1)

theorem after_map_fst : m.after (es.map Prod.fst) = (es.getLast?.map fun e => of e.1).getD m := by
  simp [after, List.getLast?_map, Function.comp_def]

theorem withheld_iff (split : blank.decisions os = es ++ (r, d) :: es') :
    d.forward = false ↔ r.status = .ok ∧ (es.getLast?.map fun e => of e.1) = some (of r) := by
  rw [decision_eq split, ← Bool.not_eq_true, forward_decide, after_map_fst]
  cases es.getLast? with
  | none => exact iff_of_false (not_not_intro (blank_differs _)) nofun
  | some e =>
    show ¬ Differs (of e.1) (of r) ↔ r.status = .ok ∧ some (of e.1) = some (of r)
    rw [Differs, Decidable.not_not, Option.some.injEq, eq_comm (a := of r)]
    exact Iff.rfl

theorem getLast?_forwarded (split : blank.decisions os = es ++ (r, d) :: es') :
    (forwarded (es ++ [(r, d)])).getLast?.map of = some (of r) := by
  induction es using List.reverseRecOn generalizing r d es' with
  | nil =>
    have first : d.forward = true := by
      rw [← Bool.not_eq_false, withheld_iff split]
      exact nofun
    simp [forwarded, first]
  | append_singleton es e ih =>
    have before := ih (r := e.1) (d := e.2) (by simpa using split)
    by_cases withheld : d.forward = false
    · have same := ((withheld_iff split).mp withheld).2
      rw [List.getLast?_concat, Option.map_some] at same
      rw [← same, ← before]
      simp [forwarded, withheld]
    · simp [forwarded, withheld]

theorem compressed_decisions : Compressed (blank.decisions os) where
  withheld _ _ _ _ split := withheld_iff split
  urgent es r d es' split := by
    rw [decision_eq split, urgent_decide]
  forwarded e mem urgent := by
    obtain ⟨es, es', split⟩ := List.append_of_mem mem
    have same := decision_eq (r := e.1) (d := e.2) split
    rw [same] at urgent ⊢
    exact forward_of_urgent urgent
  latest _ _ _ _ split := getLast?_forwarded split
  collapsed := by
    rw [map_forwarded, collapse, collapse, List.destutter_idem, ← map_fst_decisions (m := blank),
      List.map_map]
    rfl

end Memory

namespace Runner

inductive Deed : Type
  | forwards (r : Report)
  | escalates
  deriving DecidableEq

def deeds (r : Runner) : Event → List Deed
  | .forwarded _ =>
    match r.phase with
    | .forwarding report _ => [.forwards report]
    | _ => []
  | .escalated => [.escalates]
  | _ => []

def Phase.due : Phase → List Deed
  | .forwarding r urgent => .forwards r :: if urgent then [.escalates] else []
  | .escalating => [.escalates]
  | _ => []

def deedsFor (e : Report × Decision) : List Deed :=
  if e.2.forward then .forwards e.1 :: if e.2.urgent then [.escalates] else [] else []

def act (now : Moment) (r : Runner) (e : Event) : Option (Runner × List Deed) :=
  (r.step now.uptime e).map (·, r.deeds e)

abbrev History : Type := Machine.History Runner Event Deed

abbrev Run : Runner → History → Runner → Prop := Machine.Run act

def Event.outcome? : Event → Option (Option Report)
  | .result o => some o
  | _ => none

def History.outcomes (h : History) : List (Option Report) := h.filterMap fun x => x.event.outcome?

def History.decisions (h : History) : List (Report × Decision) := Memory.blank.decisions h.outcomes

def History.Taken (h : History) : Prop := ∀ x ∈ h, x.event ≠ .forwarded false

/-- A runner at work: it remembers the last report, and has done what was decided, or is about to.
When the aggregator refuses a report, the runner stops and an escalation for it is left undone. -/
structure Follows (h : History) (r : Runner) : Prop where
  memory : r.memory = Memory.blank.after (h.outcomes.filterMap id)
  done : h.effects ++ r.phase.due = h.decisions.flatMap deedsFor ∨
    (r.phase = .stopped ∧ ¬ h.Taken ∧ h.effects ++ [.escalates] = h.decisions.flatMap deedsFor)

variable {now : Moment} {r s : Runner} {e : Event} {h : History} {ds : List Deed}

theorem deeds_of_forwarding {report : Report} {urgent accepted : Bool}
    (forwarding : r.phase = .forwarding report urgent) :
    r.deeds (.forwarded accepted) = [.forwards report] := by
  simp [deeds, forwarding]

theorem History.outcomes_concat (h : History) (x : Machine.Transition Runner Event Deed) :
    outcomes (h ++ [x]) = outcomes h ++ x.event.outcome?.toList := by
  rw [outcomes, outcomes, List.filterMap_append, List.filterMap_cons]
  cases x.event.outcome? <;> rfl

theorem History.decisions_concat (h : History) (x : Machine.Transition Runner Event Deed) :
    decisions (h ++ [x]) = decisions h ++
      (Memory.blank.after (h.outcomes.filterMap id)).decisions x.event.outcome?.toList := by
  rw [decisions, decisions, outcomes_concat, Memory.decisions_append]

namespace Follows

theorem done_of_ne (follows : Follows h r) (working : r.phase ≠ .stopped) :
    h.effects ++ r.phase.due = h.decisions.flatMap deedsFor :=
  follows.done.resolve_right fun undone => working undone.1

theorem decisions_of_no_report (none : e.outcome?.toList.filterMap id = []) :
    History.decisions (h ++ [⟨r, now, e, ds, s⟩]) = h.decisions := by
  have no_more :
      (Memory.blank.after (h.outcomes.filterMap id)).decisions e.outcome?.toList = [] := by
    rw [← List.map_eq_nil_iff (f := Prod.fst), Memory.map_fst_decisions, none]
  rw [History.decisions_concat, no_more, List.append_nil]

theorem memory_of_no_report (follows : Follows h r) (none : e.outcome?.toList.filterMap id = [])
    (same : s.memory = r.memory) :
    s.memory = Memory.blank.after
      ((History.outcomes (h ++ [⟨r, now, e, ds, s⟩])).filterMap id) := by
  rw [same, follows.memory, History.outcomes_concat, List.filterMap_append, none, List.append_nil]

theorem quiet (follows : Follows h r) (working : r.phase ≠ .stopped)
    (none : e.outcome?.toList.filterMap id = []) (same : s.memory = r.memory)
    (due : r.phase.due = ds ++ s.phase.due) : Follows (h ++ [⟨r, now, e, ds, s⟩]) s := by
  refine ⟨follows.memory_of_no_report none same, .inl ?_⟩
  rw [decisions_of_no_report none, ← follows.done_of_ne working, due]
  simp

theorem refused {report : Report} (follows : Follows h r)
    (forwarding : r.phase = .forwarding report true) (stopped : s.phase = .stopped)
    (same : s.memory = r.memory) :
    Follows (h ++ [⟨r, now, .forwarded false, [.forwards report], s⟩]) s := by
  refine ⟨follows.memory_of_no_report rfl same, .inr ⟨stopped, ?_, ?_⟩⟩
  · intro taken
    exact taken _ (List.mem_append_right _ (List.mem_singleton.mpr rfl)) rfl
  · rw [decisions_of_no_report rfl, ← follows.done_of_ne (by simp [forwarding]), forwarding]
    simp [Phase.due]

theorem report {report : Report} (follows : Follows h r) (checking : r.phase = .checking)
    (memory : s.memory = (r.memory.observe report).2)
    (due : s.phase.due = deedsFor (report, r.memory.decide report)) :
    Follows (h ++ [⟨r, now, .result (some report), [], s⟩]) s := by
  have before := follows.done_of_ne (by simp [checking])
  constructor
  · rw [memory, Memory.observe_eq, History.outcomes_concat, List.filterMap_append,
      Memory.after_append]
    rfl
  · left
    rw [History.decisions_concat, List.flatMap_append, ← before, ← follows.memory, due, checking]
    simp [Phase.due, Event.outcome?, Memory.decisions, Memory.observe]

theorem step (follows : Follows h r) (made : act now r e = some (s, ds)) :
    Follows (h ++ [⟨r, now, e, ds, s⟩]) s := by
  obtain ⟨t, stepped, ⟨⟩⟩ := Option.map_eq_some_iff.mp made
  -- One case for each row of the step. A report alone adds to what is due.
  unfold Runner.step at stepped
  split at stepped
  · next waiting =>
    split at stepped
    · cases stepped
      exact follows.quiet (by simp [waiting]) rfl rfl (by rw [waiting]; rfl)
    · cases stepped
  · next waiting =>
    cases stepped
    exact follows.quiet (by simp [waiting]) rfl rfl (by rw [waiting]; rfl)
  · next checking =>
    cases stepped
    exact follows.quiet (by simp [checking]) rfl rfl (by rw [checking]; rfl)
  · next report checking =>
    cases stepped
    refine follows.report checking rfl ?_
    show (if _ then _ else _ : Phase).due = deedsFor (report, r.memory.decide report)
    unfold deedsFor
    split <;> rfl
  · next checking =>
    cases stepped
    exact follows.quiet (by simp [checking]) rfl rfl (by rw [checking]; rfl)
  · next report urgent accepted forwarding =>
    cases stepped
    have working : r.phase ≠ .stopped := by simp [forwarding]
    rw [deeds_of_forwarding forwarding]
    cases accepted with
    | true => cases urgent <;> exact follows.quiet working rfl rfl (by rw [forwarding]; rfl)
    | false =>
      cases urgent with
      | true => exact follows.refused forwarding rfl rfl
      | false => exact follows.quiet working rfl rfl (by rw [forwarding]; rfl)
  · next escalating =>
    cases stepped
    exact follows.quiet (by simp [escalating]) rfl rfl (by rw [escalating]; rfl)
  · cases stepped

end Follows

theorem follows_of_run {interval began : Nat} (run : Run (.start interval began) h r) :
    Follows h r :=
  run.invariant ⟨rfl, .inl rfl⟩ fun _ follows made => follows.step made

theorem act_of_failure (made : act now r (.result none) = some (s, ds)) :
    s = { r with phase := .waiting } ∧ ds = [] := by
  obtain ⟨t, stepped, ⟨⟩⟩ := Option.map_eq_some_iff.mp made
  cases phase : r.phase with
  | checking =>
    simp only [Runner.step, phase, Option.some.injEq] at stepped
    exact ⟨stepped.symm, rfl⟩
  | _ => simp [Runner.step, phase] at stepped

theorem act_forwarded (now : Moment) {report : Report} {urgent : Bool}
    (forwarding : r.phase = .forwarding report urgent) : act now r (.forwarded true) =
      some ({ r with phase := if urgent then .escalating else .waiting }, [.forwards report]) := by
  cases urgent <;> simp [act, Runner.step, deeds, forwarding]

theorem act_escalated (now : Moment) (escalating : r.phase = .escalating) :
    act now r .escalated = some ({ r with phase := .waiting }, [.escalates]) := by
  simp [act, Runner.step, deeds, escalating]

theorem act_failed (now : Moment) (checking : r.phase = .checking) :
    act now r (.result none) = some ({ r with phase := .waiting }, []) := by
  simp [act, Runner.step, deeds, checking]

theorem act_reported (now : Moment) {report : Report} (checking : r.phase = .checking) :
    act now r (.result (some report)) = some ({ r with
      memory := (r.memory.observe report).2
      phase := if (r.memory.decide report).forward then
        .forwarding report (r.memory.decide report).urgent else .waiting }, []) := by
  simp [act, Runner.step, deeds, checking, Memory.observe]
  rfl

def Sees (r : Runner) (os : List (Option Report)) : Prop :=
  ∃ h s, Run r h s ∧ h.outcomes = os ∧ h.Taken

theorem Sees.cons {os : List (Option Report)} (made : act now r e = some (s, ds))
    (taken : e ≠ .forwarded false) (sees : s.Sees os) : r.Sees (e.outcome?.toList ++ os) := by
  obtain ⟨h, t, run, rfl, all⟩ := sees
  refine ⟨⟨r, now, e, ds, s⟩ :: h, t, .cons made run, ?_, ?_⟩
  · rw [History.outcomes, List.filterMap_cons]
    cases e.outcome? <;> rfl
  · exact List.forall_mem_cons.mpr ⟨taken, all⟩

theorem sees_of_due {os : List (Option Report)} (working : r.phase ≠ .stopped)
    (free : r.phase ≠ .checking) (sees : ∀ s : Runner, s.phase = .waiting → s.Sees os) :
    r.Sees os := by
  let now : Moment := ⟨0, .epoch⟩
  have escalated (s : Runner) (escalating : s.phase = .escalating) : s.Sees os :=
    .cons (act_escalated now escalating) nofun (sees _ rfl)
  cases phase : r.phase with
  | waiting => exact sees r phase
  | checking => exact absurd phase free
  | stopped => exact absurd phase working
  | escalating => exact escalated r phase
  | forwarding report urgent =>
    refine .cons (act_forwarded now phase) (fun same => by cases same) ?_
    cases urgent with
    | true => exact escalated _ rfl
    | false => exact sees _ rfl

theorem sees (os : List (Option Report)) (waiting : r.phase = .waiting) : r.Sees os := by
  induction os generalizing r with
  | nil => exact ⟨[], r, .nil, rfl, fun _ mem => absurd mem List.not_mem_nil⟩
  | cons o os ih =>
    let now : Moment := ⟨r.ticker.due, .epoch⟩
    have tick : act now r .tick =
        some ({ r with ticker := r.ticker.serve now.uptime, phase := .checking }, []) := by
      simp [act, Runner.step, waiting, Ticker.isDue, deeds, now]
    refine .cons tick nofun ?_
    cases o with
    | none => exact .cons (act_failed now rfl) nofun (ih rfl)
    | some report =>
      refine .cons (act_reported now rfl) nofun (sees_of_due ?_ ?_ fun s => ih)
      · dsimp only
        split <;> nofun
      · dsimp only
        split <;> nofun

/-- A new runner, whatever the outcomes of its check are, forwards and escalates as the decisions
about the reports ask for, and these compress the reports faithfully. A check that could not be run
has no part in it. -/
theorem reports_faithfully_compressed (interval began : Nat) (os : List (Option Report)) :
    Memory.Compressed (Memory.blank.decisions os) ∧
    (Memory.blank.decisions os).map Prod.fst = os.filterMap id ∧
    Memory.blank.decisions os = Memory.blank.decisions ((os.filterMap id).map some) ∧
    (start interval began).Sees os ∧
    ∀ h r, Run (start interval began) h r → h.outcomes = os →
      (∀ x ∈ h, x.event = .result none →
        x.target = { x.source with phase := .waiting } ∧ x.effects = []) ∧
      r.memory = Memory.blank.after (os.filterMap id) ∧
      h.effects ++ r.phase.due <+: (Memory.blank.decisions os).flatMap deedsFor ∧
      (h.Taken → h.effects ++ r.phase.due = (Memory.blank.decisions os).flatMap deedsFor) := by
  refine ⟨Memory.compressed_decisions, Memory.map_fst_decisions, Memory.decisions_filterMap,
    sees os rfl, ?_⟩
  rintro h r run rfl
  have follows := follows_of_run run
  refine ⟨?_, follows.memory, ?_, ?_⟩
  · intro x mem failed
    have made := run.made mem
    rw [Machine.Transition.Made, failed] at made
    exact act_of_failure made
  · rcases follows.done with done | ⟨stopped, -, undone⟩
    · exact ⟨[], by rw [List.append_nil, done]; rfl⟩
    · have nothing : Phase.stopped.due = [] := rfl
      exact ⟨[.escalates], by rw [stopped, nothing, List.append_nil, undone]; rfl⟩
  · intro taken
    exact follows.done.resolve_right fun undone => undone.2.1 taken

def trialOutcomes : List (Option Report) :=
  [none, some ⟨"disk", .warning, "90%", .epoch⟩, some ⟨"disk", .ok, "40%", .epoch⟩,
    some ⟨"disk", .ok, "40%", .epoch⟩, none, some ⟨"disk", .ok, "41%", .epoch⟩]

theorem reports_of_a_trial_compressed :
    Memory.Compressed (Memory.blank.decisions trialOutcomes) ∧
    ∃ h r, Run (start 60 0) h r ∧ h.outcomes = trialOutcomes ∧ h.Taken ∧
      h.effects ++ r.phase.due = [.forwards ⟨"disk", .warning, "90%", .epoch⟩, .escalates,
        .forwards ⟨"disk", .ok, "40%", .epoch⟩, .escalates,
        .forwards ⟨"disk", .ok, "41%", .epoch⟩] := by
  obtain ⟨compressed, -, -, ⟨h, r, run, same, taken⟩, runs⟩ :=
    reports_faithfully_compressed 60 0 trialOutcomes
  obtain ⟨-, -, -, all⟩ := runs h r run same
  exact ⟨compressed, h, r, run, same, taken, by rw [all taken]; decide⟩

end Runner

end HostMonitor.Check
