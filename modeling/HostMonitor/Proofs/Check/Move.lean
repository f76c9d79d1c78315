import HostMonitor.Check.Runner
import HostMonitor.Proofs.Machine

namespace HostMonitor.Check

namespace Aggregator

open Event Effect

inductive Move (now : Moment) (a : Aggregator) : Event → List Effect → Aggregator → Prop
  | refuse : a.phase = .stopped → Move now a (.forward r) [refused r] a
  | accept : a.phase ≠ .stopped →
      Move now a (.forward r) [accepted r] { a with intake := a.intake ++ [r] }
  | escalate : Move now a .escalate [] { a with urgent := true }
  | elapse : a.phase = .waiting t → t ≤ now.uptime →
      Move now a .elapse [] { a with phase := .draining [] false }
  | wake : a.phase = .waiting t → a.urgent = true →
      Move now a .wake [] { a with urgent := false, phase := .draining [] false }
  | signal : a.phase = .waiting t → Move now a .signal [] { a with phase := .draining [] true }
  | drain : a.phase = .draining got last → a.intake = r :: rs →
      Move now a .drain [] { a with intake := rs, phase := .draining (got ++ [r]) last }
  | findNothing : a.phase = .draining [] last → a.intake = [] →
      Move now a .drain [] (a.resume now.uptime last)
  | deliver : a.phase = .draining got last → a.intake = [] → got ≠ [] →
      Move now a .drain [delivers got] { a with phase := .delivering got last }
  | succeed : a.phase = .delivering rs last →
      Move now a (.reply true) [delivered rs] (a.resume now.uptime last)
  | fail : a.phase = .delivering rs last →
      Move now a (.reply false) [failed rs] { a with phase := .returning rs last }
  | giveBack : a.phase = .returning (r :: rs) last →
      Move now a .giveBack [] { a with intake := a.intake ++ [r], phase := .returning rs last }
  | goOn : a.phase = .returning [] last → Move now a .giveBack [] (a.resume now.uptime last)

variable {now : Moment} {a b : Aggregator} {e : Event} {effects : List Effect}

@[simp] theorem isStopped_iff : a.isStopped = true ↔ a.phase = .stopped := by
  cases h : a.phase <;> simp [isStopped, h]

@[simp] theorem intake_resume (now : Nat) (last : Bool) : (a.resume now last).intake = a.intake :=
  rfl

@[simp] theorem phase_resume_last (now : Nat) : (a.resume now true).phase = .stopped := rfl

@[simp] theorem phase_resume (now : Nat) :
    (a.resume now false).phase = .waiting (now + a.ceiling) := rfl

theorem move_of_step (made : a.step now e = some (b, effects)) : Move now a e effects b := by
  cases e with
  | forward r =>
    simp only [step] at made
    split at made
    · next stopped => cases made; exact .refuse (isStopped_iff.mp stopped)
    · next running => cases made; exact .accept fun stopped => running (isStopped_iff.mpr stopped)
  | escalate => cases made; exact .escalate
  | elapse =>
    simp only [step] at made
    cases phase : a.phase with
    | waiting t =>
      simp only [stepSelf, phase, Option.ite_none_right_eq_some] at made
      obtain ⟨due, made⟩ := made
      cases made
      exact .elapse phase due
    | _ => simp [stepSelf, phase] at made
  | wake =>
    simp only [step] at made
    cases phase : a.phase with
    | waiting t =>
      simp only [stepSelf, phase, Option.ite_none_right_eq_some] at made
      obtain ⟨urgent, made⟩ := made
      cases made
      exact .wake phase urgent
    | _ => simp [stepSelf, phase] at made
  | signal =>
    simp only [step] at made
    cases phase : a.phase with
    | waiting t => simp only [stepSelf, phase] at made; cases made; exact .signal phase
    | _ => simp [stepSelf, phase] at made
  | drain =>
    simp only [step] at made
    cases phase : a.phase with
    | draining got last =>
      cases intake : a.intake with
      | cons r rs =>
        simp only [stepSelf, phase, intake] at made
        cases made
        exact .drain phase intake
      | nil =>
        cases got with
        | nil =>
          simp only [stepSelf, phase, intake, List.isEmpty_nil, if_true] at made
          cases made
          exact .findNothing phase intake
        | cons r rs =>
          simp only [stepSelf, phase, intake, List.isEmpty_cons, Bool.false_eq_true, if_false]
            at made
          cases made
          have move : Move now a .drain _ _ := .deliver phase intake (List.cons_ne_nil r rs)
          simpa only [intake] using move
    | _ => simp [stepSelf, phase] at made
  | reply accepted =>
    simp only [step] at made
    cases phase : a.phase with
    | delivering rs last =>
      cases accepted with
      | true => simp only [stepSelf, phase] at made; cases made; exact .succeed phase
      | false => simp only [stepSelf, phase] at made; cases made; exact .fail phase
    | _ => simp [stepSelf, phase] at made
  | giveBack =>
    simp only [step] at made
    cases phase : a.phase with
    | returning rest last =>
      cases rest with
      | nil => simp only [stepSelf, phase] at made; cases made; exact .goOn phase
      | cons r rs => simp only [stepSelf, phase] at made; cases made; exact .giveBack phase
    | _ => simp [stepSelf, phase] at made

theorem step_of_move (move : Move now a e effects b) : a.step now e = some (b, effects) := by
  cases move with
  | refuse stopped => simp [step, stopped]
  | accept running => simp [step, running]
  | escalate => rfl
  | elapse phase due => simp [step, stepSelf, phase, due]
  | wake phase urgent => simp [step, stepSelf, phase, urgent]
  | drain phase intake | findNothing phase intake => simp [step, stepSelf, phase, intake]
  | deliver phase intake some => simp [step, stepSelf, phase, intake, some]
  | signal phase | succeed phase | fail phase | giveBack phase | goOn phase =>
    simp [step, stepSelf, phase]

abbrev Transition : Type := Machine.Transition Aggregator Event Effect

abbrev History : Type := Machine.History Aggregator Event Effect

abbrev Run : Aggregator → History → Aggregator → Prop := Machine.Run step

namespace Effect

def accepted? : Effect → Option Report
  | .accepted r => some r
  | _ => none

def delivers? : Effect → Option (List Report)
  | .delivers rs => some rs
  | _ => none

def reply? : Effect → Option (List Report × Bool)
  | .delivered rs => some (rs, true)
  | .failed rs => some (rs, false)
  | _ => none

end Effect

namespace History

def accepted (h : History) : List Report := h.effects.filterMap Effect.accepted?

def attempts (h : History) : List (List Report) := h.effects.filterMap Effect.delivers?

def replies (h : History) : List (List Report × Bool) := h.effects.filterMap Effect.reply?

def delivered (h : History) : List Report := (h.replies.filter Prod.snd).flatMap Prod.fst

variable (h k : History) (x : Transition)

@[simp] theorem accepted_nil : accepted [] = [] := rfl

@[simp] theorem accepted_cons : accepted (x :: h) =
    x.effects.filterMap Effect.accepted? ++ accepted h := by simp [accepted]

@[simp] theorem accepted_append : accepted (h ++ k) = accepted h ++ accepted k := by simp [accepted]

@[simp] theorem attempts_nil : attempts [] = [] := rfl

@[simp] theorem attempts_cons : attempts (x :: h) =
    x.effects.filterMap Effect.delivers? ++ attempts h := by simp [attempts]

@[simp] theorem attempts_append : attempts (h ++ k) = attempts h ++ attempts k := by simp [attempts]

@[simp] theorem replies_nil : replies [] = [] := rfl

@[simp] theorem replies_cons : replies (x :: h) =
    x.effects.filterMap Effect.reply? ++ replies h := by simp [replies]

@[simp] theorem replies_append : replies (h ++ k) = replies h ++ replies k := by simp [replies]

@[simp] theorem delivered_append : delivered (h ++ k) = delivered h ++ delivered k := by
  simp [delivered]

end History

def Phase.outstanding : Phase → List (List Report)
  | .delivering rs _ => [rs]
  | _ => []

@[simp] theorem outstanding_resume (a : Aggregator) (now : Nat) (last : Bool) :
    (a.resume now last).phase.outstanding = [] := by
  cases last <;> rfl

theorem Move.answered (move : Move now a e effects b) :
    a.phase.outstanding ++ effects.filterMap Effect.delivers? =
      (effects.filterMap Effect.reply?).map Prod.fst ++ b.phase.outstanding := by
  cases move with
  | refuse | accept | escalate => exact List.append_nil _
  | findNothing phase | succeed phase | goOn phase => rw [outstanding_resume, phase]; rfl
  | elapse phase | wake phase | signal phase | drain phase | deliver phase | fail phase
  | giveBack phase => rw [phase]; rfl

def Event.isReply : Event → Bool
  | .reply _ => true
  | _ => false

theorem Move.replied (move : Move now a e effects b) :
    (effects.filterMap Effect.reply?).length = e.isReply.toNat := by
  cases move <;> rfl

theorem Run.keeps {P : History → Aggregator → Prop} {h : History} (run : Run a h b) (start : P [] a)
    (keep : ∀ {h now a e effects b}, P h a → Move now a e effects b →
      P (h ++ [⟨a, now, e, effects, b⟩]) b) : P h b :=
  run.invariant start fun _ held made => keep held (move_of_step made)

end Aggregator

namespace Runner.Event

def isOwn : Runner.Event → Bool
  | .forwarded _ | .escalated => false
  | _ => true

end Runner.Event

namespace Aggregator.Event

def isOwn : Aggregator.Event → Bool
  | .forward _ | .escalate => false
  | _ => true

end Aggregator.Event

namespace Watch

inductive Move (now : Moment) (w : Watch) : Event → List Aggregator.Effect → Watch → Prop
  | runner : e.isOwn = true → w.runners[i]? = some r → r.step now.uptime e = some s →
      Move now w (.runner i e) [] { w with runners := w.runners.set i s }
  | forward : w.runners[i]? = some r → r.phase = .forwarding report urgent →
      r.step now.uptime (.forwarded !w.aggregator.isStopped) = some s →
      Aggregator.Move now w.aggregator (.forward report) effects a →
      Move now w (.forward i) effects ⟨w.runners.set i s, a⟩
  | escalate : w.runners[i]? = some r → r.step now.uptime .escalated = some s →
      Move now w (.escalate i) [] ⟨w.runners.set i s, { w.aggregator with urgent := true }⟩
  | aggregator : e.isOwn = true → Aggregator.Move now w.aggregator e effects a →
      Move now w (.aggregator e) effects { w with aggregator := a }

variable {now : Moment} {w v : Watch} {e : Event} {effects : List Aggregator.Effect}

theorem stepRunner_eq_some {f : Runner.Event} : w.stepRunner now i f = some v ↔
    ∃ r s, w.runners[i]? = some r ∧ r.step now.uptime f = some s ∧
      v = { w with runners := w.runners.set i s } := by
  simp only [stepRunner, Option.bind_eq_bind, Option.bind_eq_some_iff, Option.pure_def,
    Option.some.injEq]
  constructor
  · rintro ⟨r, found, s, stepped, rfl⟩
    exact ⟨r, s, found, stepped, rfl⟩
  · rintro ⟨r, s, found, stepped, rfl⟩
    exact ⟨r, found, s, stepped, rfl⟩

theorem move_of_forward (made : w.step now (.forward i) = some (v, effects)) :
    Move now w (.forward i) effects v := by
  simp only [step, stepForward, Option.bind_eq_bind, Option.bind_eq_some_iff] at made
  obtain ⟨r, found, made⟩ := made
  split at made
  · next report urgent phase =>
    simp only [Option.bind_eq_some_iff, Option.pure_def, Option.some.injEq, Prod.mk.injEq] at made
    obtain ⟨⟨a, shown⟩, forwarded, u, told, rfl, rfl⟩ := made
    obtain ⟨r', s, same, stepped, rfl⟩ := stepRunner_eq_some.mp told
    rw [found] at same
    cases same
    exact .forward found phase stepped (Aggregator.move_of_step forwarded)
  · cases made

theorem move_of_escalate (made : w.step now (.escalate i) = some (v, effects)) :
    Move now w (.escalate i) effects v := by
  simp only [step, stepEscalate, Aggregator.step, Option.bind_eq_bind, Option.bind_some,
    Option.bind_eq_some_iff, Option.pure_def, Option.some.injEq, Prod.mk.injEq] at made
  obtain ⟨u, told, rfl, rfl⟩ := made
  obtain ⟨r, s, found, stepped, rfl⟩ := stepRunner_eq_some.mp told
  exact .escalate found stepped

theorem step_runner {f : Runner.Event} (own : f.isOwn = true) :
    w.step now (.runner i f) = (w.stepRunner now i f).map (·, []) := by
  cases f with
  | forwarded | escalated => cases own
  | _ => rfl

theorem step_aggregator {f : Aggregator.Event} (own : f.isOwn = true) :
    w.step now (.aggregator f) =
      (w.aggregator.step now f).map fun (a, effects) => ({ w with aggregator := a }, effects) := by
  cases f with
  | forward | escalate => cases own
  | _ => rw [Option.map_eq_bind]; rfl

theorem move_of_step (made : w.step now e = some (v, effects)) : Move now w e effects v := by
  cases e with
  | forward i => exact move_of_forward made
  | escalate i => exact move_of_escalate made
  | runner i f =>
    have own : f.isOwn = true := by
      cases f with
      | forwarded | escalated => cases made
      | _ => rfl
    rw [step_runner own, Option.map_eq_some_iff] at made
    obtain ⟨u, told, made⟩ := made
    cases made
    obtain ⟨r, s, found, stepped, rfl⟩ := stepRunner_eq_some.mp told
    exact .runner own found stepped
  | aggregator f =>
    have own : f.isOwn = true := by
      cases f with
      | forward | escalate => cases made
      | _ => rfl
    rw [step_aggregator own, Option.map_eq_some_iff] at made
    obtain ⟨⟨a, shown⟩, stepped, made⟩ := made
    cases made
    exact .aggregator own (Aggregator.move_of_step stepped)

theorem step_of_move (move : Move now w e effects v) : w.step now e = some (v, effects) := by
  cases move with
  | runner own found stepped =>
    rw [step_runner own, Option.map_eq_some_iff]
    exact ⟨_, stepRunner_eq_some.mpr ⟨_, _, found, stepped, rfl⟩, rfl⟩
  | forward found phase stepped forwarded =>
    simp [step, stepForward, stepRunner, found, phase, stepped, Aggregator.step_of_move forwarded]
  | escalate found stepped => simp [step, stepEscalate, stepRunner, Aggregator.step, found, stepped]
  | aggregator own moved =>
    rw [step_aggregator own, Aggregator.step_of_move moved]
    rfl

abbrev Transition : Type := Machine.Transition Watch Event Aggregator.Effect

abbrev History : Type := Machine.History Watch Event Aggregator.Effect

abbrev Run : Watch → History → Watch → Prop := Machine.Run step

def heard? (w : Watch) : Event → Option Aggregator.Event
  | .runner _ _ => none
  | .forward i =>
    match w.runners[i]?.map Runner.phase with
    | some (.forwarding report _) => some (.forward report)
    | _ => none
  | .escalate _ => some .escalate
  | .aggregator e => some e

def Transition.ofAggregator (x : Transition) : Aggregator.History :=
  ((x.source.heard? x.event).map fun e =>
    ⟨x.source.aggregator, x.now, e, x.effects, x.target.aggregator⟩).toList

def History.ofAggregator (h : History) : Aggregator.History := h.flatMap Transition.ofAggregator

@[simp] theorem History.ofAggregator_append (h k : History) :
    ofAggregator (h ++ k) = ofAggregator h ++ ofAggregator k := by simp [ofAggregator]

@[simp] theorem History.ofAggregator_cons (x : Transition) (h : History) :
    ofAggregator (x :: h) = x.ofAggregator ++ ofAggregator h := by simp [ofAggregator]

@[simp] theorem History.ofAggregator_nil : ofAggregator [] = [] := rfl

theorem Move.ofAggregator (move : Move now w e effects v) :
    (w.heard? e = none ∧ v.aggregator = w.aggregator ∧ effects = []) ∨
      ∃ f, w.heard? e = some f ∧ Aggregator.Move now w.aggregator f effects v.aggregator := by
  cases move with
  | runner => exact .inl ⟨rfl, rfl, rfl⟩
  | forward found phase stepped forwarded =>
    exact .inr ⟨_, by simp [heard?, found, phase], forwarded⟩
  | escalate => exact .inr ⟨_, rfl, .escalate⟩
  | aggregator own stepped => exact .inr ⟨_, rfl, stepped⟩

theorem Run.ofAggregator {h : History} (run : Run w h v) :
    Aggregator.Run w.aggregator h.ofAggregator v.aggregator := by
  refine run.project aggregator _ fun x made => ?_
  unfold Transition.ofAggregator
  rcases (move_of_step made).ofAggregator with ⟨silent, same, -⟩ | ⟨f, heard, move⟩
  · rw [silent, same]
    exact .nil
  · rw [heard]
    exact .single (Aggregator.step_of_move move)

def trial : Watch := ⟨[.start 10 0, .start 10 0], .start 100 0⟩

def disk : Report := ⟨"disk", .critical, "full", .epoch⟩

def load : Report := ⟨"load", .warning, "high", .epoch⟩

def atOnce (es : List Event) : List (Moment × Event) := es.map (⟨10, .epoch⟩, ·)

theorem Run.of_play (w : Watch) (script : List (Moment × Event)) (see : History × Watch → α)
    (h : (Machine.play step w script).map see = some a) :
    ∃ past v, Run w past v ∧ see (past, v) = a :=
  Machine.Run.of_play step w script see h

end Watch

end HostMonitor.Check
