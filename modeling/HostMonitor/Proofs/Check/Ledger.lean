import HostMonitor.Proofs.Check.Move
import Mathlib.Data.List.Induction
import Mathlib.Data.List.Perm.Basic
import Mathlib.Data.List.Nodup

namespace HostMonitor.Check

open Aggregator (Event Effect Transition History Move Run)

structure Slip : Type where
  number : Nat
  report : Report
  deriving DecidableEq

namespace Slip

def reports (ss : List Slip) : List Report := ss.map Slip.report

@[simp] theorem reports_nil : reports [] = [] := rfl

@[simp] theorem reports_cons (s : Slip) (ss : List Slip) :
    reports (s :: ss) = s.report :: reports ss := rfl

@[simp] theorem reports_append (ss ts : List Slip) :
    reports (ss ++ ts) = reports ss ++ reports ts := by simp [reports]

end Slip

structure Ledger : Type where
  accepted : List Slip
  intake : List Slip
  hand : List Slip
  attempts : List (List Slip)
  replies : List (List Slip × Bool)

namespace Ledger

def empty : Ledger := ⟨[], [], [], [], []⟩

def enter (l : Ledger) (r : Report) : Ledger :=
  { l with
    accepted := l.accepted ++ [⟨l.accepted.length, r⟩]
    intake := l.intake ++ [⟨l.accepted.length, r⟩] }

def take (l : Ledger) : Ledger :=
  match l.intake with
  | s :: ss => { l with intake := ss, hand := l.hand ++ [s] }
  | [] => l

def attempt (l : Ledger) : Ledger := { l with attempts := l.attempts ++ [l.hand] }

def deliver (l : Ledger) : Ledger :=
  { l with replies := l.replies ++ [(l.hand, true)], hand := [] }

def fail (l : Ledger) : Ledger := { l with replies := l.replies ++ [(l.hand, false)] }

def giveBack (l : Ledger) : Ledger :=
  match l.hand with
  | s :: ss => { l with intake := l.intake ++ [s], hand := ss }
  | [] => l

def note (l : Ledger) : Event → List Effect → Ledger
  | .forward _, [.accepted r] => l.enter r
  | .drain, [] => l.take
  | .drain, [.delivers _] => l.attempt
  | .reply _, [.delivered _] => l.deliver
  | .reply _, [.failed _] => l.fail
  | .giveBack, _ => l.giveBack
  | _, _ => l

def follow (l : Ledger) (x : Transition) : Ledger := l.note x.event x.effects

def of (h : History) : Ledger := h.foldl follow empty

@[simp] theorem of_nil : of [] = empty := rfl

@[simp] theorem of_append (h : History) (x : Transition) : of (h ++ [x]) = (of h).follow x := by
  simp [of]

def delivered (l : Ledger) : List Slip := (l.replies.filter Prod.snd).flatMap Prod.fst

def places (l : Ledger) : List Slip := l.delivered ++ l.hand ++ l.intake

structure Balanced (l : Ledger) : Prop where
  numbered : l.accepted.map Slip.number = List.range l.accepted.length
  placed : l.accepted.Perm l.places

theorem balanced_empty : empty.Balanced := ⟨rfl, .nil⟩

variable {l : Ledger}

theorem places_take : l.take.places = l.places := by
  unfold take
  split
  · next s ss intake => simp [places, delivered, intake]
  · rfl

theorem places_deliver : l.deliver.places = l.places := by simp [places, delivered, deliver]

theorem places_fail : l.fail.places = l.places := by simp [places, delivered, fail]

theorem places_giveBack : l.places.Perm l.giveBack.places := by
  unfold giveBack
  split
  · next s ss hand =>
    simp only [places, delivered, hand, List.append_assoc, List.cons_append]
    refine List.Perm.append_left _ ?_
    rw [← List.append_assoc]
    exact (List.perm_append_singleton s _).symm
  · rfl

@[simp] theorem accepted_take : l.take.accepted = l.accepted := by
  unfold take
  split <;> rfl

@[simp] theorem accepted_giveBack : l.giveBack.accepted = l.accepted := by
  unfold giveBack
  split <;> rfl

namespace Balanced

theorem enter (h : l.Balanced) (r : Report) : (l.enter r).Balanced where
  numbered := by simp [Ledger.enter, h.numbered, List.range_succ]
  placed := by
    have placed : (l.enter r).places = l.places ++ [⟨l.accepted.length, r⟩] := by
      simp [places, Ledger.enter, delivered]
    rw [placed]
    exact h.placed.append_right _

theorem moved (h : l.Balanced) {m : Ledger} (same : m.accepted = l.accepted)
    (placed : l.places.Perm m.places) : m.Balanced where
  numbered := by rw [same]; exact h.numbered
  placed := by rw [same]; exact h.placed.trans placed

theorem note (h : l.Balanced) (e : Event) (effects : List Effect) : (l.note e effects).Balanced := by
  unfold Ledger.note
  split
  · exact h.enter _
  · exact h.moved accepted_take (by rw [places_take])
  · exact h.moved rfl .rfl
  · exact h.moved rfl (by rw [places_deliver])
  · exact h.moved rfl (by rw [places_fail])
  · exact h.moved accepted_giveBack places_giveBack
  · exact h

theorem nodup (h : l.Balanced) : (l.places.map Slip.number).Nodup := by
  have numbers := h.placed.map Slip.number
  rw [h.numbered] at numbers
  exact numbers.nodup_iff.mp List.nodup_range

end Balanced

theorem balanced_of (h : History) : (of h).Balanced := by
  induction h using List.reverseRecOn with
  | nil => exact balanced_empty
  | append_singleton h x ih =>
    rw [of_append]
    exact ih.note x.event x.effects

end Ledger

def Aggregator.Phase.hand : Aggregator.Phase → List Report
  | .draining got _ => got
  | .delivering rs _ => rs
  | .returning rest _ => rest
  | .waiting _ | .stopped => []

@[simp] theorem Aggregator.hand_resume (a : Aggregator) (now : Nat) (last : Bool) :
    (a.resume now last).phase.hand = [] := by
  cases last <;> rfl

namespace Ledger

/-- The ledger agrees with what was seen of the run and with where its reports are. -/
structure Fits (l : Ledger) (h : History) (a : Aggregator) : Prop where
  accepted : Slip.reports l.accepted = h.accepted
  attempts : l.attempts.map Slip.reports = h.attempts
  replies : (l.replies.map fun c => (Slip.reports c.1, c.2)) = h.replies
  intake : Slip.reports l.intake = a.intake
  hand : Slip.reports l.hand = a.phase.hand

variable {l : Ledger} {h : History} {a b : Aggregator} {now : Moment} {e : Event}
  {effects : List Effect}

namespace Fits

theorem delivered (fits : l.Fits h a) : Slip.reports l.delivered = h.delivered := by
  simp [Ledger.delivered, History.delivered, ← fits.replies, Slip.reports, List.map_flatMap,
    List.filter_map, List.flatMap_map, Function.comp_def]

theorem still (fits : l.Fits h a) (silent : effects.filterMap Effect.accepted? = [] ∧
      effects.filterMap Effect.delivers? = [] ∧ effects.filterMap Effect.reply? = [])
    (unnoted : l.note e effects = l) (intake : b.intake = a.intake)
    (hand : b.phase.hand = a.phase.hand) :
    (l.follow ⟨a, now, e, effects, b⟩).Fits (h ++ [⟨a, now, e, effects, b⟩]) b := by
  obtain ⟨accepted, attempts, replies⟩ := silent
  rw [follow, unnoted]
  constructor
  · simp [fits.accepted, accepted]
  · simp [fits.attempts, attempts]
  · simp [fits.replies, replies]
  · rw [fits.intake, intake]
  · rw [fits.hand, hand]

theorem nothing (fits : l.Fits h a) (intake : a.intake = []) : l.intake = [] := by
  rw [← List.map_eq_nil_iff, ← intake, ← fits.intake, Slip.reports]

theorem empty_hand (fits : l.Fits h a) (hand : a.phase.hand = []) : l.hand = [] := by
  rw [← List.map_eq_nil_iff, ← hand, ← fits.hand, Slip.reports]

theorem next (fits : l.Fits h a) (phase : a.phase = .returning (r :: rs) last) :
    ∃ s ss, l.hand = s :: ss ∧ s.report = r ∧ Slip.reports ss = rs := by
  have hand := fits.hand
  rw [phase] at hand
  exact List.map_eq_cons_iff.mp hand

theorem oldest (fits : l.Fits h a) (intake : a.intake = r :: rs) :
    ∃ s ss, l.intake = s :: ss ∧ s.report = r ∧ Slip.reports ss = rs :=
  List.map_eq_cons_iff.mp (fits.intake.trans intake)

theorem move (fits : l.Fits h a) (move : Move now a e effects b) :
    (l.follow ⟨a, now, e, effects, b⟩).Fits (h ++ [⟨a, now, e, effects, b⟩]) b := by
  cases move with
  | refuse | escalate => exact fits.still ⟨rfl, rfl, rfl⟩ rfl rfl rfl
  | elapse phase | wake phase | signal phase =>
    exact fits.still ⟨rfl, rfl, rfl⟩ rfl rfl (by rw [phase]; rfl)
  | accept =>
    constructor
    · simp [follow, note, enter, Effect.accepted?, fits.accepted]
    · simp [follow, note, enter, Effect.delivers?, fits.attempts]
    · simp [follow, note, enter, Effect.reply?, fits.replies]
    · simp [follow, note, enter, fits.intake]
    · simp [follow, note, enter, fits.hand]
  | drain phase intake =>
    obtain ⟨s, ss, oldest, rfl, rfl⟩ := fits.oldest intake
    constructor
    · simp [follow, note, fits.accepted]
    · simp [follow, note, take, oldest, fits.attempts]
    · simp [follow, note, take, oldest, fits.replies]
    · simp [follow, note, take, oldest]
    · simp [follow, note, take, oldest, fits.hand, phase, Aggregator.Phase.hand]
  | findNothing phase intake =>
    have unnoted : l.note .drain [] = l := by simp [note, take, fits.nothing intake]
    exact fits.still ⟨rfl, rfl, rfl⟩ unnoted rfl (by rw [phase, Aggregator.hand_resume]; rfl)
  | deliver phase intake =>
    have hand := fits.hand
    rw [phase] at hand
    constructor
    · simp [follow, note, attempt, Effect.accepted?, fits.accepted]
    · simp [follow, note, attempt, Effect.delivers?, fits.attempts, hand, Aggregator.Phase.hand]
    · simp [follow, note, attempt, Effect.reply?, fits.replies]
    · simp [follow, note, attempt, fits.intake]
    · simp [follow, note, attempt, hand, Aggregator.Phase.hand]
  | succeed phase =>
    have hand := fits.hand
    rw [phase] at hand
    constructor
    · simp [follow, note, Ledger.deliver, Effect.accepted?, fits.accepted]
    · simp [follow, note, Ledger.deliver, Effect.delivers?, fits.attempts]
    · simp [follow, note, Ledger.deliver, Effect.reply?, fits.replies, hand, Aggregator.Phase.hand]
    · simp [follow, note, Ledger.deliver, fits.intake]
    · simp [follow, note, Ledger.deliver]
  | fail phase =>
    have hand := fits.hand
    rw [phase] at hand
    constructor
    · simp [follow, note, Ledger.fail, Effect.accepted?, fits.accepted]
    · simp [follow, note, Ledger.fail, Effect.delivers?, fits.attempts]
    · simp [follow, note, Ledger.fail, Effect.reply?, fits.replies, hand, Aggregator.Phase.hand]
    · simp [follow, note, Ledger.fail, fits.intake]
    · simp [follow, note, Ledger.fail, hand, Aggregator.Phase.hand]
  | giveBack phase =>
    obtain ⟨s, ss, next, rfl, rfl⟩ := fits.next phase
    constructor
    · simp [follow, note, fits.accepted]
    · simp [follow, note, Ledger.giveBack, next, fits.attempts]
    · simp [follow, note, Ledger.giveBack, next, fits.replies]
    · simp [follow, note, Ledger.giveBack, next, fits.intake]
    · simp [follow, note, Ledger.giveBack, next, Aggregator.Phase.hand]
  | goOn phase =>
    have none : l.hand = [] := fits.empty_hand (by rw [phase]; rfl)
    have unnoted : l.note .giveBack [] = l := by simp [note, Ledger.giveBack, none]
    exact fits.still ⟨rfl, rfl, rfl⟩ unnoted rfl (by rw [phase, Aggregator.hand_resume]; rfl)

end Fits

theorem fits_of_run {ceiling began : Nat} (run : Run (.start ceiling began) h a) :
    (of h).Fits h a := by
  apply run.keeps
  · constructor <;> rfl
  · intro h now a e effects b fits move
    rw [of_append]
    exact fits.move move

end Ledger

end HostMonitor.Check
