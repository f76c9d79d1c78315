import HostMonitor.Posting.Scheduler

namespace HostMonitor.Posting

open HostMonitor.Metric (Batch)

def Phase.listens : Phase → Prop
  | .idle => True
  | .waiting _ _ => True
  | _ => False

namespace Scheduler

open Event Effect

inductive Move (now : Moment) (s : Scheduler) : Event → List Effect → Scheduler → Prop
  | refuse : s.ended = true → Move now s (.offer b) [refused b] s
  | accept : s.ended = false → 0 < s.queue.free →
      Move now s (.offer b) [accepted b] { s with queue := (s.queue.offer b).1 }
  | hold : s.ended = false → s.queue.free = 0 →
      Move now s (.offer b) [waits b] { s with queue := (s.queue.offer b).1 }
  | enter : s.ended = false → s.queue.enter? i = some (b, q) →
      Move now s (.enter i) [accepted b] { s with queue := q }
  | bounce : s.ended = true → s.queue.withdraw? i = some (b, q) →
      Move now s (.withdraw i) [refused b] { s with queue := q }
  | withdraw : s.ended = false → s.queue.withdraw? i = some (b, q) →
      Move now s (.withdraw i) [withdrew b] { s with queue := q }
  | signalIdle : s.phase = .idle → s.listening = true → s.mode ≠ .draining →
      Move now s .signal [] { s with mode := .draining, phase := .checking }
  | signalWaiting : s.phase = .waiting cycle t → s.listening = true → s.mode ≠ .draining →
      Move now s .signal [posts cycle] { s with mode := .draining, phase := .posting cycle }
  | force : s.phase.listens → s.listening = true → s.mode = .draining →
      Move now s .signal [] { s with phase := .stopped (.error .forcedTermination) }
  | hangUp : s.phase.listens → s.listening = true →
      Move now s .hangUp [] { s with listening := false }
  | take : s.phase = .idle → s.queue.take? = some (b, q) →
      Move now s .take [took b] { s with queue := q, phase := .merging b }
  | merge : s.phase = .merging first → s.queue.take? = some (b, q) →
      Move now s .merge [took b] { s with queue := q, phase := .choosing [first, b] }
  | alone : s.phase = .merging first → s.queue.take? = none →
      Move now s .merge [] { s with phase := .choosing [first] }
  | choose : s.phase = .choosing cycle →
      Move now s .choose [rests (s.delay now.wall.seconds)] { s with
        mode := s.mode.afterTaking (!s.queue.isEmpty)
        phase := .waiting cycle (now.uptime + (s.delay now.wall.seconds).millis) }
  | elapse : s.phase = .waiting cycle t → t ≤ now.uptime →
      Move now s .elapse [posts cycle] { s with phase := .posting cycle }
  | deliver : s.phase = .posting cycle →
      Move now s (.reply true) [delivered cycle] { s with phase := .checking }
  | fail : s.phase = .posting cycle → Move now s (.reply false) [failed cycle]
      { s with mode := s.mode.afterFailure, phase := .returning cycle }
  | overflow : s.phase = .returning (b :: rest) → b.fail? = none →
      Move now s .giveBack [] { s with phase := .overflown }
  | abandon : s.phase = .returning (b :: rest) → b.fail? = some b' →
      b'.isExhausted s.settings.retryLimit = true →
      Move now s .giveBack [abandoned b'] { s with phase := .returning rest }
  | giveBack : s.phase = .returning (b :: rest) → b.fail? = some b' →
      b'.isExhausted s.settings.retryLimit = false →
      Move now s .giveBack [gaveBack b']
        { s with queue := s.queue.giveBack b', phase := .returning rest }
  | goOn : s.phase = .returning [] → Move now s .giveBack [] { s with phase := .idle }
  | finish : s.phase = .checking → s.mode = .draining → s.queue.isEmpty = true →
      Move now s .check [] { s with phase := .stopped (.ok ()) }
  | resume : s.phase = .checking → ¬(s.mode = .draining ∧ s.queue.isEmpty = true) →
      Move now s .check [] { s with phase := .idle }

variable {now : Moment} {s t : Scheduler} {e : Event} {effects : List Effect}

theorem signalled?_of_draining {m : Mode} (h : m = .draining) : m.signalled? = none := by
  simp [Mode.signalled?, h]

theorem signalled?_of_not_draining {m : Mode} (h : m ≠ .draining) :
    m.signalled? = some .draining := by
  simp [Mode.signalled?, h]

theorem onSignal_of_draining (h : s.mode = .draining) (next : Phase) :
    s.onSignal next = { s with phase := .stopped (.error .forcedTermination) } := by
  rw [onSignal, signalled?_of_draining h]

theorem onSignal_of_not_draining (h : s.mode ≠ .draining) (next : Phase) :
    s.onSignal next = { s with mode := .draining, phase := next } := by
  rw [onSignal, signalled?_of_not_draining h]

theorem move_of_signal (h : s.step now .signal = some (t, effects)) :
    Move now s .signal effects t := by
  simp only [step] at h
  cases phase : s.phase with
  | idle =>
    simp only [stepSelf, phase, Option.ite_none_right_eq_some, Option.some.injEq] at h
    obtain ⟨listening, h⟩ := h
    by_cases draining : s.mode = .draining
    · rw [onSignal_of_draining draining] at h
      cases h
      exact .force (by simp [phase, Phase.listens]) listening draining
    · rw [onSignal_of_not_draining draining] at h
      cases h
      exact .signalIdle phase listening draining
  | waiting cycle t =>
    simp only [stepSelf, phase, Option.ite_none_right_eq_some] at h
    obtain ⟨listening, h⟩ := h
    by_cases draining : s.mode = .draining
    · rw [signalled?_of_draining draining, onSignal_of_draining draining] at h
      cases h
      exact .force (by simp [phase, Phase.listens]) listening draining
    · rw [signalled?_of_not_draining draining, onSignal_of_not_draining draining] at h
      cases h
      exact .signalWaiting phase listening draining
  | _ => simp [stepSelf, phase] at h

theorem move_of_giveBack (h : s.step now .giveBack = some (t, effects)) :
    Move now s .giveBack effects t := by
  simp only [step] at h
  cases phase : s.phase with
  | returning rest =>
    cases rest with
    | nil =>
      simp only [stepSelf, phase] at h
      cases h
      exact .goOn phase
    | cons b rest =>
      simp only [stepSelf, phase, putBack] at h
      split at h
      · next full => cases h; exact .overflow phase full
      · next b' counted =>
        split at h
        · next exhausted => cases h; exact .abandon phase counted exhausted
        · next fresh => cases h; exact .giveBack phase counted (by simpa using fresh)
  | _ => simp [stepSelf, phase] at h

theorem move_of_step (h : s.step now e = some (t, effects)) : Move now s e effects t := by
  cases e with
  | signal => exact move_of_signal h
  | giveBack => exact move_of_giveBack h
  | offer b =>
    simp only [step, stepSender] at h
    split at h
    · next ended => cases h; exact .refuse ended
    · next running =>
      have running : s.ended = false := by simpa using running
      by_cases free : 0 < s.queue.free
      · have move : Move now s (.offer b) _ _ := .accept running free
        simp only [Queue.offer, free, dite_true] at h move
        cases h
        exact move
      · have move : Move now s (.offer b) _ _ := .hold running (by omega)
        simp only [Queue.offer, free, dite_false] at h move
        cases h
        exact move
  | enter i =>
    simp only [step, stepSender, Option.bind_eq_bind, Option.bind_eq_some_iff] at h
    obtain ⟨⟨b, q⟩, found, h⟩ := h
    split at h
    · cases h
    · next running => cases h; exact .enter (by simpa using running) found
  | withdraw i =>
    simp only [step, stepSender, Option.bind_eq_bind, Option.bind_eq_some_iff] at h
    obtain ⟨⟨b, q⟩, found, h⟩ := h
    cases h
    cases ended : s.ended with
    | true => simpa using Move.bounce ended found
    | false => simpa using Move.withdraw ended found
  | hangUp =>
    simp only [step] at h
    cases phase : s.phase with
    | idle | waiting _ _ =>
      simp only [stepSelf, phase, Option.ite_none_right_eq_some] at h
      obtain ⟨listening, h⟩ := h
      cases h
      have move : Move now s .hangUp _ _ := .hangUp (by simp [phase, Phase.listens]) listening
      simpa only [phase] using move
    | _ => simp [stepSelf, phase] at h
  | take =>
    simp only [step] at h
    cases phase : s.phase with
    | idle =>
      simp only [stepSelf, phase, Option.bind_eq_bind, Option.bind_eq_some_iff] at h
      obtain ⟨⟨b, q⟩, found, h⟩ := h
      cases h
      exact .take phase found
    | _ => simp [stepSelf, phase] at h
  | merge =>
    simp only [step] at h
    cases phase : s.phase with
    | merging first =>
      simp only [stepSelf, phase] at h
      split at h
      · next b q found => cases h; exact .merge phase found
      · next none => cases h; exact .alone phase none
    | _ => simp [stepSelf, phase] at h
  | choose =>
    simp only [step] at h
    cases phase : s.phase with
    | choosing cycle => simp only [stepSelf, phase] at h; cases h; exact .choose phase
    | _ => simp [stepSelf, phase] at h
  | elapse =>
    simp only [step] at h
    cases phase : s.phase with
    | waiting cycle t =>
      simp only [stepSelf, phase, Option.ite_none_right_eq_some] at h
      obtain ⟨due, h⟩ := h
      cases h
      exact .elapse phase due
    | _ => simp [stepSelf, phase] at h
  | reply accepted =>
    simp only [step] at h
    cases phase : s.phase with
    | posting cycle =>
      cases accepted with
      | true => simp only [stepSelf, phase] at h; cases h; exact .deliver phase
      | false => simp only [stepSelf, phase] at h; cases h; exact .fail phase
    | _ => simp [stepSelf, phase] at h
  | check =>
    simp only [step] at h
    cases phase : s.phase with
    | checking =>
      simp only [stepSelf, phase] at h
      split at h
      · next done => cases h; exact .finish phase done.1 done.2
      · next more => cases h; exact .resume phase more
    | _ => simp [stepSelf, phase] at h

theorem step_of_move (move : Move now s e effects t) : s.step now e = some (t, effects) := by
  cases move with
  | refuse ended => simp [step, stepSender, ended]
  | accept running free =>
    simp only [step, stepSender, running, Bool.false_eq_true, if_false, Option.some.injEq]
    simp [Queue.offer, free]
  | hold running full =>
    simp only [step, stepSender, running, Bool.false_eq_true, if_false, Option.some.injEq]
    simp [Queue.offer, full]
  | enter running found => simp [step, stepSender, found, running]
  | bounce ended found => simp [step, stepSender, found, ended]
  | withdraw running found => simp [step, stepSender, found, running]
  | signalIdle phase listening other =>
    simp [step, stepSelf, phase, listening, onSignal_of_not_draining other]
  | signalWaiting phase listening other =>
    simp [step, stepSelf, phase, listening, signalled?_of_not_draining other,
      onSignal_of_not_draining other]
  | force listens listening draining =>
    cases phase : s.phase with
    | idle => simp [step, stepSelf, phase, listening, onSignal_of_draining draining]
    | waiting cycle t =>
      simp [step, stepSelf, phase, listening, signalled?_of_draining draining,
        onSignal_of_draining draining]
    | _ => simp [phase, Phase.listens] at listens
  | hangUp listens listening =>
    cases phase : s.phase with
    | idle | waiting cycle t => simp [step, stepSelf, phase, listening]
    | _ => simp [phase, Phase.listens] at listens
  | take phase found | merge phase found => simp [step, stepSelf, phase, found]
  | alone phase none => simp [step, stepSelf, phase, none]
  | choose phase | deliver phase | fail phase | goOn phase => simp [step, stepSelf, phase]
  | elapse phase due => simp [step, stepSelf, phase, due]
  | overflow phase full => simp [step, stepSelf, phase, putBack, full]
  | abandon phase counted exhausted =>
    simp [step, stepSelf, phase, putBack, counted, exhausted]
  | giveBack phase counted fresh => simp [step, stepSelf, phase, putBack, counted, fresh]
  | finish phase draining empty => simp [step, stepSelf, phase, draining, empty]
  | resume phase more =>
    simp only [step, stepSelf, phase]
    exact if_neg more

theorem Move.settings_eq (move : Move now s e effects t) : t.settings = s.settings := by
  cases move <;> rfl

theorem Move.waiting (move : Move now s e effects t) (phase : s.phase = .waiting cycle deadline) :
    (t.phase = s.phase ∧ t.mode = s.mode) ∨
      (e = .elapse ∧ deadline ≤ now.uptime ∧ effects = [posts cycle] ∧ t.phase = .posting cycle ∧
        t.mode = s.mode) ∨
      (e = .signal ∧ s.listening = true ∧ s.mode ≠ .draining ∧ effects = [posts cycle] ∧
        t.phase = .posting cycle ∧ t.mode = .draining) ∨
      (e = .signal ∧ s.listening = true ∧ s.mode = .draining ∧ effects = [] ∧
        t.phase = .stopped (.error .forcedTermination)) := by
  cases move <;> simp_all

end Scheduler

end HostMonitor.Posting
