import HostMonitor.Proofs.Posting.Run

namespace HostMonitor.Posting

open Scheduler (Event Effect Transition History Move Run)

structure Cycle : Type where
  signalled : Bool
  begun : Moment
  more : Bool
  delay : Span

structure Chronicle : Type where
  signalled : Bool
  opened : Bool
  cycles : List Cycle
  verdicts : List Bool

namespace Chronicle

def empty : Chronicle := ⟨false, false, [], []⟩

def signal (c : Chronicle) : Chronicle := { c with signalled := true }

def take (c : Chronicle) : Chronicle := { c with opened := c.signalled }

def choose (c : Chronicle) (now : Moment) (more : Bool) (delay : Span) : Chronicle :=
  { c with cycles := c.cycles ++ [⟨c.opened, now, more, delay⟩] }

def reply (c : Chronicle) (accepted : Bool) : Chronicle :=
  { c with verdicts := c.verdicts ++ [accepted] }

def follow (c : Chronicle) (x : Transition) : Chronicle :=
  match x.event, x.effects with
  | .signal, _ => c.signal
  | .take, _ => c.take
  | .choose, [.rests delay] => c.choose x.now (!x.source.queue.isEmpty) delay
  | .reply accepted, _ => c.reply accepted
  | _, _ => c

def of (h : History) : Chronicle := h.foldl follow empty

@[simp] theorem of_append (h : History) (x : Transition) : of (h ++ [x]) = (of h).follow x := by
  simp [of]

theorem follow_of_isSend {x : Transition} (h : x.event.isSend = true) (c : Chronicle) :
    c.follow x = c := by
  obtain ⟨source, now, e, effects, target⟩ := x
  cases e <;> simp [Event.isSend, follow] at h ⊢

/-- The delay that the history dictates to its cycle `k`, the `n`-th one after the first. -/
def dictated (c : Chronicle) (settings : Settings) (offset : Span) (n : Nat) (k : Cycle) : Span :=
  if k.signalled then .ofSeconds 1
  else
    match n with
    | 0 => .zero
    | n + 1 =>
      if c.verdicts[n]? = some false then settings.retryDelay
      else if c.cycles[n]?.map Cycle.more = some true then settings.backlogDelay
      else untilOffset offset settings.interval k.begun.wall.seconds

def modeAt (c : Chronicle) : Nat → Mode
  | 0 => .first
  | n + 1 =>
    if c.verdicts[n]? = some false then .failed
    else if c.cycles[n]?.map Cycle.more = some true then .backlog
    else .regular

def mode (c : Chronicle) : Mode := if c.signalled then .draining else c.modeAt c.cycles.length

variable {c : Chronicle}

theorem dictated_eq (settings : Settings) (offset : Span) (n : Nat) (k : Cycle) :
    c.dictated settings offset n k = settings.delay offset k.begun.wall.seconds
      (if k.signalled then .draining else c.modeAt n) := by
  unfold dictated
  split
  · rfl
  · cases n with
    | zero => rfl
    | succ n =>
      simp only [modeAt]
      split
      · rfl
      · split <;> rfl

theorem modeAt_ne_draining (c : Chronicle) (n : Nat) : c.modeAt n ≠ .draining := by
  unfold modeAt
  split
  · nofun
  · split
    · nofun
    · split <;> nofun

@[simp] theorem signalled_choose : (c.choose now more delay).signalled = c.signalled := rfl

@[simp] theorem length_choose :
    (c.choose now more delay).cycles.length = c.cycles.length + 1 := by simp [choose]

@[simp] theorem signalled_reply : (c.reply accepted).signalled = c.signalled := rfl

@[simp] theorem cycles_reply : (c.reply accepted).cycles = c.cycles := rfl

theorem modeAt_choose (h : n ≤ c.cycles.length) :
    (c.choose now more delay).modeAt n = c.modeAt n := by
  cases n with
  | zero => rfl
  | succ n => simp only [modeAt, choose, List.getElem?_append_left h]

theorem modeAt_reply (h : n ≤ c.verdicts.length) : (c.reply accepted).modeAt n = c.modeAt n := by
  cases n with
  | zero => rfl
  | succ n =>
    simp only [modeAt, reply, List.getElem?_append_left h]
    rfl

theorem mode_choose (answered : c.cycles.length = c.verdicts.length) :
    (c.choose now more delay).mode = c.mode.afterTaking more := by
  have chosen : (c.choose now more delay).modeAt (c.cycles.length + 1) =
      if more then .backlog else .regular := by
    have unanswered : c.verdicts[c.cycles.length]? = none := List.getElem?_eq_none (by omega)
    simp [modeAt, choose, unanswered]
  by_cases signalled : c.signalled = true
  · simp [mode, signalled, Mode.afterTaking]
  · simp [mode, signalled, Mode.afterTaking, modeAt_ne_draining, chosen]

theorem mode_deliver (posted : c.cycles.length = c.verdicts.length + 1) :
    (c.reply true).mode = c.mode := by
  have delivered : (c.reply true).modeAt c.cycles.length = c.modeAt c.cycles.length := by
    simp [posted, modeAt, reply]
  simp [mode, delivered]

theorem mode_fail (posted : c.cycles.length = c.verdicts.length + 1) :
    (c.reply false).mode = c.mode.afterFailure := by
  have failed : (c.reply false).modeAt c.cycles.length = .failed := by
    simp [posted, modeAt, reply]
  by_cases signalled : c.signalled = true
  · simp [mode, signalled, Mode.afterFailure]
  · simp [mode, signalled, Mode.afterFailure, modeAt_ne_draining, failed]

end Chronicle

namespace Phase

def Gathers : Phase → Prop
  | .merging _ | .choosing _ => True
  | _ => False

def pending : Phase → Nat
  | .waiting _ _ | .posting _ => 1
  | _ => 0

end Phase

variable {c : Chronicle} {h : History} {s t : Scheduler} {now : Moment} {e : Event}
  {effects : List Effect} {settings : Settings} {offset : Span} {queue : Queue}

/-- The scheduler is where its chronicle says. -/
structure Agrees (settings : Settings) (offset : Span) (c : Chronicle) (s : Scheduler) : Prop where
  settings_eq : s.settings = settings
  offset_eq : s.offset = offset
  mode : s.mode = c.mode
  opened : s.phase.Gathers → c.opened = c.signalled
  answered : c.verdicts.length ≤ c.cycles.length ∧ c.cycles.length ≤ c.verdicts.length + 1
  pending : s.ended = false → c.cycles.length = c.verdicts.length + s.phase.pending
  delays : ∀ {n k}, c.cycles[n]? = some k → k.delay = c.dictated settings offset n k

namespace Agrees

theorem carry (agrees : Agrees settings offset c s) {d : Chronicle} (cycles : d.cycles = c.cycles)
    (verdicts : d.verdicts = c.verdicts) (same : t.settings = s.settings ∧ t.offset = s.offset)
    (mode : t.mode = d.mode) (opened : t.phase.Gathers → d.opened = d.signalled)
    (pending : t.ended = false → s.ended = false ∧ t.phase.pending = s.phase.pending) :
    Agrees settings offset d t where
  settings_eq := same.1.trans agrees.settings_eq
  offset_eq := same.2.trans agrees.offset_eq
  mode := mode
  opened := opened
  answered := by
    rw [cycles, verdicts]
    exact agrees.answered
  pending running := by
    rw [cycles, verdicts, agrees.pending (pending running).1, (pending running).2]
  delays found := by
    rw [cycles] at found
    rw [agrees.delays found]
    simp only [Chronicle.dictated, cycles, verdicts]

theorem still (agrees : Agrees settings offset c s)
    (same : t.settings = s.settings ∧ t.offset = s.offset ∧ t.mode = s.mode)
    (gathers : t.phase.Gathers → s.phase.Gathers)
    (pending : t.ended = false → s.ended = false ∧ t.phase.pending = s.phase.pending) :
    Agrees settings offset c t :=
  agrees.carry rfl rfl ⟨same.1, same.2.1⟩ (same.2.2.trans agrees.mode)
    (fun gathering => agrees.opened (gathers gathering)) pending

theorem choose (agrees : Agrees settings offset c s) (phase : s.phase = .choosing cycle)
    (more : Bool) : Agrees settings offset (c.choose now more (s.delay now.wall.seconds))
      { s with mode := s.mode.afterTaking more, phase := .waiting cycle deadline } := by
  have answered : c.cycles.length = c.verdicts.length := by
    simpa [phase, Phase.pending] using agrees.pending (by simp [Scheduler.ended, phase])
  have opened : c.opened = c.signalled := agrees.opened (by simp [phase, Phase.Gathers])
  constructor
  case settings_eq => exact agrees.settings_eq
  case offset_eq => exact agrees.offset_eq
  case mode => simp only [Chronicle.mode_choose answered, agrees.mode]
  case opened => exact False.elim
  case answered => simp [Chronicle.choose, answered]
  case pending => simp [Chronicle.choose, answered, Phase.pending]
  case delays =>
    intro n k found
    rw [Chronicle.dictated_eq]
    by_cases old : n < c.cycles.length
    -- An older cycle looks only at what the chronicle held when it began.
    · rw [Chronicle.choose, List.getElem?_append_left old] at found
      rw [agrees.delays found, Chronicle.dictated_eq, Chronicle.modeAt_choose (by omega)]
    -- The new one begins in the mode of the scheduler, which the chronicle tells.
    · obtain ⟨bound, -⟩ := List.getElem?_eq_some_iff.mp found
      obtain rfl : n = c.cycles.length := by
        rw [Chronicle.length_choose] at bound
        omega
      simp only [Chronicle.choose, List.getElem?_concat_length, Option.some.injEq] at found
      subst found
      rw [Chronicle.modeAt_choose (Nat.le_refl _), Scheduler.delay, agrees.settings_eq,
        agrees.offset_eq, agrees.mode, Chronicle.mode, opened]

theorem posted (agrees : Agrees settings offset c s) (phase : s.phase = .posting cycle) :
    c.cycles.length = c.verdicts.length + 1 := by
  simpa [phase, Phase.pending] using agrees.pending (by simp [Scheduler.ended, phase])

theorem reply (agrees : Agrees settings offset c s) (phase : s.phase = .posting cycle)
    (accepted : Bool) (mode : t.mode = (c.reply accepted).mode)
    (same : t.settings = s.settings) (same' : t.offset = s.offset)
    (gathers : ¬t.phase.Gathers) (answered : t.phase.pending = 0) :
    Agrees settings offset (c.reply accepted) t := by
  have posted := agrees.posted phase
  constructor
  case settings_eq => exact same.trans agrees.settings_eq
  case offset_eq => exact same'.trans agrees.offset_eq
  case mode => exact mode
  case opened => exact fun gathering => absurd gathering gathers
  case answered => simp [Chronicle.reply, posted]
  case pending => simp [Chronicle.reply, posted, answered]
  case delays =>
    intro n k found
    have old : n < c.cycles.length := (List.getElem?_eq_some_iff.mp found).1
    rw [agrees.delays found, Chronicle.dictated_eq, Chronicle.dictated_eq,
      Chronicle.modeAt_reply (by omega)]

theorem move (agrees : Agrees settings offset c s) (move : Move now s e effects t) :
    Agrees settings offset (c.follow ⟨s, now, e, effects, t⟩) t := by
  by_cases sends : e.isSend = true
  · rw [Chronicle.follow_of_isSend sends]
    obtain ⟨q, rfl, -⟩ := move.send sends
    exact agrees.still ⟨rfl, rfl, rfl⟩ id fun running => ⟨running, rfl⟩
  cases move with
  | signalIdle phase | signalWaiting phase =>
    exact agrees.carry (d := c.signal) rfl rfl ⟨rfl, rfl⟩ rfl False.elim fun _ => by
      simp [Scheduler.ended, phase, Phase.pending]
  | force listens listening draining =>
    exact agrees.carry (d := c.signal) rfl rfl ⟨rfl, rfl⟩ draining False.elim
      (by simp [Scheduler.ended])
  | hangUp => exact agrees.still ⟨rfl, rfl, rfl⟩ id fun running => ⟨running, rfl⟩
  | take phase =>
    exact agrees.carry (d := c.take) rfl rfl ⟨rfl, rfl⟩ agrees.mode (fun _ => rfl) fun _ => by
      simp [Scheduler.ended, phase, Phase.pending]
  | merge phase | alone phase =>
    exact agrees.still ⟨rfl, rfl, rfl⟩ (by simp [phase, Phase.Gathers]) fun _ => by
      simp [Scheduler.ended, phase, Phase.pending]
  | choose phase => exact agrees.choose phase _
  | elapse phase =>
    exact agrees.still ⟨rfl, rfl, rfl⟩ False.elim fun _ => by
      simp [Scheduler.ended, phase, Phase.pending]
  | deliver phase =>
    refine agrees.reply phase true ?_ rfl rfl id rfl
    rw [Chronicle.mode_deliver (agrees.posted phase), agrees.mode]
  | fail phase =>
    refine agrees.reply phase false ?_ rfl rfl id rfl
    rw [Chronicle.mode_fail (agrees.posted phase), agrees.mode]
  | overflow => exact agrees.still ⟨rfl, rfl, rfl⟩ False.elim (by simp [Scheduler.ended])
  | abandon phase | giveBack phase | goOn phase | finish phase | resume phase =>
    exact agrees.still ⟨rfl, rfl, rfl⟩ False.elim fun _ => by
      simp [Scheduler.ended, phase, Phase.pending]
  | _ => simp [Event.isSend] at sends

theorem of_run (run : Run (.start settings offset queue) h s) :
    Agrees settings offset (Chronicle.of h) s := by
  apply run.invariant
  · constructor <;> simp [Scheduler.start, Chronicle.of, Chronicle.empty, Chronicle.mode,
      Chronicle.modeAt, Phase.pending, Phase.Gathers]
  · intro h t now e effects u run agrees move
    rw [Chronicle.of_append]
    exact agrees.move move

end Agrees

theorem Scheduler.Move.chosen (move : Move now s .choose effects t) : ∃ delay cycle,
    effects = [.rests delay] ∧ t.phase = .waiting cycle (now.uptime + delay.millis) := by
  cases move with
  | choose phase => exact ⟨_, _, rfl, rfl⟩

/-- How long the cycles of a run wait. Each delay is the one that the history dictates, where every
cycle but the current one has a reply. Batches that arrive change nothing but the queue, and nothing
of what dictates the delays. A wait goes on until its deadline, when the post is made, or until a
signal. The first signal makes the post at once, a second one ends the run. -/
structure Paced (settings : Settings) (offset : Span) (h : History) : Prop where
  delays : ∀ {n k}, (Chronicle.of h).cycles[n]? = some k →
    k.delay = (Chronicle.of h).dictated settings offset n k
  answered : (Chronicle.of h).verdicts.length ≤ (Chronicle.of h).cycles.length ∧
    (Chronicle.of h).cycles.length ≤ (Chronicle.of h).verdicts.length + 1
  deadline : ∀ x ∈ h, x.event = .choose → ∃ delay cycle, x.effects = [.rests delay] ∧
    x.target.phase = .waiting cycle (x.now.uptime + delay.millis)
  arrivals : ∀ x ∈ h, x.event.isSend = true →
    (∃ q, x.target = { x.source with queue := q }) ∧ ∀ c : Chronicle, c.follow x = c
  waits : ∀ x ∈ h, ∀ {cycle deadline}, x.source.phase = .waiting cycle deadline →
    (x.target.phase = x.source.phase ∧ x.target.mode = x.source.mode) ∨
      (x.event = .elapse ∧ deadline ≤ x.now.uptime ∧ x.effects = [.posts cycle] ∧
        x.target.phase = .posting cycle) ∨
      (x.event = .signal ∧ x.source.mode ≠ .draining ∧ x.effects = [.posts cycle] ∧
        x.target.phase = .posting cycle) ∨
      (x.event = .signal ∧ x.source.mode = .draining ∧ x.effects = [] ∧
        x.target.phase = .stopped (.error .forcedTermination))

theorem paced_by_history (run : Run (.start settings offset queue) h s) :
    Paced settings offset h where
  delays := (Agrees.of_run run).delays
  answered := (Agrees.of_run run).answered
  deadline x hx choose := by
    have move := run.move hx
    rw [choose] at move
    exact move.chosen
  arrivals x hx sends := by
    obtain ⟨q, target, -⟩ := (run.move hx).send sends
    exact ⟨⟨q, target⟩, Chronicle.follow_of_isSend sends⟩
  waits x hx cycle deadline phase := by
    rcases (run.move hx).waiting phase with same | ⟨elapse, due, posts, posting, -⟩ |
      ⟨signal, -, other, posts, posting, -⟩ | ⟨signal, -, draining, silent, forced⟩
    · exact .inl same
    · exact .inr (.inl ⟨elapse, due, posts, posting⟩)
    · exact .inr (.inr (.inl ⟨signal, other, posts, posting⟩))
    · exact .inr (.inr (.inr ⟨signal, draining, silent, forced⟩))

theorem trial_of_three_cycles_paced : ∃ h s, Run Scheduler.trial h s ∧
    (Chronicle.of h).cycles.map Cycle.delay = [.zero, .ofSeconds 60, .ofSeconds 1] ∧
    Paced ⟨.ofSeconds 30, .ofSeconds 60, 1, .ofSeconds 60⟩ (.ofSeconds 20) h := by
  obtain ⟨h, s, run, seen⟩ := Run.of_play Scheduler.trial (Scheduler.atOnce [
    .offer Scheduler.reading, .take, .merge, .choose, .elapse, .reply false, .giveBack, .giveBack,
    .take, .merge, .choose, .offer Scheduler.reading, .signal, .reply true, .check, .take, .merge,
    .choose]) (fun r => (Chronicle.of r.1).cycles.map Cycle.delay) rfl
  exact ⟨h, s, run, seen, paced_by_history run⟩

/-- A second signal cuts a wait, and nothing is posted. -/
theorem second_signal_makes_no_post : ¬∀ h s, Run Scheduler.trial h s → ∀ x ∈ h,
    ∀ cycle deadline, x.source.phase = .waiting cycle deadline → x.event = .signal →
      x.effects = [.posts cycle] := by
  intro posted
  obtain ⟨h, s, run, seen⟩ := Run.of_play Scheduler.trial (Scheduler.atOnce [
    .offer Scheduler.reading, .take, .merge, .choose, .signal, .reply false, .giveBack, .giveBack,
    .take, .merge, .choose, .signal])
    (fun r => r.1.getLast?.map fun x => (x.source.phase, x.event, x.effects)) rfl
  obtain ⟨x, last, shown⟩ := Option.map_eq_some_iff.mp seen
  simp only [Prod.mk.injEq] at shown
  obtain ⟨phase, signal, silent⟩ := shown
  have := posted h s run x (List.mem_of_getLast? last) _ _ phase signal
  rw [silent] at this
  cases this

end HostMonitor.Posting
