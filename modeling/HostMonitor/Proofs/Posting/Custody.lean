import HostMonitor.Proofs.Posting.Ledger

namespace HostMonitor.Posting

open HostMonitor.Metric (Sample Batch)
open Scheduler (Event Effect Transition History Move Run)

def Phase.hand : Phase → List Batch
  | .merging first => [first]
  | .choosing cycle | .waiting cycle _ | .posting cycle => cycle
  | .returning rest => rest
  | .idle | .checking | .stopped _ | .overflown => []

def contents (bs : List Batch) : List (List Sample) := bs.map Batch.samples

@[simp] theorem contents_nil : contents [] = [] := rfl

@[simp] theorem contents_cons (b : Batch) (bs : List Batch) :
    contents (b :: bs) = b.samples :: contents bs := rfl

@[simp] theorem contents_append (bs cs : List Batch) :
    contents (bs ++ cs) = contents bs ++ contents cs := by simp [contents]

def shown (r : List Batch × Bool) : List (List Sample) × Bool := (contents r.1, r.2)

namespace Parcel

def contents (ps : List Parcel) : List (List Sample) := ps.map fun p => p.batch.samples

@[simp] theorem contents_nil : contents [] = [] := rfl

@[simp] theorem contents_cons (p : Parcel) (ps : List Parcel) :
    contents (p :: ps) = p.batch.samples :: contents ps := rfl

@[simp] theorem contents_append (ps qs : List Parcel) :
    contents (ps ++ qs) = contents ps ++ contents qs := by simp [contents]

theorem contents_eq_cons {ps : List Parcel} {c : List Sample} {cs : List (List Sample)}
    (h : contents ps = c :: cs) :
    ∃ p qs, ps = p :: qs ∧ p.batch.samples = c ∧ contents qs = cs :=
  List.map_eq_cons_iff.mp h

def shown (r : List Parcel × Bool) : List (List Sample) × Bool := (contents r.1, r.2)

end Parcel

namespace Ledger

open Parcel (contents_eq_cons)

/-- The ledger agrees with what was seen of the run and with where its batches are. -/
structure Fits (l : Ledger) (h : History) (s : Scheduler) : Prop where
  posts : l.posts.map Parcel.shown = h.replies.map shown
  abandoned : Parcel.contents l.abandoned = contents h.abandoned
  channel : Parcel.contents l.channel = contents s.queue.channel
  overflow : Parcel.contents l.overflow = contents s.queue.overflow
  hand : s.ended = false → Parcel.contents l.hand = contents s.phase.hand

variable {l : Ledger} {h : History} {s t : Scheduler} {now : Moment} {e : Event}
  {effects : List Effect}

theorem Fits.delivered (fits : l.Fits h s) :
    Parcel.contents l.delivered = contents h.delivered := by
  have mine : Parcel.contents l.delivered =
      ((l.posts.map Parcel.shown).filter Prod.snd).flatMap Prod.fst := by
    simp [Ledger.delivered, List.map_flatMap, List.filter_map, List.flatMap_map,
      Function.comp_def, Parcel.contents, Parcel.shown]
  have theirs : contents h.delivered =
      ((h.replies.map shown).filter Prod.snd).flatMap Prod.fst := by
    simp [contents, History.delivered, List.map_flatMap, List.filter_map, List.flatMap_map,
      Function.comp_def, shown]
  rw [mine, theirs, fits.posts]

def quiet : Effect → Bool
  | .waits _ | .withdrew _ | .refused _ | .rests _ | .posts _ => true
  | _ => false

theorem note_of_quiet {f : Effect} (h : quiet f = true) (room : Bool) : l.note room f = l := by
  cases f <;> simp [quiet, note] at h ⊢

theorem reply?_of_quiet {f : Effect} (h : quiet f = true) : f.reply? = none := by
  cases f <;> simp [quiet, Effect.reply?] at h ⊢

theorem abandoned?_of_quiet {f : Effect} (h : quiet f = true) : f.abandoned? = none := by
  cases f <;> simp [quiet, Effect.abandoned?] at h ⊢

theorem follow_of_quiet {x : Transition} (silent : ∀ f ∈ x.effects, quiet f = true) :
    l.follow x = l := by
  unfold follow
  generalize x.effects = fs at silent
  induction fs with
  | nil => rfl
  | cons f fs ih =>
    rw [List.foldl_cons, note_of_quiet (silent f (by simp))]
    exact ih fun g hg => silent g (by simp [hg])

theorem Fits.still (fits : l.Fits h s) (silent : ∀ f ∈ effects, quiet f = true)
    (channel : t.queue.channel = s.queue.channel) (overflow : t.queue.overflow = s.queue.overflow)
    (hand : t.ended = false → s.ended = false ∧ t.phase.hand = s.phase.hand) :
    (l.follow ⟨s, now, e, effects, t⟩).Fits (h ++ [⟨s, now, e, effects, t⟩]) t := by
  have replies : effects.filterMap Effect.reply? = [] :=
    List.filterMap_eq_nil_iff.mpr fun f hf => reply?_of_quiet (silent f hf)
  have abandoned : effects.filterMap Effect.abandoned? = [] :=
    List.filterMap_eq_nil_iff.mpr fun f hf => abandoned?_of_quiet (silent f hf)
  rw [follow_of_quiet silent]
  constructor
  · simp [fits.posts, replies]
  · simp [fits.abandoned, abandoned]
  · rw [fits.channel, channel]
  · rw [fits.overflow, overflow]
  · intro running
    rw [fits.hand (hand running).1, (hand running).2]

theorem Fits.entered {b : Batch} (fits : l.Fits h s)
    (channel : t.queue.channel = s.queue.channel ++ [b])
    (overflow : t.queue.overflow = s.queue.overflow) (phase : t.phase = s.phase) :
    (l.follow ⟨s, now, e, [.accepted b], t⟩).Fits (h ++ [⟨s, now, e, [.accepted b], t⟩]) t where
  posts := by simp [follow, note, enter, Effect.reply?, fits.posts]
  abandoned := by simp [follow, note, enter, Effect.abandoned?, List.filterMap, fits.abandoned]
  channel := by simp [follow, note, enter, channel, fits.channel]
  overflow := by simp [follow, note, enter, overflow, fits.overflow]
  hand running := by
    have : s.ended = false := by simpa [Scheduler.ended, phase] using running
    simpa [follow, note, enter, phase] using fits.hand this

@[simp] theorem posts_take : l.take.posts = l.posts := by
  unfold take
  split <;> rfl

@[simp] theorem abandoned_take : l.take.abandoned = l.abandoned := by
  unfold take
  split <;> rfl

theorem contents_take_of_channel {cs : List (List Sample)} {c : List Sample}
    (channel : Parcel.contents l.channel = c :: cs) : Parcel.contents l.take.channel = cs ∧
      l.take.overflow = l.overflow ∧
      Parcel.contents l.take.hand = Parcel.contents l.hand ++ [c] := by
  obtain ⟨p, ps, split, rfl, rfl⟩ := contents_eq_cons channel
  simp [take, split]

theorem contents_take_of_overflow {cs : List (List Sample)} {c : List Sample}
    (channel : Parcel.contents l.channel = []) (overflow : Parcel.contents l.overflow = c :: cs) :
    Parcel.contents l.take.channel = [] ∧ Parcel.contents l.take.overflow = cs ∧
      Parcel.contents l.take.hand = Parcel.contents l.hand ++ [c] := by
  have channel : l.channel = [] := List.map_eq_nil_iff.mp channel
  obtain ⟨p, ps, split, rfl, rfl⟩ := contents_eq_cons overflow
  simp [take, channel, split]

theorem Fits.taken {b : Batch} (fits : l.Fits h s) (found : s.queue.take? = some (b, t.queue))
    (running : s.ended = false) (hand : t.phase.hand = s.phase.hand ++ [b]) :
    (l.follow ⟨s, now, e, [.took b], t⟩).Fits (h ++ [⟨s, now, e, [.took b], t⟩]) t := by
  have moved : Parcel.contents l.take.channel = contents t.queue.channel ∧
      Parcel.contents l.take.overflow = contents t.queue.overflow ∧
      Parcel.contents l.take.hand = Parcel.contents l.hand ++ [b.samples] := by
    have channel := fits.channel
    have overflow := fits.overflow
    rcases Queue.take?_cases found with ⟨channel', overflow'⟩ | ⟨empty, empty', overflow'⟩
    · rw [channel', contents_cons] at channel
      obtain ⟨h₁, h₂, h₃⟩ := contents_take_of_channel channel
      exact ⟨h₁, by rw [h₂, overflow, overflow'], h₃⟩
    · rw [empty] at channel
      rw [overflow', contents_cons] at overflow
      obtain ⟨h₁, h₂, h₃⟩ := contents_take_of_overflow channel overflow
      exact ⟨by rw [h₁, empty']; rfl, h₂, h₃⟩
  exact {
    posts := by simp [follow, note, Effect.reply?, List.filterMap, fits.posts]
    abandoned := by simp [follow, note, Effect.abandoned?, List.filterMap, fits.abandoned]
    channel := moved.1
    overflow := moved.2.1
    hand := fun _ => moved.2.2.trans (by simp [hand, fits.hand running]) }

theorem Fits.next {b : Batch} {rest : List Batch} (fits : l.Fits h s)
    (phase : s.phase = .returning (b :: rest)) :
    ∃ p ps, l.hand = p :: ps ∧ p.batch.samples = b.samples ∧
      Parcel.contents ps = contents rest := by
  have hand := fits.hand (by simp [phase, Scheduler.ended])
  rw [phase] at hand
  exact contents_eq_cons hand

theorem Fits.move (fits : l.Fits h s) (move : Move now s e effects t) :
    (l.follow ⟨s, now, e, effects, t⟩).Fits (h ++ [⟨s, now, e, effects, t⟩]) t := by
  cases move with
  | refuse ended => exact fits.still (by simp [quiet]) rfl rfl fun h => ⟨h, rfl⟩
  | hold running full =>
    exact fits.still (by simp [quiet]) (Queue.channel_offer_of_full full) Queue.overflow_offer
      fun h => ⟨h, rfl⟩
  | bounce ended found | withdraw running found =>
    exact fits.still (by simp [quiet]) (Queue.channel_withdraw? found)
      (Queue.overflow_withdraw? found) fun h => ⟨h, rfl⟩
  | signalIdle phase | signalWaiting phase | alone phase | choose phase | elapse phase | goOn phase
  | finish phase | resume phase =>
    exact fits.still (by simp [quiet]) rfl rfl fun _ => by
      simp [phase, Scheduler.ended, Phase.hand]
  | hangUp => exact fits.still (by simp [quiet]) rfl rfl fun h => ⟨h, rfl⟩
  | force | overflow =>
    exact fits.still (by simp [quiet]) rfl rfl fun h => by simp [Scheduler.ended] at h
  | accept running free =>
    exact fits.entered (Queue.channel_offer free) Queue.overflow_offer rfl
  | enter running found =>
    exact fits.entered (Queue.channel_enter? found) (Queue.overflow_enter? found) rfl
  | take phase found =>
    exact fits.taken found (by simp [phase, Scheduler.ended]) (by simp [phase, Phase.hand])
  | merge phase found =>
    exact fits.taken found (by simp [phase, Scheduler.ended]) (by simp [phase, Phase.hand])
  | deliver phase =>
    have hand := fits.hand (by simp [phase, Scheduler.ended])
    exact {
      posts := by
        simp [follow, note, deliver, Effect.reply?, fits.posts, Parcel.shown, shown, hand, phase,
          Phase.hand]
      abandoned := by
        simp [follow, note, deliver, Effect.abandoned?, List.filterMap, fits.abandoned]
      channel := fits.channel
      overflow := fits.overflow
      hand := fun _ => rfl }
  | fail phase =>
    have hand := fits.hand (by simp [phase, Scheduler.ended])
    exact {
      posts := by
        simp [follow, note, fail, Effect.reply?, fits.posts, Parcel.shown, shown, hand, phase,
          Phase.hand]
      abandoned := by
        simp [follow, note, fail, Effect.abandoned?, List.filterMap, fits.abandoned]
      channel := fits.channel
      overflow := fits.overflow
      hand := fun _ => by simpa [follow, note, fail, phase, Phase.hand] using hand }
  | abandon phase counted exhausted =>
    obtain ⟨p, ps, split, head, tail⟩ := fits.next phase
    exact {
      posts := by
        simp [follow, note, abandon, split, Effect.reply?, List.filterMap, fits.posts]
      abandoned := by
        simp [follow, note, abandon, split, Effect.abandoned?, fits.abandoned, head,
          Batch.samples_of_fail? counted]
      channel := by simpa [follow, note, abandon, split] using fits.channel
      overflow := by simpa [follow, note, abandon, split] using fits.overflow
      hand := fun _ => by simpa [follow, note, abandon, split, Phase.hand] using tail }
  | giveBack phase counted fresh =>
    obtain ⟨p, ps, split, head, tail⟩ := fits.next phase
    have samples := Batch.samples_of_fail? counted
    -- The ledger is told of the room that the queue has, so both choose the same list.
    by_cases free : 0 < s.queue.free
    · exact {
        posts := by
          simp [follow, note, giveBack, split, free, Effect.reply?, List.filterMap, fits.posts]
        abandoned := by
          simp [follow, note, giveBack, split, free, Effect.abandoned?, List.filterMap,
            fits.abandoned]
        channel := by
          simp [follow, note, giveBack, split, free, Queue.channel_giveBack, fits.channel, head,
            samples]
        overflow := by
          simp [follow, note, giveBack, split, free, Queue.overflow_giveBack, fits.overflow]
        hand := fun _ => by simpa [follow, note, giveBack, split, free, Phase.hand] using tail }
    · exact {
        posts := by
          simp [follow, note, giveBack, split, free, Effect.reply?, List.filterMap, fits.posts]
        abandoned := by
          simp [follow, note, giveBack, split, free, Effect.abandoned?, List.filterMap,
            fits.abandoned]
        channel := by
          simp [follow, note, giveBack, split, free, Queue.channel_giveBack_of_full, fits.channel]
        overflow := by
          simp [follow, note, giveBack, split, free, Queue.overflow_giveBack_of_full,
            fits.overflow, head, samples]
        hand := fun _ => by simpa [follow, note, giveBack, split, free, Phase.hand] using tail }

theorem Fits.held (fits : l.Fits h s) :
    Parcel.contents (l.channel ++ l.overflow) = contents s.queue.held := by
  simp [Queue.held, fits.channel, fits.overflow]

theorem Fits.left (fits : l.Fits h s) (running : s.ended = false) :
    Parcel.contents l.left = contents (s.phase.hand ++ s.queue.held) := by
  have held := fits.held
  simp only [Parcel.contents_append] at held
  simp [Ledger.left, fits.hand running, held]

theorem Fits.conserved (fits : (of h).Fits h s) (running : s.ended = false) :
    (contents h.accepted).Perm
      (contents (h.delivered ++ h.abandoned ++ s.phase.hand ++ s.queue.held)) := by
  have accepted : contents h.accepted = Parcel.contents (of h).accepted := by
    simp [← accepted_of h, contents, Parcel.contents]
  have places : Parcel.contents (of h).places =
      contents (h.delivered ++ h.abandoned ++ s.phase.hand ++ s.queue.held) := by
    simp [places, fits.delivered, fits.abandoned, fits.left running]
  rw [accepted, ← places]
  exact (balanced_of h).placed.map _

theorem foldl_follow_of_quiet {k : History} (silent : ∀ f ∈ k.effects, quiet f = true) :
    k.foldl follow l = l := by
  induction k with
  | nil => rfl
  | cons x k ih =>
    rw [List.foldl_cons, follow_of_quiet fun f hf => silent f (by simp [hf])]
    exact ih fun f hf => silent f (by simp [hf])

end Ledger

section

variable {settings : Settings} {offset : Span} {capacity : Nat} {queue : Queue}
  {h : History} {s : Scheduler}

theorem Ledger.fits_of_run (built : Queue.ofCapacity? capacity = some queue)
    (run : Run (.start settings offset queue) h s) : (Ledger.of h).Fits h s := by
  apply run.invariant
  · obtain ⟨channel, -, overflow⟩ := Queue.empty_of_ofCapacity? built
    constructor <;> simp [Ledger.empty, Scheduler.start, channel, overflow, Phase.hand]
  · intro h t now e effects u run fits move
    rw [Ledger.of_append]
    exact fits.move move

theorem Ledger.closed (run : Run (.start settings offset queue) h s) (halted : s.ended = true) :
    ∃ h₁ x h₂, h = h₁ ++ x :: h₂ ∧ Run (.start settings offset queue) h₁ x.source ∧
      Move x.now x.source x.event x.effects x.target ∧ x.source.ended = false ∧
      x.target.ended = true ∧ x.target.phase = s.phase ∧ Ledger.of h = Ledger.of h₁ := by
  obtain ⟨h₁, x, h₂, rfl, first, move, running, halted, phase, -, silent⟩ := run.closing rfl halted
  refine ⟨h₁, x, h₂, rfl, first, move, running, halted, phase, ?_⟩
  rw [Ledger.of_concat]
  apply Ledger.foldl_follow_of_quiet
  intro f hf
  obtain ⟨b, rfl⟩ := silent f hf
  rfl

theorem Ledger.left_at_end (built : Queue.ofCapacity? capacity = some queue)
    (run : Run (.start settings offset queue) h s) (halted : s.ended = true) :
    ∃ x ∈ h, Move x.now x.source x.event x.effects x.target ∧ x.source.ended = false ∧
      x.target.ended = true ∧ x.target.phase = s.phase ∧
      Parcel.contents (Ledger.of h).left =
        contents (x.source.phase.hand ++ x.source.queue.held) := by
  obtain ⟨h₁, x, h₂, rfl, first, move, running, halted', phase, still⟩ := Ledger.closed run halted
  refine ⟨x, by simp, move, running, halted', phase, ?_⟩
  rw [still]
  exact (Ledger.fits_of_run built first).left running

/-- Where the batches of a run are. Before the end, the accepted ones are those delivered,
abandoned, in hand and queued, each with its samples. The ledger, which numbers them, has each in
one place and in no second one, so that none is part of two successful posts. Nothing is left after
a good end, and after a forced one what was in hand or queued when it came. -/
structure Accounted (h : History) (s : Scheduler) : Prop where
  conserved : s.ended = false → (contents h.accepted).Perm
    (contents (h.delivered ++ h.abandoned ++ s.phase.hand ++ s.queue.held))
  numbered : (Ledger.of h).accepted.map Parcel.batch = h.accepted
  placed : (Ledger.of h).accepted.Perm (Ledger.of h).places
  once : ((Ledger.of h).places.map Parcel.number).Nodup
  fits : (Ledger.of h).Fits h s
  drained : s.phase = .stopped (.ok ()) → (Ledger.of h).left = [] ∧ s.queue.held = []
  forced : ∀ f, s.phase = .stopped (.error f) → ∃ x ∈ h, x.source.ended = false ∧
    x.target.phase = s.phase ∧ Parcel.contents (Ledger.of h).left =
      contents (x.source.phase.hand ++ x.source.queue.held)

theorem every_batch_accounted_for (built : Queue.ofCapacity? capacity = some queue)
    (run : Run (.start settings offset queue) h s) : Accounted h s where
  conserved := (Ledger.fits_of_run built run).conserved
  numbered := Ledger.accepted_of h
  placed := (Ledger.balanced_of h).placed
  once := (Ledger.balanced_of h).nodup
  fits := Ledger.fits_of_run built run
  drained ok := by
    obtain ⟨x, -, move, running, halted, phase, left⟩ :=
      Ledger.left_at_end built run (by simp [Scheduler.ended, ok])
    rw [ok] at phase
    obtain ⟨-, -, ⟨checking, -, empty, -⟩ | ⟨-, -, -, forced⟩ | overflown⟩ :=
      move.ending running halted
    · rw [checking, empty] at left
      have left : (Ledger.of h).left = [] := List.map_eq_nil_iff.mp left
      have held := (Ledger.fits_of_run built run).held
      rw [Ledger.left, List.append_assoc, List.append_eq_nil_iff] at left
      rw [left.2] at held
      exact ⟨by rw [Ledger.left, List.append_assoc, left.1, left.2]; rfl,
        List.map_eq_nil_iff.mp held.symm⟩
    · simp [phase] at forced
    · simp [phase] at overflown
  forced f error := by
    obtain ⟨x, mem, -, running, -, phase, left⟩ :=
      Ledger.left_at_end built run (by simp [Scheduler.ended, error])
    exact ⟨x, mem, running, phase, left⟩

theorem batches_of_a_trial_accounted_for : ∃ h s, Run Scheduler.trial h s ∧
    s.phase = .stopped (.ok ()) ∧ h.accepted = [Scheduler.reading, Scheduler.reading] ∧
    Accounted h s := by
  obtain ⟨h, s, run, seen⟩ := Run.of_play Scheduler.trial (Scheduler.atOnce [
    .offer Scheduler.reading, .offer Scheduler.reading, .take, .enter 0, .merge, .choose, .elapse,
    .reply false, .giveBack, .giveBack, .giveBack, .take, .merge, .choose, .signal, .reply true,
    .check]) (fun r => (r.2.phase, r.1.accepted)) rfl
  simp only [Prod.mk.injEq] at seen
  have built : Queue.ofCapacity? 1 = some _ := rfl
  exact ⟨h, s, run, seen.1, seen.2, every_batch_accounted_for built run⟩

end

end HostMonitor.Posting
