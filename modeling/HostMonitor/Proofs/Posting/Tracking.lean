import HostMonitor.Proofs.Posting.Flow

namespace HostMonitor.Posting

open HostMonitor.Metric (Batch Finding Snapshot Producer)

def producing? : Producer.Phase → Option Snapshot
  | .sending s => some s
  | _ => none

def Ingestor.Phase.sending? : Ingestor.Phase → Option Batch
  | .sending b => some b
  | _ => none

namespace Scheduler

variable {now : Moment} {s t : Scheduler} {b : Batch} {e : Event} {effects : List Effect}

theorem Move.waiting_enter (move : Move now s (.enter 0) [.accepted b] t) :
    s.queue.waiting = b :: t.queue.waiting := by
  cases move with
  | enter running found => exact Queue.waiting_enter?_zero found

theorem Move.withdrawn (move : Move now s (.withdraw i) effects t) :
    effects.filterMap Effect.accepted? = [] ∧
      t.queue.waiting = s.queue.waiting.eraseIdx i := by
  cases move with
  | bounce ended found | withdraw running found =>
    exact ⟨rfl, (Queue.waiting_withdraw? found).2⟩

theorem Move.silent (move : Move now s e effects t) (sends : e.isSend = true) :
    effects.filterMap Effect.posts? = [] ∧ effects.filterMap Effect.reply? = [] := by
  cases move <;> first | exact ⟨rfl, rfl⟩ | cases sends

theorem Move.own (move : Move now s e effects t) (own : e.isSend = false) :
    effects.filterMap Effect.accepted? = [] ∧ t.queue.waiting = s.queue.waiting ∧
      (effects.filterMap Effect.reply?).map Prod.snd = e.verdict?.toList := by
  cases move with
  | refuse | accept | hold | enter | bounce | withdraw => cases own
  | take phase found | merge phase found => exact ⟨rfl, Queue.waiting_take? found, rfl⟩
  | giveBack => exact ⟨rfl, Queue.waiting_giveBack, rfl⟩
  | _ => exact ⟨rfl, rfl, rfl⟩

end Scheduler

namespace Pipeline

variable {now : Moment} {p q : Pipeline} {e : Event} {effects : List Effect}

def underway (p : Pipeline) : List Batch :=
  p.ingestor.phase.sending?.toList ++
    (p.handed.toList ++ (producing? p.producer.phase).toList).map p.nextBatch

/-- How the scheduler's part of a run follows from what the collectors gave. -/
structure Tracked (hostId : String) (hosts : CustomHosts) (h : History) (k : Scheduler.History)
    (p : Pipeline) : Prop where
  owner : p.ingestor.hostId = hostId ∧ p.ingestor.hosts = hosts
  posts : k.posted = h.posts
  verdicts : k.replies.map Prod.snd = h.verdicts
  waiting : p.scheduler.queue.waiting = p.ingestor.phase.sending?.toList
  chain : (k.accepted ++ p.underway).Sublist (h.ticks.map fun t => batchOf hostId hosts t.snapshot)
  filled : ∀ b ∈ k.accepted ++ p.ingestor.phase.sending?.toList, b.samples ≠ []

variable {hostId : String} {hosts : CustomHosts} {h : History} {k : Scheduler.History}
  {t : Scheduler}

namespace Tracked

theorem aside (tracked : Tracked hostId hosts h k p) (scheduler : q.scheduler = p.scheduler)
    (owner : q.ingestor.hostId = p.ingestor.hostId ∧ q.ingestor.hosts = p.ingestor.hosts)
    (sending : q.ingestor.phase.sending? = p.ingestor.phase.sending?)
    (underway : q.underway.Sublist p.underway) (unseen : effects.filterMap Effect.posts? = [])
    (event : Transition.tick? ⟨p, now, e, effects, q⟩ = none ∧
      Transition.verdict? ⟨p, now, e, effects, q⟩ = none) :
    Tracked hostId hosts (h ++ [⟨p, now, e, effects, q⟩]) k q where
  owner := by rw [owner.1, owner.2]; exact tracked.owner
  posts := by rw [History.posts_concat, unseen, List.append_nil]; exact tracked.posts
  verdicts := by
    rw [History.verdicts_concat, event.2, Option.toList_none, List.append_nil]
    exact tracked.verdicts
  waiting := by rw [scheduler, sending]; exact tracked.waiting
  chain := by
    rw [History.ticks_concat, event.1, Option.toList_none, List.append_nil]
    exact ((List.Sublist.refl _).append underway).trans tracked.chain
  filled := by rw [sending]; exact tracked.filled

theorem collected (tracked : Tracked hostId hosts h k p) (phase : p.producer.phase = .collecting)
    (eq : q = p.withProducer (.sending (.ofFindings now.wall fs))) :
    Tracked hostId hosts (h ++ [⟨p, now, .collected fs, [], q⟩]) k q := by
  subst eq
  obtain ⟨⟨owner, others⟩, posts, verdicts, waiting, chain, filled⟩ := tracked
  refine ⟨⟨owner, others⟩, ?_, ?_, waiting, ?_, filled⟩
  · simpa [History.posts_concat] using posts
  · simpa [History.verdicts_concat, Transition.verdict?] using verdicts
  · have grown := chain.append (List.Sublist.refl [batchOf hostId hosts (.ofFindings now.wall fs)])
    simp only [underway, phase, producing?, Option.toList_none, List.append_nil] at grown
    simpa [History.ticks_concat, Transition.tick?, underway, withProducer, producing?, nextBatch,
      Tick.snapshot, owner, others] using grown

theorem sent (tracked : Tracked hostId hosts h k p) {f : Scheduler.Event}
    {shown : List Scheduler.Effect} (move : Scheduler.Move now p.scheduler f shown t)
    (sends : f.isSend = true) (scheduler : q.scheduler = t)
    (owner : q.ingestor.hostId = p.ingestor.hostId ∧ q.ingestor.hosts = p.ingestor.hosts)
    (waiting : t.queue.waiting = q.ingestor.phase.sending?.toList)
    (underway : (shown.filterMap Scheduler.Effect.accepted? ++ q.underway).Sublist p.underway)
    (filled : ∀ b ∈ shown.filterMap Scheduler.Effect.accepted? ++
      q.ingestor.phase.sending?.toList, b.samples ≠ [])
    (event : Transition.tick? ⟨p, now, e, [], q⟩ = none ∧
      Transition.verdict? ⟨p, now, e, [], q⟩ = none) :
    Tracked hostId hosts (h ++ [⟨p, now, e, [], q⟩])
      (k ++ [⟨p.scheduler, now, f, shown, t⟩]) q := by
  obtain ⟨noPost, noReply⟩ := move.silent sends
  constructor
  case owner => rw [owner.1, owner.2]; exact tracked.owner
  case posts => simp [History.posts_concat, noPost, tracked.posts]
  case verdicts => simp [History.verdicts_concat, noReply, event.2, tracked.verdicts]
  case waiting => rw [scheduler, waiting]
  case chain =>
    simp only [Scheduler.History.accepted_append, Scheduler.History.accepted_cons,
      Scheduler.History.accepted_nil, List.append_nil, History.ticks_concat, event.1,
      Option.toList_none, List.append_assoc]
    exact ((List.Sublist.refl _).append underway).trans tracked.chain
  case filled =>
    intro b hb
    simp only [Scheduler.History.accepted_append, Scheduler.History.accepted_cons,
      Scheduler.History.accepted_nil, List.append_nil, List.append_assoc, List.mem_append] at hb
    rcases hb with hb | hb
    · exact tracked.filled b (List.mem_append_left _ hb)
    · exact filled b (List.mem_append.mpr hb)

theorem scheduled (tracked : Tracked hostId hosts h k p) {f : Scheduler.Event}
    {shown : List Scheduler.Effect} (own : f.isSend = false)
    (move : Scheduler.Move now p.scheduler f shown t) (eq : q = { p with scheduler := t }) :
    Tracked hostId hosts (h ++ [⟨p, now, .schedule f, shown.filterMap shown?, q⟩])
      (k ++ [⟨p.scheduler, now, f, shown, t⟩]) q := by
  subst eq
  obtain ⟨accepted, waiting, verdict⟩ := move.own own
  constructor
  case owner => exact tracked.owner
  case posts =>
    have seen : (shown.filterMap shown?).filterMap Effect.posts? =
        shown.filterMap Scheduler.Effect.posts? := by
      rw [List.filterMap_filterMap]
      congr 1
      funext f
      cases f <;> rfl
    simp [History.posts_concat, tracked.posts, seen]
  case verdicts =>
    simp [History.verdicts_concat, Transition.verdict?, tracked.verdicts, verdict]
  case waiting => rw [waiting]; exact tracked.waiting
  case chain =>
    have chain := tracked.chain
    simp only [accepted, History.ticks_concat, Transition.tick?, Scheduler.History.accepted_append,
      Scheduler.History.accepted_cons, Scheduler.History.accepted_nil, Option.toList_none,
      List.append_nil]
    exact chain
  case filled => simpa [accepted] using tracked.filled

theorem move (tracked : Tracked hostId hosts h k p) (move : Move now p e effects q) :
    ∃ x, Scheduler.Run p.scheduler x q.scheduler ∧
      Tracked hostId hosts (h ++ [⟨p, now, e, effects, q⟩]) (k ++ x) q := by
  have waiting := tracked.waiting
  have still (same : q.scheduler = p.scheduler)
      (tracked : Tracked hostId hosts (h ++ [⟨p, now, e, effects, q⟩]) k q) :
      ∃ x, Scheduler.Run p.scheduler x q.scheduler ∧
        Tracked hostId hosts (h ++ [⟨p, now, e, effects, q⟩]) (k ++ x) q :=
    ⟨[], same ▸ .nil, (List.append_nil k).symm ▸ tracked⟩
  have single {f : Scheduler.Event} {shown : List Scheduler.Effect} {t : Scheduler}
      (move : Scheduler.Move now p.scheduler f shown t) :
      Scheduler.Run p.scheduler [⟨p.scheduler, now, f, shown, t⟩] t :=
    Scheduler.Run.nil.step (Scheduler.step_of_move move)
  cases move with
  | tick phase | rest phase | quit phase | giveUp phase =>
    refine still rfl (tracked.aside rfl ⟨rfl, rfl⟩ rfl ?_ rfl ⟨rfl, rfl⟩)
    simp [underway, withProducer, producing?, phase, nextBatch]
  | collected phase => exact still rfl (tracked.collected phase rfl)
  | handOver phase none =>
    refine still rfl (tracked.aside rfl ⟨rfl, rfl⟩ rfl ?_ rfl ⟨rfl, rfl⟩)
    simp [underway, withProducer, producing?, phase, none, nextBatch]
  | skip phase handed empty =>
    refine still rfl (tracked.aside rfl ⟨rfl, rfl⟩ rfl ?_ rfl ⟨rfl, rfl⟩)
    simp [underway, handed, nextBatch]
  | runDry phase none | stop phase =>
    refine still rfl (tracked.aside rfl ⟨rfl, rfl⟩ ?_ ?_ rfl ⟨rfl, rfl⟩)
    · simp [withIngestor, phase, Ingestor.Phase.sending?]
    · simp [underway, withIngestor, phase, Ingestor.Phase.sending?, nextBatch]
  | send phase handed filled sent =>
    refine ⟨_, single sent, tracked.sent sent rfl rfl ⟨rfl, rfl⟩ ?_ ?_ ?_ ⟨rfl, rfl⟩⟩
    · cases sent with
      | accept running free =>
        simpa [Queue.waiting_offer free, withIngestor, phase] using waiting
    · simp [Scheduler.Effect.accepted?, underway, withIngestor, phase, handed, nextBatch,
        Ingestor.Phase.sending?]
    · simpa [Scheduler.Effect.accepted?, withIngestor, Ingestor.Phase.sending?] using filled
  | hold phase handed filled held =>
    refine ⟨_, single held, tracked.sent held rfl rfl ⟨rfl, rfl⟩ ?_ ?_ ?_ ⟨rfl, rfl⟩⟩
    · cases held with
      | hold running full =>
        simpa [Queue.waiting_offer_of_full full, withIngestor, phase, Ingestor.Phase.sending?]
          using waiting
    · simp [Scheduler.Effect.accepted?, List.filterMap, underway, withIngestor, phase, handed,
        nextBatch, Ingestor.Phase.sending?]
    · simpa [Scheduler.Effect.accepted?, List.filterMap, withIngestor,
        Ingestor.Phase.sending?] using filled
  | refuse phase handed filled refused =>
    refine ⟨_, single refused, tracked.sent refused rfl rfl ⟨rfl, rfl⟩ ?_ ?_ ?_ ⟨rfl, rfl⟩⟩
    · cases refused with
      | refuse ended => simpa [withIngestor, phase, Ingestor.Phase.sending?] using waiting
    · simp [Scheduler.Effect.accepted?, List.filterMap, underway, withIngestor, phase, handed,
        nextBatch, Ingestor.Phase.sending?]
    · simp [Scheduler.Effect.accepted?, List.filterMap, withIngestor, Ingestor.Phase.sending?]
  | callOff phase gone | bounce phase gone =>
    obtain ⟨none, left⟩ := gone.withdrawn
    refine ⟨_, single gone, tracked.sent gone rfl rfl ⟨rfl, rfl⟩ ?_ ?_ ?_ ⟨rfl, rfl⟩⟩
    · simp [left, waiting, phase, withIngestor, Ingestor.Phase.sending?]
    · simp [none, underway, withIngestor, phase, nextBatch, Ingestor.Phase.sending?]
    · simp [none, withIngestor, Ingestor.Phase.sending?]
  | @enter b c t phase entered =>
    -- Nobody else sends, so the batch that gets the slot is the one that the ingestor holds.
    obtain ⟨rfl, left⟩ : b = c ∧ t.queue.waiting = [] := by
      simpa [phase, Ingestor.Phase.sending?, entered.waiting_enter] using waiting.symm
    refine ⟨_, single entered, tracked.sent entered rfl rfl ⟨rfl, rfl⟩ ?_ ?_ ?_ ⟨rfl, rfl⟩⟩
    · simp [left, withIngestor, Ingestor.Phase.sending?]
    · simp [Scheduler.Effect.accepted?, underway, withIngestor, phase, nextBatch,
        Ingestor.Phase.sending?]
    · simpa [Scheduler.Effect.accepted?, withIngestor, phase, Ingestor.Phase.sending?] using
        tracked.filled b (by simp [phase, Ingestor.Phase.sending?])
  | schedule own moved => exact ⟨_, single moved, tracked.scheduled own moved rfl⟩

end Tracked

theorem producing?_spawn {interval began : Nat} :
    producing? (Producer.spawn interval began).phase = none := by
  unfold Producer.spawn
  split <;> rfl

theorem tracked_of_run {producer : Producer} {settings : Settings} {offset : Span} {queue : Queue}
    (resting : producing? producer.phase = none) (alone : queue.waiting = [])
    (run : Run (start producer (.start hostId hosts) (.start settings offset queue)) h p) :
    ∃ k, Scheduler.Run (.start settings offset queue) k p.scheduler ∧
      Tracked hostId hosts h k p := by
  induction run with
  | nil =>
    refine ⟨[], .nil, ⟨rfl, rfl⟩, rfl, rfl, alone, ?_, nofun⟩
    have none : underway (start producer (.start hostId hosts) (.start settings offset queue)) =
        [] := by
      rw [underway, start, resting]
      rfl
    rw [none]
    exact List.nil_sublist _
  | step run made ih =>
    obtain ⟨k, before, tracked⟩ := ih
    obtain ⟨x, after, tracked⟩ := tracked.move (move_of_step made)
    exact ⟨k ++ x, before.append after, tracked⟩

end Pipeline

end HostMonitor.Posting
