import HostMonitor.Proofs.Agent.Move

namespace HostMonitor

namespace Host.Refresher

def Event.isReply : Event → Bool
  | .reply _ => true
  | _ => false

def isUpdating (r : Refresher) : Bool :=
  match r.phase with
  | .updating => true
  | _ => false

theorem step_calls {now : Nat} {r s : Refresher} {e : Event} {effects : List Effect}
    (made : r.step now e = some (s, effects)) :
    effects.length + r.isUpdating.toNat = e.isReply.toNat + s.isUpdating.toNat := by
  unfold step at made
  split at made
  case h_4 phase =>
    obtain ⟨-, made⟩ := Option.ite_none_right_eq_some.mp made
    cases made
    simp [isUpdating, Event.isReply, phase]
  all_goals cases made
  all_goals simp_all [isUpdating, Event.isReply]

end Host.Refresher

namespace Posting

variable {now : Moment}

namespace Scheduler

variable {s t : Scheduler} {e : Event} {effects : List Effect}

def Event.isReply : Event → Bool
  | .reply _ => true
  | _ => false

def isPosting (s : Scheduler) : Bool :=
  match s.phase with
  | .posting _ => true
  | _ => false

theorem Move.calls (move : Move now s e effects t) :
    (effects.filterMap Effect.posts?).length + s.isPosting.toNat =
      e.isReply.toNat + t.isPosting.toNat := by
  cases move with
  | force listens | hangUp listens =>
    cases phase : s.phase <;> simp_all [isPosting, Event.isReply, Phase.listens]
  | _ => simp_all [isPosting, Event.isReply, Effect.posts?, List.filterMap_cons]

theorem Move.keeps_phase (move : Move now s e effects t) (sends : e.isSend = true) :
    t.phase = s.phase ∧ t.mode = s.mode := by
  obtain ⟨q, rfl, -⟩ := move.send sends
  exact ⟨rfl, rfl⟩

end Scheduler

namespace Pipeline

variable {p q : Pipeline} {e : Event} {effects : List Effect}

def Event.isReply : Event → Bool
  | .schedule e => e.isReply
  | _ => false

theorem Move.aside (move : Move now p e effects q) (other : ∀ f, e ≠ .schedule f) :
    q.scheduler.phase = p.scheduler.phase ∧ q.scheduler.mode = p.scheduler.mode ∧
      effects.filterMap Effect.posts? = [] := by
  cases move with
  | tick | collected | rest | quit | handOver | giveUp | skip | runDry | stop =>
    exact ⟨rfl, rfl, rfl⟩
  | send phase handed filled sent | hold phase handed filled sent
  | refuse phase handed filled sent =>
    obtain ⟨phase, mode⟩ := sent.keeps_phase rfl
    exact ⟨phase, mode, rfl⟩
  | callOff phase gone | bounce phase gone =>
    obtain ⟨phase, mode⟩ := gone.keeps_phase rfl
    exact ⟨phase, mode, rfl⟩
  | enter phase entered =>
    obtain ⟨phase, mode⟩ := entered.keeps_phase rfl
    exact ⟨phase, mode, rfl⟩
  | schedule => exact absurd rfl (other _)

theorem filterMap_shown (effects : List Scheduler.Effect) :
    (effects.filterMap shown?).filterMap Effect.posts? =
      effects.filterMap Scheduler.Effect.posts? := by
  rw [List.filterMap_filterMap]
  congr 1
  funext f
  cases f <;> rfl

theorem Move.calls (move : Move now p e effects q) :
    (effects.filterMap Effect.posts?).length + p.scheduler.isPosting.toNat =
      e.isReply.toNat + q.scheduler.isPosting.toNat := by
  cases scheduled : e with
  | schedule f =>
    subst scheduled
    cases move with
    | schedule own moved =>
      rw [filterMap_shown]
      exact moved.calls
  | _ =>
    obtain ⟨phase, -, silent⟩ := move.aside (by simp [scheduled])
    simp [silent, Scheduler.isPosting, phase, Event.isReply]

end Pipeline

end Posting

namespace Check

variable {now : Moment}

def Watch.Event.isReply : Watch.Event → Bool
  | .aggregator e => e.isReply
  | _ => false

theorem Aggregator.Move.calls {a b : Aggregator} {e : Event} {effects : List Effect}
    (move : Move now a e effects b) :
    (effects.filterMap Effect.delivers?).length + a.phase.outstanding.length =
      e.isReply.toNat + b.phase.outstanding.length := by
  have lengths := congrArg List.length move.answered
  rw [List.length_append, List.length_append, List.length_map, move.replied] at lengths
  omega

theorem Watch.Move.calls {w v : Watch} {e : Event} {effects : List Aggregator.Effect}
    (move : Move now w e effects v) :
    (effects.filterMap Aggregator.Effect.delivers?).length +
        w.aggregator.phase.outstanding.length =
      e.isReply.toNat + v.aggregator.phase.outstanding.length := by
  cases move with
  | runner => simp [Event.isReply]
  | forward found phase stepped forwarded => exact forwarded.calls
  | escalate => simp [Event.isReply]
  | aggregator own moved => exact moved.calls

end Check

namespace Agent

def outstanding (a : Agent) : Caller → Nat
  | .refresher => a.refresher.isUpdating.toNat
  | .scheduler => a.pipeline.scheduler.isPosting.toNat
  | .checks =>
    match a.checks with
    | .present w => w.aggregator.phase.outstanding.length
    | .absent _ => 0
  | .agent =>
    match a.phase with
    | .parting => 1
    | _ => 0

def Effect.call? (c : Caller) : Effect → Option Service.Call
  | .calls d call => if d = c then some call else none
  | .collects => none

def Event.ends (c : Caller) : Event → Bool
  | .refresh e => c = .refresher && e.isReply
  | .pipeline e => c = .scheduler && e.isReply
  | .watch e => c = .checks && e.isReply
  | .reply _ => c = .agent
  | _ => false

namespace History

def callsOf (c : Caller) (h : History) : List Service.Call := h.effects.filterMap (Effect.call? c)

def ended (c : Caller) (h : History) : Nat := h.countP fun x => x.event.ends c

variable (c : Caller) (h k : History) (x : Transition)

@[simp] theorem callsOf_nil : callsOf c [] = [] := rfl

@[simp] theorem callsOf_cons :
    callsOf c (x :: h) = x.effects.filterMap (Effect.call? c) ++ callsOf c h := by simp [callsOf]

@[simp] theorem callsOf_append : callsOf c (h ++ k) = callsOf c h ++ callsOf c k := by
  simp [callsOf]

@[simp] theorem ended_nil : ended c [] = 0 := rfl

@[simp] theorem ended_append : ended c (h ++ k) = ended c h + ended c k := by simp [ended]

theorem ended_singleton : ended c [x] = (x.event.ends c).toNat := by
  cases ends : x.event.ends c <;> simp [ended, ends]

end History

variable {now : Moment} {a b : Agent} {e : Event} {effects : List Effect} {c : Caller}

theorem calls_of_refresher (c : Caller) (shown : List Host.Refresher.Effect) :
    (shown.map a.shownRefresher).filterMap (Effect.call? c) =
      if c = .refresher then shown.map fun | .updates spec => .updateHost a.hostId spec
      else [] := by
  rw [List.filterMap_map]
  cases c with
  | refresher =>
    rw [if_pos rfl, ← List.filterMap_eq_map]
    congr 1
  | _ =>
    rw [if_neg nofun]
    exact List.filterMap_eq_nil_iff.mpr fun f _ => by cases f; rfl

theorem calls_of_pipeline (c : Caller) (shown : List Posting.Pipeline.Effect) :
    (shown.map shownPipeline).filterMap (Effect.call? c) =
      if c = .scheduler then (shown.filterMap Posting.Pipeline.Effect.posts?).map fun cycle =>
        .postMetrics (Posting.Scheduler.samplesOf cycle)
      else [] := by
  rw [List.filterMap_map]
  cases c with
  | scheduler =>
    rw [if_pos rfl, List.map_filterMap]
    congr 1
    funext f
    cases f <;> rfl
  | _ =>
    rw [if_neg nofun]
    exact List.filterMap_eq_nil_iff.mpr fun f _ => by cases f <;> rfl

theorem calls_of_checks (c : Caller) (shown : List Check.Aggregator.Effect) :
    (shown.filterMap a.shownChecks?).filterMap (Effect.call? c) =
      if c = .checks then
        (shown.filterMap Check.Aggregator.Effect.delivers?).map (.reportChecks a.hostId)
      else [] := by
  rw [List.filterMap_filterMap]
  cases c with
  | checks =>
    rw [if_pos rfl, List.map_filterMap]
    congr 1
    funext f
    cases f <;> rfl
  | _ =>
    rw [if_neg nofun]
    exact List.filterMap_eq_nil_iff.mpr fun f _ => by cases f <;> rfl

theorem Move.calls (move : Move now a e effects b) (c : Caller) :
    (effects.filterMap (Effect.call? c)).length + a.outstanding c =
      (e.ends c).toNat + b.outstanding c := by
  cases move with
  | refresh running other stepped =>
    rw [calls_of_refresher]
    have := Host.Refresher.step_calls stepped
    cases c <;> simp_all [outstanding, Event.ends]
  | pipeline running allowed stepped =>
    rw [calls_of_pipeline]
    have := (Posting.Pipeline.move_of_step stepped).calls
    cases c <;> simp_all [outstanding, Event.ends]
  | watch running allowed checks stepped =>
    rw [calls_of_checks]
    have := (Check.Watch.move_of_step stepped).calls
    cases c <;> simp_all [outstanding, Event.ends]
  | signal phase heard stepped | hangScheduler phase heard stepped =>
    rw [calls_of_pipeline]
    have := (Posting.Pipeline.move_of_step stepped).calls
    cases c <;> simp_all [outstanding, Event.ends, served, Posting.Pipeline.Event.isReply,
      Posting.Scheduler.Event.isReply]
  | stopIngestor running ready stepped =>
    have := (Posting.Pipeline.move_of_step stepped).calls
    cases c <;> simp_all [outstanding, Event.ends, served, Posting.Pipeline.Event.isReply]
  | stopChecks running ready checks stepped =>
    have := (Check.Watch.move_of_step stepped).calls
    cases c <;> simp_all [outstanding, Event.ends, served, Check.Watch.Event.isReply,
      Check.Aggregator.Event.isReply]
  | stopRefresher running ready phase =>
    cases c <;> simp [outstanding, Event.ends, served, Host.Refresher.isUpdating, phase]
  | _ => cases c <;> simp_all [outstanding, Event.ends, served, Effect.call?]

/-- Every call has ended but those that wait for a reply. -/
theorem Run.calls {h : History} (run : Run a h b) (c : Caller) :
    (h.callsOf c).length + a.outstanding c = h.ended c + b.outstanding c := by
  refine run.keeps (P := fun h b => (h.callsOf c).length + a.outstanding c =
    h.ended c + b.outstanding c) (by simp) ?_
  intro h now a e effects b ih move
  have step := move.calls c
  simp only [History.callsOf_append, History.callsOf_cons, History.callsOf_nil, List.append_nil,
    List.length_append, History.ended_append, History.ended_singleton]
  omega

end Agent

end HostMonitor
