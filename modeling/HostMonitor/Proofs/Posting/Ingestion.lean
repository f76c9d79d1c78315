import HostMonitor.Posting.Ingest
import HostMonitor.Proofs.Machine
import HostMonitor.Proofs.Posting.Mailbox
import HostMonitor.Shutdown.Signals

namespace HostMonitor.Posting

open HostMonitor.Metric (Batch Snapshot)
open Shutdown (Signals)

def batchesOf (hostId : String) (hosts : CustomHosts) (ss : List Snapshot) : List Batch :=
  (ss.map (batchOf hostId hosts)).filter fun b => !b.samples.isEmpty

@[simp] theorem batchesOf_append {hostId : String} {hosts : CustomHosts} {ss ts : List Snapshot} :
    batchesOf hostId hosts (ss ++ ts) = batchesOf hostId hosts ss ++ batchesOf hostId hosts ts := by
  simp [batchesOf]

structure Ingestion : Type where
  ingestor : Ingestor
  handed : List Snapshot
  producing : Bool
  signals : Signals
  mailbox : Mailbox

namespace Ingestion

inductive Event : Type
  | handOver (s : Snapshot)
  | cease
  | signal
  | hangUp
  | take
  | giveBack (b : Batch)
  | drop
  | receive
  | runDry
  | stop
  | offer
  | enter
  | bounce

inductive Effect : Type
  | received (s : Snapshot)
  | accepted (b : Batch)
  | refused (b : Batch)

def start (hostId : String) (hosts : CustomHosts) (capacity : Nat) (queue : Queue) : Ingestion :=
  ⟨.start hostId hosts, [], true, .start capacity, ⟨queue, true⟩⟩

def withQueue (m : Ingestion) (q : Queue) : Ingestion :=
  { m with mailbox := { m.mailbox with queue := q } }

def withPhase (m : Ingestion) (phase : Ingestor.Phase) : Ingestion :=
  { m with ingestor := { m.ingestor with phase := phase } }

def tell (m : Ingestion) (e : Ingestor.Event) : Option Ingestion :=
  (m.ingestor.step e).map fun (i, _) => { m with ingestor := i }

def stepOffer (m : Ingestion) : Option (Ingestion × List Effect) :=
  match m.ingestor.phase with
  | .sending b =>
    if !m.mailbox.queue.waiting.isEmpty then none
    else if !m.mailbox.live then (m.tell .refused).map (·, [.refused b])
    else
      let (q, now) := m.mailbox.queue.offer b
      if now then ((m.withQueue q).tell .accepted).map (·, [.accepted b])
      else some (m.withQueue q, [])
  | _ => none

def step (_ : Moment) (m : Ingestion) : Event → Option (Ingestion × List Effect)
  | .handOver s => if m.producing then some ({ m with handed := m.handed ++ [s] }, []) else none
  | .cease => some ({ m with producing := false }, [])
  | .signal => some ({ m with signals := m.signals.send }, [])
  | .hangUp => some ({ m with signals := m.signals.close }, [])
  | .take =>
    if m.mailbox.live then m.mailbox.queue.take?.map fun (_, q) => (m.withQueue q, []) else none
  | .giveBack b =>
    if m.mailbox.live then some (m.withQueue (m.mailbox.queue.giveBack b), []) else none
  | .drop =>
    if m.mailbox.live then some ({ m with mailbox := { m.mailbox with live := false } }, [])
    else none
  | .receive =>
    match m.handed with
    | [] => none
    | s :: rest => ({ m with handed := rest }.tell (.snapshot s)).map (·, [.received s])
  | .runDry =>
    if m.producing || !m.handed.isEmpty then none else (m.tell .producerGone).map (·, [])
  | .stop =>
    if m.signals.isReady then
      ({ m with signals := m.signals.receive }.tell .signal).map fun n : Ingestion =>
        (n.withQueue ((m.mailbox.queue.withdraw? 0).elim m.mailbox.queue Prod.snd), [])
    else none
  | .offer => m.stepOffer
  | .enter =>
    if m.mailbox.live then do
      let (b, q) ← m.mailbox.queue.enter? 0
      ((m.withQueue q).tell .accepted).map (·, [.accepted b])
    else none
  | .bounce =>
    if m.mailbox.live then none
    else do
      let (b, q) ← m.mailbox.queue.withdraw? 0
      ((m.withQueue q).tell .refused).map (·, [.refused b])

def nextBatch (m : Ingestion) : Snapshot → Batch := batchOf m.ingestor.hostId m.ingestor.hosts

inductive Move (m : Ingestion) : Event → List Effect → Ingestion → Prop
  | handOver : m.producing = true →
      Move m (.handOver s) [] { m with handed := m.handed ++ [s] }
  | cease : Move m .cease [] { m with producing := false }
  | signal : Move m .signal [] { m with signals := m.signals.send }
  | hangUp : Move m .hangUp [] { m with signals := m.signals.close }
  | take : Mailbox.Move m.mailbox .take (.took b) n → Move m .take [] { m with mailbox := n }
  | giveBack : Mailbox.Move m.mailbox (.giveBack b) (.gaveBack b) n →
      Move m (.giveBack b) [] { m with mailbox := n }
  | drop : Mailbox.Move m.mailbox .drop .dropped n → Move m .drop [] { m with mailbox := n }
  | skip : m.ingestor.phase = .receiving → m.handed = s :: rest →
      (m.nextBatch s).samples = [] → Move m .receive [.received s] { m with handed := rest }
  | receive : m.ingestor.phase = .receiving → m.handed = s :: rest →
      (m.nextBatch s).samples ≠ [] →
      Move m .receive [.received s] { m.withPhase (.sending (m.nextBatch s)) with handed := rest }
  | runDry : m.ingestor.phase = .receiving → m.producing = false → m.handed = [] →
      Move m .runDry [] (m.withPhase .stopped)
  | stop : m.ingestor.phase ≠ .stopped → m.signals.isReady = true →
      Mailbox.Move m.mailbox (.withdraw 0) f n →
      Move m .stop [] { m.withPhase .stopped with signals := m.signals.receive, mailbox := n }
  | accept : m.ingestor.phase = .sending b → m.mailbox.queue.waiting = [] →
      Mailbox.Move m.mailbox (.offer b) (.accepted b) n →
      Move m .offer [.accepted b] { m.withPhase .receiving with mailbox := n }
  | wait : m.ingestor.phase = .sending b → m.mailbox.queue.waiting = [] →
      Mailbox.Move m.mailbox (.offer b) (.waits b) n → Move m .offer [] { m with mailbox := n }
  | refuse : m.ingestor.phase = .sending b → m.mailbox.queue.waiting = [] →
      Mailbox.Move m.mailbox (.offer b) (.refused b) n →
      Move m .offer [.refused b] { m.withPhase .stopped with mailbox := n }
  | enter : m.ingestor.phase = .sending b → Mailbox.Move m.mailbox (.enter 0) (.accepted c) n →
      Move m .enter [.accepted c] { m.withPhase .receiving with mailbox := n }
  | bounce : m.ingestor.phase = .sending b →
      Mailbox.Move m.mailbox (.withdraw 0) (.refused c) n →
      Move m .bounce [.refused c] { m.withPhase .stopped with mailbox := n }

variable {m n : Ingestion} {e : Event} {effects : List Effect} {now : Moment} {b : Batch}

theorem tell_eq_some {f : Ingestor.Event} (told : m.tell f = some n) :
    ∃ i shown, m.ingestor.step f = some (i, shown) ∧ n = { m with ingestor := i } := by
  obtain ⟨⟨i, shown⟩, stepped, rfl⟩ := Option.map_eq_some_iff.mp told
  exact ⟨i, shown, stepped, rfl⟩

theorem tell_verdict (fine : Bool)
    (told : m.tell (if fine then .accepted else .refused) = some n) :
    ∃ b, m.ingestor.phase = .sending b ∧
      n = m.withPhase (if fine then .receiving else .stopped) := by
  obtain ⟨i, shown, stepped, rfl⟩ := tell_eq_some told
  cases phase : m.ingestor.phase with
  | sending b =>
    refine ⟨b, rfl, ?_⟩
    cases fine <;> simp_all [Ingestor.step, withPhase]
  | _ => cases fine <;> simp [Ingestor.step, phase] at stepped

theorem tell_signal (told : m.tell .signal = some n) :
    m.ingestor.phase ≠ .stopped ∧ n = m.withPhase .stopped := by
  obtain ⟨i, shown, stepped, rfl⟩ := tell_eq_some told
  cases phase : m.ingestor.phase with
  | stopped => simp [Ingestor.step, phase] at stepped
  | _ =>
    simp only [Ingestor.step, phase, Option.some.injEq, Prod.mk.injEq] at stepped
    obtain ⟨rfl, -⟩ := stepped
    exact ⟨nofun, rfl⟩

theorem move_of_receive (made : m.step now .receive = some (n, effects)) :
    Move m .receive effects n := by
  simp only [step] at made
  split at made
  · cases made
  · next s rest handed =>
    obtain ⟨n, told, made⟩ := Option.map_eq_some_iff.mp made
    cases made
    obtain ⟨i, shown, stepped, rfl⟩ := tell_eq_some told
    cases phase : m.ingestor.phase with
    | receiving =>
      simp only [Ingestor.step, phase] at stepped
      split at stepped
      · next empty =>
        cases stepped
        exact .skip phase handed (List.isEmpty_iff.mp empty)
      · next some =>
        cases stepped
        exact .receive phase handed fun empty => some (List.isEmpty_iff.mpr empty)
    | _ => simp [Ingestor.step, phase] at stepped

theorem move_of_runDry (made : m.step now .runDry = some (n, effects)) :
    Move m .runDry effects n := by
  simp only [step, Option.ite_none_left_eq_some, Bool.not_eq_true, Bool.or_eq_false_iff,
    Bool.not_eq_false'] at made
  obtain ⟨⟨producing, handed⟩, made⟩ := made
  obtain ⟨n, told, made⟩ := Option.map_eq_some_iff.mp made
  cases made
  obtain ⟨i, shown, stepped, rfl⟩ := tell_eq_some told
  cases phase : m.ingestor.phase with
  | receiving =>
    simp only [Ingestor.step, phase, Option.some.injEq, Prod.mk.injEq] at stepped
    obtain ⟨rfl, -⟩ := stepped
    exact .runDry phase producing (List.isEmpty_iff.mp handed)
  | _ => simp [Ingestor.step, phase] at stepped

theorem move_of_stop (made : m.step now .stop = some (n, effects)) : Move m .stop effects n := by
  obtain ⟨ready, made⟩ := Option.ite_none_right_eq_some.mp made
  obtain ⟨n, told, made⟩ := Option.map_eq_some_iff.mp made
  obtain ⟨running, rfl⟩ := tell_signal told
  cases made
  cases found : m.mailbox.queue.withdraw? 0 with
  | none => exact .stop running ready (.miss found)
  | some pair =>
    obtain ⟨b, q⟩ := pair
    cases live : m.mailbox.live with
    | true => exact .stop running ready (.withdraw live found)
    | false => exact .stop running ready (.bounce live found)

theorem move_of_offer (made : m.step now .offer = some (n, effects)) :
    Move m .offer effects n := by
  simp only [step, stepOffer] at made
  split at made
  · next b phase =>
    simp only [Option.ite_none_left_eq_some, Bool.not_eq_true', Bool.not_eq_false,
      List.isEmpty_iff] at made
    obtain ⟨alone, made⟩ := made
    cases live : m.mailbox.live with
    | false =>
      rw [if_pos live] at made
      obtain ⟨n, told, made⟩ := Option.map_eq_some_iff.mp made
      cases made
      obtain ⟨-, -, rfl⟩ := tell_verdict false told
      exact .refuse phase alone (.refuse live)
    | true =>
      rw [if_neg (by simp [live])] at made
      by_cases free : 0 < m.mailbox.queue.free
      · have room : (m.mailbox.queue.offer b).2 = true := by simp [Queue.snd_offer, free]
        rw [if_pos room] at made
        obtain ⟨n, told, made⟩ := Option.map_eq_some_iff.mp made
        cases made
        obtain ⟨-, -, rfl⟩ := tell_verdict true told
        exact .accept phase alone (.accept live free)
      · have full : (m.mailbox.queue.offer b).2 ≠ true := by simp [Queue.snd_offer, free]
        rw [if_neg full] at made
        cases made
        exact .wait phase alone (.hold live (Nat.eq_zero_of_not_pos free))
  · cases made

theorem move_of_enter (made : m.step now .enter = some (n, effects)) :
    Move m .enter effects n := by
  obtain ⟨live, made⟩ := Option.ite_none_right_eq_some.mp made
  simp only [Option.bind_eq_bind, Option.bind_eq_some_iff] at made
  obtain ⟨⟨b, q⟩, found, made⟩ := made
  obtain ⟨n, told, made⟩ := Option.map_eq_some_iff.mp made
  cases made
  obtain ⟨c, phase, rfl⟩ := tell_verdict true told
  exact .enter phase (.enter live found)

theorem move_of_bounce (made : m.step now .bounce = some (n, effects)) :
    Move m .bounce effects n := by
  obtain ⟨dead, made⟩ := Option.ite_none_left_eq_some.mp made
  simp only [Option.bind_eq_bind, Option.bind_eq_some_iff] at made
  obtain ⟨⟨b, q⟩, found, made⟩ := made
  obtain ⟨n, told, made⟩ := Option.map_eq_some_iff.mp made
  cases made
  obtain ⟨c, phase, rfl⟩ := tell_verdict false told
  exact .bounce phase (.bounce (Bool.not_eq_true _ ▸ dead) found)

theorem move_of_step (made : m.step now e = some (n, effects)) : Move m e effects n := by
  cases e with
  | handOver s =>
    obtain ⟨producing, made⟩ := Option.ite_none_right_eq_some.mp made
    cases made
    exact .handOver producing
  | cease => cases made; exact .cease
  | signal => cases made; exact .signal
  | hangUp => cases made; exact .hangUp
  | take =>
    obtain ⟨live, made⟩ := Option.ite_none_right_eq_some.mp made
    obtain ⟨⟨b, q⟩, found, made⟩ := Option.map_eq_some_iff.mp made
    cases made
    exact .take (.take live found)
  | giveBack b =>
    obtain ⟨live, made⟩ := Option.ite_none_right_eq_some.mp made
    cases made
    exact .giveBack (.giveBack live)
  | drop =>
    obtain ⟨live, made⟩ := Option.ite_none_right_eq_some.mp made
    cases made
    exact .drop (.drop live)
  | receive => exact move_of_receive made
  | runDry => exact move_of_runDry made
  | stop => exact move_of_stop made
  | offer => exact move_of_offer made
  | enter => exact move_of_enter made
  | bounce => exact move_of_bounce made

abbrev Transition : Type := Machine.Transition Ingestion Event Effect

abbrev History : Type := Machine.History Ingestion Event Effect

abbrev Run : Ingestion → History → Ingestion → Prop := Machine.Run step

namespace Effect

@[simp] def received? : Effect → Option Snapshot
  | .received s => some s
  | .accepted _ | .refused _ => none

@[simp] def accepted? : Effect → Option Batch
  | .accepted b => some b
  | .received _ | .refused _ => none

end Effect

@[simp] def Event.handed? : Event → Option Snapshot
  | .handOver s => some s
  | _ => none

namespace History

variable (h k : History)

def handedOver : List Snapshot := h.filterMap fun x => x.event.handed?

def received : List Snapshot := (Machine.History.effects h).filterMap Effect.received?

def accepted : List Batch := (Machine.History.effects h).filterMap Effect.accepted?

@[simp] theorem handedOver_append : handedOver (h ++ k) = handedOver h ++ handedOver k :=
  List.filterMap_append

@[simp] theorem handedOver_singleton {x : Transition} :
    handedOver [x] = x.event.handed?.toList := by
  unfold handedOver
  cases handed : x.event.handed? with
  | none => exact List.filterMap_cons_none handed
  | some s => exact List.filterMap_cons_some handed

@[simp] theorem received_singleton {x : Transition} :
    received [x] = x.effects.filterMap Effect.received? := by
  simp [received]

@[simp] theorem accepted_singleton {x : Transition} :
    accepted [x] = x.effects.filterMap Effect.accepted? := by
  simp [accepted]

@[simp] theorem received_append : received (h ++ k) = received h ++ received k := by
  simp [received]

@[simp] theorem accepted_append : accepted (h ++ k) = accepted h ++ accepted k := by
  simp [accepted]

end History

variable {h k : History} {x : Transition} {hostId : String} {hosts : CustomHosts} {capacity : Nat}
  {q : Queue}

theorem Run.keeps {P : History → Ingestion → Prop} (run : Run m h n) (start : P [] m)
    (keep : ∀ {h now m e effects n}, P h m → Move m e effects n →
      P (h ++ [⟨m, now, e, effects, n⟩]) n) : P h n :=
  run.invariant start fun _ held made => keep held (move_of_step made)

theorem Move.nextBatch_eq (move : Move m e effects n) : n.nextBatch = m.nextBatch := by
  cases move <;> rfl

theorem Run.handedOver_eq (run : Run m h n) :
    m.handed ++ h.handedOver = h.received ++ n.handed := by
  refine run.keeps (P := fun h n => m.handed ++ History.handedOver h =
    History.received h ++ n.handed) (by simp [History.handedOver, History.received])
    fun {h now m e effects n} ih move => ?_
  rw [History.handedOver_append, History.received_append, ← List.append_assoc, ih]
  cases move with
  | skip phase handed | receive phase handed => simp [handed]
  | _ => simp [withPhase]

theorem Run.exists_mailbox (run : Run m h n) :
    ∃ k, Mailbox.Run m.mailbox k n.mailbox ∧ k.accepted = h.accepted := by
  refine run.keeps (P := fun h n => ∃ k, Mailbox.Run m.mailbox k n.mailbox ∧
    Mailbox.History.accepted k = History.accepted h) ⟨[], .nil, rfl⟩
    fun {h now m e effects n} ⟨k, run, same⟩ move => ?_
  cases move with
  | take step | giveBack step | drop step | accept _ _ step | wait _ _ step | refuse _ _ step
  | enter _ step | bounce _ step =>
    exact ⟨_, run.step step, by simp [same, Mailbox.Transition.accepted?]⟩
  | stop _ _ step =>
    refine ⟨_, run.step step, ?_⟩
    simp only [Mailbox.History.seen_append, same]
    cases step <;> simp [Mailbox.Transition.accepted?]
  | _ => exact ⟨k, run, by simp [same]⟩

def LeftBehind (h : History) (b : Batch) : Prop :=
  ∃ x ∈ h, x.source.ingestor.phase = .sending b ∧ x.target.ingestor.phase = .stopped ∧
    (x.event = .stop ∨ x.effects = [.refused b] ∧ x.source.mailbox.live = false)

theorem LeftBehind.append (behind : LeftBehind h b) : LeftBehind (h ++ k) b := by
  obtain ⟨x, hx, ended⟩ := behind
  exact ⟨x, List.mem_append_left k hx, ended⟩

/-- Where the ingestor stands, and what the queue has accepted of what was received. -/
inductive Standing (hostId : String) (hosts : CustomHosts) (h : History) (m : Ingestion) : Prop
  | receiving : m.ingestor.phase = .receiving → m.mailbox.queue.waiting = [] →
      h.accepted = batchesOf hostId hosts h.received → Standing hostId hosts h m
  | sending : m.ingestor.phase = .sending (batchOf hostId hosts s) →
      (m.mailbox.queue.waiting = [] ∨ m.mailbox.queue.waiting = [batchOf hostId hosts s]) →
      (batchOf hostId hosts s).samples ≠ [] → h.received = before ++ [s] →
      h.accepted = batchesOf hostId hosts before → Standing hostId hosts h m
  | stopped : m.ingestor.phase = .stopped →
      h.accepted = batchesOf hostId hosts h.received → Standing hostId hosts h m
  | behind : m.ingestor.phase = .stopped → (batchOf hostId hosts s).samples ≠ [] →
      h.received = before ++ [s] → h.accepted = batchesOf hostId hosts before →
      LeftBehind h (batchOf hostId hosts s) → Standing hostId hosts h m

namespace Standing

theorem of_receiving (standing : Standing hostId hosts h m)
    (phase : m.ingestor.phase = .receiving) :
    m.mailbox.queue.waiting = [] ∧ h.accepted = batchesOf hostId hosts h.received := by
  cases standing with
  | receiving _ alone all => exact ⟨alone, all⟩
  | sending other | stopped other | behind other => simp [phase] at other

theorem of_sending (standing : Standing hostId hosts h m) (phase : m.ingestor.phase = .sending b) :
    ∃ before s, b = batchOf hostId hosts s ∧
      (m.mailbox.queue.waiting = [] ∨ m.mailbox.queue.waiting = [b]) ∧ b.samples ≠ [] ∧
      h.received = before ++ [s] ∧ h.accepted = batchesOf hostId hosts before := by
  cases standing with
  | @sending s before sends waiting some received accepted =>
    rw [phase] at sends
    cases sends
    exact ⟨before, s, rfl, waiting, some, received, accepted⟩
  | receiving other | stopped other | behind other => simp [phase] at other

theorem only_waiting (standing : Standing hostId hosts h m) (phase : m.ingestor.phase = .sending b)
    (waiting : m.mailbox.queue.waiting = c :: cs) : c = b ∧ cs = [] := by
  obtain ⟨-, -, -, alone, -⟩ := standing.of_sending phase
  rw [waiting] at alone
  simpa using alone

theorem aside (standing : Standing hostId hosts h m) (same : n.ingestor = m.ingestor)
    (waiting : n.mailbox.queue.waiting = m.mailbox.queue.waiting) :
    Standing hostId hosts (h ++ [⟨m, now, e, [], n⟩]) n := by
  have received : History.received (h ++ [⟨m, now, e, [], n⟩]) = h.received := by simp
  have accepted : History.accepted (h ++ [⟨m, now, e, [], n⟩]) = h.accepted := by simp
  have phase := congrArg Ingestor.phase same
  cases standing with
  | receiving at_ alone all =>
    exact .receiving (phase.trans at_) (waiting.trans alone) (by rw [accepted, received, all])
  | sending at_ alone some got all =>
    exact .sending (phase.trans at_) (waiting ▸ alone) some (received.trans got)
      (accepted.trans all)
  | stopped at_ all => exact .stopped (phase.trans at_) (by rw [accepted, received, all])
  | behind at_ some got all left =>
    exact .behind (phase.trans at_) some (received.trans got) (accepted.trans all) left.append

theorem ends (standing : Standing hostId hosts h m) (stopped : n.ingestor.phase = .stopped)
    (nothing : effects.filterMap Effect.received? = [] ∧ effects.filterMap Effect.accepted? = [])
    (cause : ∀ b, m.ingestor.phase = .sending b →
      e = .stop ∨ effects = [.refused b] ∧ m.mailbox.live = false) :
    Standing hostId hosts (h ++ [⟨m, now, e, effects, n⟩]) n := by
  have received : History.received (h ++ [⟨m, now, e, effects, n⟩]) = h.received := by
    simp [nothing.1]
  have accepted : History.accepted (h ++ [⟨m, now, e, effects, n⟩]) = h.accepted := by
    simp [nothing.2]
  cases standing with
  | receiving _ _ all => exact .stopped stopped (by rw [accepted, received, all])
  | sending phase _ some got all =>
    refine .behind stopped some (received.trans got) (accepted.trans all) ?_
    exact ⟨_, List.mem_append_right h (List.mem_singleton.mpr rfl), phase, stopped, cause _ phase⟩
  | stopped _ all => exact .stopped stopped (by rw [accepted, received, all])
  | behind _ some got all left =>
    exact .behind stopped some (received.trans got) (accepted.trans all) left.append

theorem accepts (standing : Standing hostId hosts h m) (phase : m.ingestor.phase = .sending b)
    (receiving : n.ingestor.phase = .receiving) (alone : n.mailbox.queue.waiting = []) :
    Standing hostId hosts (h ++ [⟨m, now, e, [.accepted b], n⟩]) n := by
  obtain ⟨before, s, rfl, -, some, received, accepted⟩ := standing.of_sending phase
  refine .receiving receiving alone ?_
  have last : batchesOf hostId hosts [s] = [batchOf hostId hosts s] := by simp [batchesOf, some]
  rw [History.accepted_append, History.received_append, accepted, received, batchesOf_append,
    batchesOf_append, last]
  exact (List.append_nil _).symm

theorem move (standing : Standing hostId hosts h m) (move : Move m e effects n)
    (own : m.nextBatch = batchOf hostId hosts) :
    Standing hostId hosts (h ++ [⟨m, now, e, effects, n⟩]) n := by
  cases move with
  | handOver | cease | signal | hangUp => exact standing.aside rfl rfl
  | take step =>
    cases step with
    | take _ found => exact standing.aside rfl (Queue.waiting_take? found)
  | giveBack step =>
    cases step
    exact standing.aside rfl Queue.waiting_giveBack
  | drop step =>
    cases step
    exact standing.aside rfl rfl
  | @skip s rest phase handed none =>
    obtain ⟨alone, all⟩ := standing.of_receiving phase
    rw [own] at none
    refine .receiving phase alone ?_
    simp [all, batchesOf, none]
  | @receive s rest phase handed some =>
    obtain ⟨alone, all⟩ := standing.of_receiving phase
    rw [own] at some ⊢
    refine .sending rfl (.inl alone) some (History.received_append h _) ?_
    rw [History.accepted_append, all]
    exact List.append_nil _
  | runDry phase =>
    refine standing.ends rfl ⟨rfl, rfl⟩ fun b sends => ?_
    simp [phase] at sends
  | stop running => exact standing.ends rfl ⟨rfl, rfl⟩ fun b sends => .inl rfl
  | accept phase alone step =>
    cases step with
    | accept _ free => exact standing.accepts phase rfl ((Queue.waiting_offer free).trans alone)
  | wait phase alone step =>
    obtain ⟨before, s, rfl, -, some, received, accepted⟩ := standing.of_sending phase
    cases step with
    | hold _ full =>
      refine .sending phase (.inr ?_) some (by simpa using received) (by simpa using accepted)
      rw [Queue.waiting_offer_of_full full, alone]
      rfl
  | refuse phase alone step =>
    cases step with
    | refuse dead =>
      refine standing.ends rfl ⟨rfl, rfl⟩ fun b sends => .inr ⟨?_, dead⟩
      cases phase.symm.trans sends
      rfl
  | enter phase step =>
    cases step with
    | enter _ found =>
      obtain ⟨rfl, alone⟩ := standing.only_waiting phase (Queue.waiting_enter?_zero found)
      exact standing.accepts phase rfl alone
  | bounce phase step =>
    cases step with
    | bounce dead found =>
      refine standing.ends rfl ⟨rfl, rfl⟩ fun b sends => .inr ⟨?_, dead⟩
      obtain ⟨first, -⟩ := Queue.waiting_withdraw? found
      obtain ⟨_, waiting⟩ := List.head?_eq_some_iff.mp (List.head?_eq_getElem?.trans first)
      rw [(standing.only_waiting sends waiting).1]

theorem of_run (alone : q.waiting = []) (run : Run (.start hostId hosts capacity q) h m) :
    Standing hostId hosts h m := by
  have kept : m.nextBatch = batchOf hostId hosts ∧ Standing hostId hosts h m := by
    refine run.keeps (P := fun h m => m.nextBatch = batchOf hostId hosts ∧
      Standing hostId hosts h m) ⟨rfl, .receiving rfl alone rfl⟩ fun ⟨own, standing⟩ move => ?_
    exact ⟨move.nextBatch_eq.trans own, standing.move move own⟩
  exact kept.2

end Standing

structure Evidence (h : History) (m : Ingestion) : Prop where
  signalled : m.signals.isReady = true → ∃ y ∈ h, y.event = .signal ∨ y.event = .hangUp
  ceased : m.producing = false → ∃ y ∈ h, y.event = .cease
  dropped : m.mailbox.live = false → ∃ y ∈ h, y.event = .drop

theorem Move.shown (move : Move m e effects n) :
    (n.signals.isReady = true → m.signals.isReady = true ∨ e = .signal ∨ e = .hangUp) ∧
      (n.producing = false → m.producing = false ∨ e = .cease) ∧
      (n.mailbox.live = false → m.mailbox.live = false ∨ e = .drop) := by
  cases move with
  | signal | hangUp | cease => simp
  | drop => simp
  | stop running ready step =>
    exact ⟨fun _ => .inl ready, .inl, fun gone => .inl (step.gone gone nofun)⟩
  | take step | giveBack step | accept _ _ step | wait _ _ step | refuse _ _ step | enter _ step
  | bounce _ step => exact ⟨.inl, .inl, fun gone => .inl (step.gone gone nofun)⟩
  | _ => exact ⟨.inl, .inl, .inl⟩

theorem evidence_of_run (run : Run (.start hostId hosts capacity q) h m) : Evidence h m := by
  refine run.keeps (P := Evidence) ⟨by simp [start, Signals.start, Signals.isReady], nofun, nofun⟩
    fun {h now m e effects n} ih move => ?_
  obtain ⟨signals, producing, live⟩ := move.shown
  -- What a step shows for the first time was done in it.
  have found {P : Transition → Prop} (known : (∃ y ∈ h, P y) ∨ P ⟨m, now, e, effects, n⟩) :
      ∃ y ∈ h ++ [⟨m, now, e, effects, n⟩], P y := by
    simpa [or_and_right, exists_or] using known
  exact ⟨fun ready => found ((signals ready).imp_left ih.signalled),
    fun gone => found ((producing gone).imp_left ih.ceased),
    fun gone => found ((live gone).imp_left ih.dropped)⟩

/-- Why the ingestor ends with this step, after this history. -/
inductive Cause (h : History) (x : Transition) : Prop
  | signal : x.event = .stop → y ∈ h → y.event = .signal ∨ y.event = .hangUp → Cause h x
  | producer : x.event = .runDry → y ∈ h → y.event = .cease → h.received = h.handedOver →
      Cause h x
  | queue : x.effects = [.refused c] → y ∈ h → y.event = .drop → Cause h x

theorem cause_of_end (run : Run (.start hostId hosts capacity q) h m) (move : Move m e effects n)
    (running : m.ingestor.phase ≠ .stopped) (stopped : n.ingestor.phase = .stopped) :
    Cause h ⟨m, now, e, effects, n⟩ := by
  have evidence := evidence_of_run run
  have dead {f : Mailbox.Event} {c : Batch} {o : Mailbox}
      (step : Mailbox.Move m.mailbox f (.refused c) o) : ∃ y ∈ h, y.event = .drop :=
    evidence.dropped (by cases step <;> assumption)
  cases move with
  | runDry phase gone handed =>
    obtain ⟨y, hy, ceased⟩ := evidence.ceased gone
    refine .producer rfl hy ceased ?_
    have all := run.handedOver_eq
    rw [handed, List.append_nil] at all
    exact all.symm
  | stop _ ready =>
    obtain ⟨y, hy, signalled⟩ := evidence.signalled ready
    exact .signal rfl hy signalled
  | refuse _ _ step | bounce _ step =>
    obtain ⟨y, hy, dropped⟩ := dead step
    exact .queue rfl hy dropped
  | receive | accept | enter => cases stopped
  | _ => exact absurd stopped running

theorem Run.ended (run : Run (.start hostId hosts capacity q) h m)
    (stopped : m.ingestor.phase = .stopped) : ∃ h₁ x h₂, h = h₁ ++ x :: h₂ ∧
      x.source.ingestor.phase ≠ .stopped ∧ x.target.ingestor.phase = .stopped ∧ Cause h₁ x := by
  induction run with
  | nil => cases stopped
  | @step h m now e n effects run made ih =>
    by_cases before : m.ingestor.phase = .stopped
    · obtain ⟨h₁, x, h₂, rfl, ended⟩ := ih before
      exact ⟨h₁, x, h₂ ++ [⟨m, now, e, effects, n⟩], by simp, ended⟩
    · exact ⟨h, _, [], rfl, before, stopped, cause_of_end run (move_of_step made) before stopped⟩

/-- The batch of a snapshot is missing from what the queue accepted: its send is still pending, or
was when the ingestor ended. -/
structure Missing (hostId : String) (hosts : CustomHosts) (h : History) (m : Ingestion)
    (s : Snapshot) : Prop where
  sampled : (batchOf hostId hosts s).samples ≠ []
  unsent : m.ingestor.phase = .sending (batchOf hostId hosts s) ∨
    m.ingestor.phase = .stopped ∧ LeftBehind h (batchOf hostId hosts s)

/-- The queue accepts the batches of the snapshots received, in order. Those without samples are
never sent, and the last one may be missing. -/
structure Faithful (hostId : String) (hosts : CustomHosts) (q : Queue) (h : History)
    (m : Ingestion) : Prop where
  received : h.handedOver = h.received ++ m.handed
  upTo : ∃ before, ∃ missing : Option Snapshot, h.received = before ++ missing.toList ∧
    h.accepted = batchesOf hostId hosts before ∧ ∀ s ∈ missing, Missing hostId hosts h m s
  queued : ∃ k, Mailbox.Run ⟨q, true⟩ k m.mailbox ∧ k.accepted = h.accepted
  ended : m.ingestor.phase = .stopped → ∃ h₁ x h₂, h = h₁ ++ x :: h₂ ∧
    x.source.ingestor.phase ≠ .stopped ∧ x.target.ingestor.phase = .stopped ∧ Cause h₁ x

theorem Standing.upTo (standing : Standing hostId hosts h m) :
    ∃ before, ∃ missing : Option Snapshot, h.received = before ++ missing.toList ∧
      h.accepted = batchesOf hostId hosts before ∧ ∀ s ∈ missing, Missing hostId hosts h m s := by
  cases standing with
  | receiving _ _ all | stopped _ all => exact ⟨h.received, none, by simp, all, by simp⟩
  | @sending s before phase _ some received accepted =>
    refine ⟨before, .some s, received, accepted, fun t ht => ?_⟩
    cases ht
    exact ⟨some, .inl phase⟩
  | @behind s before phase some received accepted behind =>
    refine ⟨before, .some s, received, accepted, fun t ht => ?_⟩
    cases ht
    exact ⟨some, .inr ⟨phase, behind⟩⟩

theorem hands_over_faithful_prefix (alone : q.waiting = [])
    (run : Run (.start hostId hosts capacity q) h m) : Faithful hostId hosts q h m := by
  constructor
  case received => exact run.handedOver_eq
  case upTo => exact (Standing.of_run alone run).upTo
  case queued => exact run.exists_mailbox
  case ended => exact run.ended

def reading : Snapshot := ⟨.epoch, [⟨none, ⟨[("value", ⟨0⟩)], by decide⟩⟩]⟩

theorem prefix_of_a_trial_faithful : ∃ h m,
    (⟨1, [], [], [], by decide, by decide⟩ : Queue).waiting = [] ∧
    Run (.start "host" .empty 1 ⟨1, [], [], [], by decide, by decide⟩) h m ∧
    h.received.length = 2 ∧ h.accepted.length = 1 ∧ m.ingestor.phase = .stopped ∧
    Faithful "host" .empty ⟨1, [], [], [], by decide, by decide⟩ h m := by
  obtain ⟨h, m, run, seen⟩ := Machine.Run.of_play step
    (.start "host" .empty 1 ⟨1, [], [], [], by decide, by decide⟩)
    ([.handOver reading, .receive, .offer, .handOver reading, .receive, .offer, .signal,
      .stop].map fun e => (default, e))
    (fun r => ((History.received r.1).length, (History.accepted r.1).length, r.2.ingestor.phase))
    (show _ = some (2, 1, .stopped) by decide +kernel)
  simp only [Prod.mk.injEq] at seen
  exact ⟨h, m, rfl, run, seen.1, seen.2.1, seen.2.2, hands_over_faithful_prefix rfl run⟩

end Ingestion

end HostMonitor.Posting
