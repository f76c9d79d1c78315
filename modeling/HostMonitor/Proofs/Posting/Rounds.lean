import HostMonitor.Proofs.Posting.Mailbox
import HostMonitor.Rehearsal.Steps

namespace HostMonitor.Posting

open HostMonitor.Metric (Batch)
open Rehearsal (Ends Result)

namespace Queue

variable {q r : Queue} {b : Batch}

theorem eq_of_fields (capacity : q.capacity = r.capacity) (channel : q.channel = r.channel)
    (waiting : q.waiting = r.waiting) (overflow : q.overflow = r.overflow) : q = r := by
  cases q
  cases r
  simp only at capacity channel waiting overflow
  subst capacity channel waiting overflow
  rfl

theorem enterAll_of_granted (none : q.granted = 0) : q.enterAll = ([], q) := by
  refine Prod.ext ?_ (eq_of_fields ?_ ?_ ?_ ?_) <;> simp [enterAll, none]

theorem enterAll_of_enter? (h : q.enter? 0 = some (b, r)) :
    q.enterAll = (b :: r.enterAll.1, r.enterAll.2) := by
  have granted := granted_enter? h
  have waiting := waiting_enter?_zero h
  have channel := channel_enter? h
  refine Prod.ext ?_ (eq_of_fields ?_ ?_ ?_ ?_)
  · simp [enterAll, granted, waiting]
  · exact (capacity_enter? h).symm
  · simp [enterAll, granted, waiting, channel]
  · simp [enterAll, granted, waiting]
  · exact (overflow_enter? h).symm

theorem granted_enterAll : q.enterAll.2.granted = 0 := by
  simp only [enterAll, granted, List.length_append, List.length_take, List.length_drop]
  omega

end Queue

namespace Mailbox

variable {m n o : Mailbox} {h k : History} {e : Event} {f : Effect} {q : Queue} {op : Ends.Op}

def settle (m : Mailbox) : Mailbox := { m with queue := m.queue.enterAll.2 }

theorem Run.settles (live : m.live = true) :
    ∃ k, Run m k m.settle ∧ k.Entering ∧ k.OldestFirst ∧ k.accepted = m.queue.enterAll.1 := by
  generalize granted : m.queue.granted = i
  induction i generalizing m with
  | zero =>
    rw [settle, Queue.enterAll_of_granted granted]
    exact ⟨[], .nil, nofun, nofun, rfl⟩
  | succ i ih =>
    obtain ⟨b, q, found⟩ := Queue.exists_enter? (q := m.queue) (i := 0) (by omega)
    have fewer := Queue.granted_enter? found
    obtain ⟨k, run, entering, oldest, accepted⟩ :=
      ih (m := { m with queue := q }) live (by simp; omega)
    rw [settle, Queue.enterAll_of_enter? found]
    refine ⟨_, (Run.single (.enter live found)).append run, ?_, ?_, ?_⟩
    · intro x hx
      rcases List.mem_append.mp hx with hx | hx
      · cases List.mem_singleton.mp hx
        exact ⟨0, rfl⟩
      · exact entering x hx
    · intro x hx j entered
      rcases List.mem_append.mp hx with hx | hx
      · cases List.mem_singleton.mp hx
        cases entered
        rfl
      · exact oldest x hx j entered
    · simpa [Transition.accepted?] using accepted

def Event.ofOp? : Ends.Op → Option Event
  | .send b => some (.offer b)
  | .cancel i => some (.withdraw i)
  | .giveBack b => some (.giveBack b)
  | .dropSender => none
  | .dropQueue => some .drop
  | .tryReceive => some .take
  | .receive => some .receive

def Effect.result : Effect → Result
  | .accepted _ => .sent
  | .waits _ => .blocked
  | .withdrew _ => .cancelled
  | .refused _ => .closed
  | .gaveBack _ | .dropped => .done
  | .took b => .batch (some b)
  | .missed => .nothing
  | .nothing => .batch none
  | .pending => .pending

def ending (m : Mailbox) : List Bool :=
  if m.live then m.queue.enterAll.1.map fun _ => true else m.queue.waiting.map fun _ => false

def ends (m : Mailbox) : Ends := ⟨true, if m.live then some m.queue.enterAll.2 else none⟩

theorem move_of_op (settled : q.granted = 0) (asked : Event.ofOp? op = some e) :
    ∃ f n, Move ⟨q, true⟩ e f n ∧ Ends.step ⟨true, some q⟩ op = (f.result, n.ending, n.ends) := by
  cases op with
  | send b =>
    cases asked
    by_cases free : 0 < q.free
    · refine ⟨_, _, .accept rfl free, ?_⟩
      simp [Ends.step, Ends.step.settled, Effect.result, ending, ends, Queue.offer, free]
    · refine ⟨_, _, .hold rfl (by simpa using free), ?_⟩
      simp [Ends.step, Ends.step.settled, Effect.result, ending, ends, Queue.offer, free]
  | cancel i =>
    cases asked
    cases found : q.withdraw? i with
    | none =>
      refine ⟨_, _, .miss found, ?_⟩
      simp [Ends.step, Effect.result, ending, ends, found, Queue.enterAll_of_granted settled]
    | some pair =>
      refine ⟨_, _, .withdraw rfl found, ?_⟩
      simp [Ends.step, Ends.step.settled, Effect.result, ending, ends, found]
  | giveBack b =>
    cases asked
    refine ⟨_, _, .giveBack rfl, ?_⟩
    simp [Ends.step, Ends.step.settled, Effect.result, ending, ends]
  | dropSender => cases asked
  | dropQueue =>
    cases asked
    refine ⟨_, _, .drop rfl, ?_⟩
    simp [Ends.step, Effect.result, ending, ends]
  | tryReceive =>
    cases asked
    cases found : q.take? with
    | none =>
      refine ⟨_, _, .nothing rfl found, ?_⟩
      simp [Ends.step, Ends.step.settled, Effect.result, ending, ends, found]
    | some pair =>
      refine ⟨_, _, .take rfl found, ?_⟩
      simp [Ends.step, Ends.step.settled, Effect.result, ending, ends, found]
  | receive =>
    cases asked
    cases found : q.take? with
    | none =>
      refine ⟨_, _, .pending rfl found, ?_⟩
      simp [Ends.step, Ends.step.settled, Effect.result, ending, ends, found]
    | some pair =>
      refine ⟨_, _, .receive rfl found, ?_⟩
      simp [Ends.step, Ends.step.settled, Effect.result, ending, ends, found]

/-- What comes of operations that are done one after the other. -/
def rehearse (s : Ends) : List Ends.Op → List (Result × List Bool) × Ends
  | [] => ([], s)
  | op :: ops =>
    let (r, endings, s) := s.step op
    let (rs, s) := rehearse s ops
    ((r, endings) :: rs, s)

def Transition.outcome (x : Transition) : Result × List Bool := (x.effect.result, x.target.ending)

theorem Move.stays (move : Move m e f n) (live : m.live = true) (other : e ≠ .drop) :
    n.live = true := by
  cases move <;> simp_all

theorem Move.isEnter_eq_false (asked : Event.ofOp? op = some e) : e.isEnter = false := by
  cases op <;> cases asked <;> rfl

theorem History.operations_of_entering (entering : k.Entering) : k.operations = [] :=
  List.filter_eq_nil_iff.mpr fun x hx => by
    obtain ⟨i, entered⟩ := entering x hx
    simp [entered, Event.isEnter]

/-- Operations on a queue that is there make a run of the mailbox, in which no send begins while an
older one has still to use its slot, and the oldest is always the next to use its own. -/
theorem Run.rehearsed (settled : q.granted = 0) {ops : List Ends.Op} {es : List Event}
    (asked : ops.map Event.ofOp? = es.map some) (stays : .drop ∉ es) :
    ∃ h r, Run ⟨q, true⟩ h ⟨r, true⟩ ∧ h.Prompt ∧ h.OldestFirst ∧ r.granted = 0 ∧
      h.operations.map Transition.event = es ∧
      rehearse ⟨true, some q⟩ ops = (h.operations.map Transition.outcome, ⟨true, some r⟩) := by
  induction ops generalizing q es with
  | nil =>
    obtain rfl : es = [] := by simpa using asked.symm
    exact ⟨[], q, .nil, nofun, nofun, settled, rfl, rfl⟩
  | cons op ops ih =>
    obtain ⟨e, es, rfl⟩ : ∃ e es', es = e :: es' := by
      cases es with
      | nil => simp at asked
      | cons e es => exact ⟨e, es, rfl⟩
    obtain ⟨asked, rest⟩ : Event.ofOp? op = some e ∧ ops.map Event.ofOp? = es.map some := by
      simpa using asked
    simp only [List.mem_cons, not_or] at stays
    obtain ⟨f, n, move, stepped⟩ := move_of_op settled asked
    have live : n.live = true := move.stays rfl (Ne.symm stays.1)
    obtain ⟨k, settles, entering, inTurn, -⟩ := Run.settles live
    obtain ⟨h, r, run, prompt, oldest, spent, events, outcomes⟩ :=
      ih (q := n.queue.enterAll.2) Queue.granted_enterAll rest stays.2
    have there : n.settle = ⟨n.queue.enterAll.2, true⟩ := by rw [settle, live]
    rw [there] at settles
    have other := Move.isEnter_eq_false asked
    -- The operation, then the sends that got a slot by it, then the other operations.
    refine ⟨_, r, ((Run.single move).append settles).append run, ?_, ?_, spent, ?_, ?_⟩
    · intro x hx b begun
      simp only [List.mem_append, List.mem_singleton] at hx
      obtain (rfl | hx) | hx := hx
      · exact settled
      · obtain ⟨i, entered⟩ := entering x hx
        simp [entered] at begun
      · exact prompt x hx b begun
    · intro x hx i entered
      simp only [List.mem_append, List.mem_singleton] at hx
      obtain (rfl | hx) | hx := hx
      · simp [show e = .enter i from entered, Event.isEnter] at other
      · exact inTurn x hx i entered
      · exact oldest x hx i entered
    · have silent := History.operations_of_entering entering
      simp only [History.operations, List.filter_append, List.map_append] at silent events ⊢
      simp [silent, events, other]
    · have silent := History.operations_of_entering entering
      have ends : n.ends = ⟨true, some n.queue.enterAll.2⟩ := by simp [ends, live]
      simp only [History.operations, List.filter_append, List.map_append] at silent outcomes ⊢
      simp [rehearse, stepped, ends, outcomes, silent, other, Transition.outcome]

end Mailbox

end HostMonitor.Posting
