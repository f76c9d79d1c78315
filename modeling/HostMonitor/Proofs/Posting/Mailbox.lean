import HostMonitor.Proofs.Posting.Queue

/-!
A post queue between those who send into it and the one who takes from it. `Mailbox.Move` says what
can happen, one thing at a time: a waiting send that has a slot may use it at any later moment, and
sends may come when the queue is gone.
-/

namespace HostMonitor.Posting

open HostMonitor.Metric (Batch)

structure Mailbox : Type where
  queue : Queue
  live : Bool

namespace Mailbox

inductive Event : Type
  | offer (b : Batch)
  | enter (index : Nat)
  | withdraw (index : Nat)
  | giveBack (b : Batch)
  | take
  | receive
  | drop

inductive Effect : Type
  | accepted (b : Batch)
  | waits (b : Batch)
  | withdrew (b : Batch)
  | refused (b : Batch)
  | gaveBack (b : Batch)
  | took (b : Batch)
  | missed
  | nothing
  | pending
  | dropped

open Event Effect

inductive Move (m : Mailbox) : Event → Effect → Mailbox → Prop
  | refuse : m.live = false → Move m (.offer b) (refused b) m
  | accept : m.live = true → 0 < m.queue.free →
      Move m (.offer b) (accepted b) { m with queue := (m.queue.offer b).1 }
  | hold : m.live = true → m.queue.free = 0 →
      Move m (.offer b) (waits b) { m with queue := (m.queue.offer b).1 }
  | enter : m.live = true → m.queue.enter? i = some (b, q) →
      Move m (.enter i) (accepted b) { m with queue := q }
  | bounce : m.live = false → m.queue.withdraw? i = some (b, q) →
      Move m (.withdraw i) (refused b) { m with queue := q }
  | withdraw : m.live = true → m.queue.withdraw? i = some (b, q) →
      Move m (.withdraw i) (withdrew b) { m with queue := q }
  | miss : m.queue.withdraw? i = none → Move m (.withdraw i) missed m
  | giveBack : m.live = true →
      Move m (.giveBack b) (gaveBack b) { m with queue := m.queue.giveBack b }
  | take : m.live = true → m.queue.take? = some (b, q) →
      Move m .take (took b) { m with queue := q }
  | nothing : m.live = true → m.queue.take? = none → Move m .take nothing m
  | receive : m.live = true → m.queue.take? = some (b, q) →
      Move m .receive (took b) { m with queue := q }
  | pending : m.live = true → m.queue.take? = none → Move m .receive pending m
  | drop : m.live = true → Move m .drop dropped { m with live := false }

structure Transition : Type where
  source : Mailbox
  event : Event
  effect : Effect
  target : Mailbox

abbrev History : Type := List Transition

def Event.isEnter : Event → Bool
  | .enter _ => true
  | _ => false

namespace Transition

variable (x : Transition)

def offered? : Option Batch :=
  match x.event with
  | .offer b => some b
  | _ => none

def accepted? : Option Batch :=
  match x.effect with
  | .accepted b => some b
  | _ => none

def withdrew? : Option Batch :=
  match x.effect with
  | .withdrew b => some b
  | _ => none

def refused? : Option Batch :=
  match x.effect with
  | .refused b => some b
  | _ => none

def gaveBack? : Option Batch :=
  match x.effect with
  | .gaveBack b => some b
  | _ => none

def took? : Option Batch :=
  match x.effect with
  | .took b => some b
  | _ => none

def put? : Option Batch := x.accepted? <|> x.gaveBack?

def shelves : Bool := x.source.queue.overflow.length < x.target.queue.overflow.length

def fetches : Bool := x.target.queue.overflow.length < x.source.queue.overflow.length

def lined? : Option Batch := if x.shelves then none else x.put?

def shelved? : Option Batch := if x.shelves then x.put? else none

def served? : Option Batch := if x.fetches then none else x.took?

def fetched? : Option Batch := if x.fetches then x.took? else none

end Transition

namespace History

variable (h : History)

def seen (f : Transition → Option α) : List α := h.filterMap f

abbrev offered : List Batch := h.seen Transition.offered?

abbrev accepted : List Batch := h.seen Transition.accepted?

abbrev withdrawn : List Batch := h.seen Transition.withdrew?

abbrev refused : List Batch := h.seen Transition.refused?

abbrev returned : List Batch := h.seen Transition.gaveBack?

abbrev taken : List Batch := h.seen Transition.took?

abbrev lined : List Batch := h.seen Transition.lined?

abbrev shelved : List Batch := h.seen Transition.shelved?

abbrev served : List Batch := h.seen Transition.served?

abbrev fetched : List Batch := h.seen Transition.fetched?

@[simp] theorem seen_nil (f : Transition → Option α) : seen [] f = [] := rfl

@[simp] theorem seen_append (h k : History) (f : Transition → Option α) :
    seen (h ++ k) f = h.seen f ++ k.seen f := List.filterMap_append

@[simp] theorem seen_cons (x : Transition) (h : History) (f : Transition → Option α) :
    seen (x :: h) f = (f x).toList ++ h.seen f := by
  cases seen : f x <;> simp [History.seen, seen]

/-- No send begins while an older one has a slot that it has not used. -/
def Prompt : Prop := ∀ x ∈ h, ∀ b, x.event = .offer b → x.source.queue.granted = 0

/-- Of the sends that have a slot, the oldest is always the next to use it. -/
def OldestFirst : Prop := ∀ x ∈ h, ∀ i, x.event = .enter i → i = 0

def Entering : Prop := ∀ x ∈ h, ∃ i, x.event = .enter i

def operations : History := h.filter fun x => !x.event.isEnter

end History

inductive Run (m : Mailbox) : History → Mailbox → Prop
  | nil : Run m [] m
  | step : Run m h n → Move n e f o → Run m (h ++ [⟨n, e, f, o⟩]) o

variable {m n o : Mailbox} {h k : History} {e : Event} {f : Effect} {x : Transition}

namespace Run

theorem single (move : Move m e f n) : Run m [⟨m, e, f, n⟩] n := Run.nil.step move

theorem append (run : Run m h n) (rest : Run n k o) : Run m (h ++ k) o := by
  induction rest with
  | nil => simpa using run
  | step _ move ih => simpa using ih.step move

theorem move (run : Run m h n) (hx : x ∈ h) : Move x.source x.event x.effect x.target := by
  induction run with
  | nil => cases hx
  | step run made ih =>
    rcases List.mem_append.mp hx with hx | hx
    · exact ih hx
    · cases List.mem_singleton.mp hx
      exact made

theorem keeps {P : Mailbox → Prop} (run : Run m h n)
    (keep : ∀ {m e f n}, Move m e f n → P m → P n) (start : P m) : P n := by
  induction run with
  | nil => exact start
  | step _ made ih => exact keep made ih

end Run

theorem Move.capacity_eq (move : Move m e f n) : n.queue.capacity = m.queue.capacity := by
  cases move with
  | accept | hold => exact Queue.capacity_offer
  | enter live found => exact Queue.capacity_enter? found
  | bounce live found | withdraw live found => exact Queue.capacity_withdraw? found
  | giveBack => exact Queue.capacity_giveBack
  | take live found | receive live found => exact Queue.capacity_take? found
  | _ => rfl

theorem Move.was_live (move : Move m e f n) (live : n.live = true) : m.live = true := by
  cases move <;> simp_all

theorem Move.gone (move : Move m e f n) (gone : n.live = false) (kept : e ≠ .drop) :
    m.live = false := by
  cases move <;> simp_all

theorem Run.capacity_eq (run : Run m h n) : n.queue.capacity = m.queue.capacity :=
  run.keeps (P := fun o => o.queue.capacity = m.queue.capacity)
    (fun move same => move.capacity_eq.trans same) rfl

theorem Run.was_live (run : Run m h n) (live : n.live = true) : m.live = true := by
  induction run with
  | nil => exact live
  | step _ made ih => exact ih (made.was_live live)

end Mailbox

end HostMonitor.Posting
