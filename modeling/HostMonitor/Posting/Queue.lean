import HostMonitor.Metric.Sample

/-!
The post queue. Producers send batches into a channel of bounded capacity and wait while it is full;
a slot that becomes free belongs at once to the oldest waiting send without one. The scheduler takes
batches from the channel, and puts back those that it could not post: into the channel where there
is room, else onto a list beside it, so that it never waits for itself.
-/

namespace HostMonitor.Posting

open HostMonitor.Metric (Batch)

structure Queue : Type where
  capacity : Nat
  channel : List Batch
  /-- Sends that have begun and are not accepted yet, oldest first. -/
  waiting : List Batch
  overflow : List Batch
  capacity_pos : 0 < capacity
  channel_le : channel.length ≤ capacity

namespace Queue

def capacityLimit : Nat := 0x1fff_ffff_ffff_ffff

def capacityMessage : String :=
  "a semaphore may not have more than MAX_PERMITS permits (2305843009213693951)"

def ofCapacity? (n : Nat) : Option Queue :=
  if max n 1 ≤ capacityLimit then some ⟨max n 1, [], [], [], by omega, Nat.zero_le _⟩ else none

/-- Waiting sends that have a slot and only need to use it. -/
def granted (q : Queue) : Nat := min q.waiting.length (q.capacity - q.channel.length)

def free (q : Queue) : Nat := q.capacity - (q.channel.length + q.waiting.length)

def queued (q : Queue) : Nat := q.channel.length + q.granted

def held (q : Queue) : List Batch := q.channel ++ q.overflow

def length (q : Queue) : Nat := q.held.length

def isEmpty (q : Queue) : Bool := q.held.isEmpty

def offer (q : Queue) (b : Batch) : Queue × Bool :=
  if h : 0 < q.free then
    ({ q with
        channel := q.channel ++ [b]
        channel_le := by simp only [free] at h; simp; omega }, true)
  else ({ q with waiting := q.waiting ++ [b] }, false)

/-- The waiting send at index `i` uses its slot. Those that have one do so in any order. -/
def enter? (q : Queue) (i : Nat) : Option (Batch × Queue) :=
  if h : i < q.granted then
    q.waiting[i]?.map fun b => (b, { q with
      channel := q.channel ++ [b]
      waiting := q.waiting.eraseIdx i
      channel_le := by simp only [granted] at h; simp; omega })
  else none

def withdraw? (q : Queue) (i : Nat) : Option (Batch × Queue) :=
  q.waiting[i]?.map fun b => (b, { q with waiting := q.waiting.eraseIdx i })

def take? (q : Queue) : Option (Batch × Queue) :=
  match h : q.channel, q.overflow with
  | b :: bs, _ =>
    some (b, { q with
      channel := bs
      channel_le := by have := q.channel_le; simp [h] at this; omega })
  | [], b :: bs => some (b, { q with overflow := bs })
  | [], [] => none

def giveBack (q : Queue) (b : Batch) : Queue :=
  if h : 0 < q.free then
    { q with
      channel := q.channel ++ [b]
      channel_le := by simp only [free] at h; simp; omega }
  else { q with overflow := q.overflow ++ [b] }

def enterAll (q : Queue) : List Batch × Queue :=
  let n := q.granted
  (q.waiting.take n, { q with
    channel := q.channel ++ q.waiting.take n
    waiting := q.waiting.drop n
    channel_le := by have := q.channel_le; simp [n, granted]; omega })

theorem granted_le (q : Queue) : q.channel.length + q.granted ≤ q.capacity := by
  have := q.channel_le
  simp [granted]; omega

theorem take?_isSome (q : Queue) : q.take?.isSome = !q.isEmpty := by
  unfold take? isEmpty held
  split <;> simp_all

end Queue

end HostMonitor.Posting
