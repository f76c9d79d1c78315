import HostMonitor.Proofs.Posting.Mailbox
import Mathlib.Data.List.Nodup
import Mathlib.Data.List.Perm.Basic

namespace HostMonitor.Posting

open HostMonitor.Metric (Batch)
open Mailbox (Event Effect Transition History Move Run)

def Mailbox.slots (m : Mailbox) : Nat := m.queue.capacity - m.queue.channel.length

structure Send : Type where
  number : Nat
  batch : Batch
  deriving DecidableEq

/-- What has become of each send, by the number with which it began. The book is kept for proofs only:
it follows what happens to a mailbox. -/
structure Book : Type where
  begun : List Send
  waiting : List Send
  /-- Those that were given a slot, in the order in which they were. -/
  admitted : List Send
  accepted : List Send
  calledOff : List Send
  refused : List Send

namespace Book

def empty : Book := ⟨[], [], [], [], [], []⟩

def next (k : Book) (b : Batch) : Send := ⟨k.begun.length, b⟩

def start (k : Book) (b : Batch) : Book :=
  { k with begun := k.begun ++ [k.next b], waiting := k.waiting ++ [k.next b] }

def conclude (k : Book) (i : Nat) (f : Effect) : Book :=
  match k.waiting[i]?, f with
  | some s, .accepted _ =>
    { k with waiting := k.waiting.eraseIdx i, accepted := k.accepted ++ [s] }
  | some s, .withdrew _ =>
    { k with waiting := k.waiting.eraseIdx i, calledOff := k.calledOff ++ [s] }
  | some s, .refused _ =>
    { k with waiting := k.waiting.eraseIdx i, refused := k.refused ++ [s] }
  | _, _ => k

def record (k : Book) (x : Transition) : Book :=
  match x.event with
  | .offer b => (k.start b).conclude k.waiting.length x.effect
  | .enter i | .withdraw i => k.conclude i x.effect
  | _ => k

/-- The slots that are not in use are given to the oldest waiting sends. -/
def grant (k : Book) (m : Mailbox) : Book :=
  if m.live then
    { k with admitted :=
        k.admitted ++ (k.accepted ++ k.waiting.take m.slots).filter (· ∉ k.admitted) }
  else k

def follow (k : Book) (x : Transition) : Book := (k.record x).grant x.target

def of (h : History) : Book := h.foldl follow empty

@[simp] theorem of_nil : of [] = empty := rfl

@[simp] theorem of_append (h : History) (x : Transition) : of (h ++ [x]) = (of h).follow x := by
  simp [of]

def places (k : Book) : List Send := k.accepted ++ k.waiting ++ k.calledOff ++ k.refused

structure Balanced (k : Book) : Prop where
  numbered : k.begun.map Send.number = List.range k.begun.length
  placed : k.begun.Perm k.places
  known : k.admitted ⊆ k.begun

theorem balanced_empty : empty.Balanced := ⟨rfl, .nil, nofun⟩

variable {k : Book} {h : History} {m n : Mailbox} {e : Event} {f : Effect} {b : Batch} {i : Nat}
  {s : Send}

theorem places_conclude : k.places.Perm (k.conclude i f).places := by
  -- The send that ends leaves the line for one of the other places.
  have left {s : Send} (found : k.waiting[i]? = some s) (x : Send) :
      k.waiting.count x = (k.waiting.eraseIdx i).count x + [s].count x := by
    obtain ⟨bound, rfl⟩ := List.getElem?_eq_some_iff.mp found
    rw [← (List.getElem_cons_eraseIdx_perm bound).count_eq, ← List.singleton_append,
      List.count_append, Nat.add_comm]
  refine List.perm_iff_count.mpr fun x => ?_
  unfold conclude
  split
  · next found =>
    simp only [places, List.count_append, left found x]
    omega
  · next found =>
    simp only [places, List.count_append, left found x]
    omega
  · next found =>
    simp only [places, List.count_append, left found x]
    omega
  · rfl

@[simp] theorem begun_conclude : (k.conclude i f).begun = k.begun := by
  unfold conclude
  split <;> rfl

@[simp] theorem admitted_conclude : (k.conclude i f).admitted = k.admitted := by
  unfold conclude
  split <;> rfl

@[simp] theorem begun_grant : (k.grant m).begun = k.begun := by
  unfold grant
  split <;> rfl

@[simp] theorem waiting_grant : (k.grant m).waiting = k.waiting := by
  unfold grant
  split <;> rfl

@[simp] theorem accepted_grant : (k.grant m).accepted = k.accepted := by
  unfold grant
  split <;> rfl

@[simp] theorem calledOff_grant : (k.grant m).calledOff = k.calledOff := by
  unfold grant
  split <;> rfl

@[simp] theorem refused_grant : (k.grant m).refused = k.refused := by
  unfold grant
  split <;> rfl

@[simp] theorem places_grant : (k.grant m).places = k.places := by
  simp [places]

theorem admitted_grant (live : m.live = true) : (k.grant m).admitted =
    k.admitted ++ (k.accepted ++ k.waiting.take m.slots).filter (· ∉ k.admitted) := by
  simp [grant, live]

namespace Balanced

theorem start (balanced : k.Balanced) (b : Batch) : (k.start b).Balanced where
  numbered := by simp [Book.start, next, balanced.numbered, List.range_succ]
  placed := by
    refine List.perm_iff_count.mpr fun x => ?_
    have placed := List.perm_iff_count.mp balanced.placed x
    simp only [places, Book.start, List.count_append] at placed ⊢
    omega
  known := fun s hs => List.mem_append_left _ (balanced.known hs)

theorem conclude (balanced : k.Balanced) (i : Nat) (f : Effect) : (k.conclude i f).Balanced where
  numbered := by rw [begun_conclude]; exact balanced.numbered
  placed := by rw [begun_conclude]; exact balanced.placed.trans places_conclude
  known := by rw [begun_conclude, admitted_conclude]; exact balanced.known

theorem grant (balanced : k.Balanced) (m : Mailbox) : (k.grant m).Balanced where
  numbered := by rw [begun_grant]; exact balanced.numbered
  placed := by rw [begun_grant, places_grant]; exact balanced.placed
  known := by
    rw [begun_grant]
    cases live : m.live with
    | false => simpa [Book.grant, live] using balanced.known
    | true =>
      rw [admitted_grant live]
      refine List.append_subset.mpr ⟨balanced.known, fun s hs => balanced.placed.symm.subset ?_⟩
      rcases List.mem_append.mp (List.mem_of_mem_filter hs) with hs | hs
      · simp [places, hs]
      · simp [places, List.mem_of_mem_take hs]

theorem follow (balanced : k.Balanced) (x : Transition) : (k.follow x).Balanced := by
  refine Balanced.grant ?_ _
  unfold record
  split
  · exact (balanced.start _).conclude _ _
  · exact balanced.conclude _ _
  · exact balanced.conclude _ _
  · exact balanced

theorem number_lt (balanced : k.Balanced) (hs : s ∈ k.begun) : s.number < k.begun.length := by
  have number := List.mem_map_of_mem (f := Send.number) hs
  rwa [balanced.numbered, List.mem_range] at number

theorem nodup_places (balanced : k.Balanced) : k.places.Nodup := by
  refine balanced.placed.nodup_iff.mp (List.Nodup.of_map Send.number ?_)
  rw [balanced.numbered]
  exact List.nodup_range

end Balanced

theorem balanced_of (h : History) : (of h).Balanced := by
  unfold of
  suffices ∀ k : Book, k.Balanced → (h.foldl follow k).Balanced from this _ balanced_empty
  induction h with
  | nil => exact fun k balanced => balanced
  | cons x h ih => exact fun k balanced => ih _ (balanced.follow x)

/-- The book agrees with what was seen of the run and with who waits. -/
structure Fits (k : Book) (h : History) (m : Mailbox) : Prop where
  begun : k.begun.map Send.batch = h.offered
  waiting : k.waiting.map Send.batch = m.queue.waiting
  accepted : k.accepted.map Send.batch = h.accepted
  calledOff : k.calledOff.map Send.batch = h.withdrawn
  refused : k.refused.map Send.batch = h.refused

theorem conclude_start_accepted : (k.start b).conclude k.waiting.length (.accepted c) =
    { k with begun := k.begun ++ [k.next b], accepted := k.accepted ++ [k.next b] } := by
  simp [conclude, start, List.eraseIdx_append_of_length_le]

theorem conclude_start_refused : (k.start b).conclude k.waiting.length (.refused c) =
    { k with begun := k.begun ++ [k.next b], refused := k.refused ++ [k.next b] } := by
  simp [conclude, start, List.eraseIdx_append_of_length_le]

theorem conclude_start_waits :
    (k.start b).conclude k.waiting.length (.waits c) = k.start b := by
  simp [conclude, start]

theorem conclude_missed : k.conclude i .missed = k := by
  unfold conclude
  split <;> simp_all

theorem conclude_withdrawn (kind : f = .withdrew b ∨ f = .refused b) :
    (k.conclude i f).waiting = k.waiting.eraseIdx i ∧ (k.conclude i f).accepted = k.accepted := by
  cases found : k.waiting[i]? with
  | none =>
    have none : k.waiting.eraseIdx i = k.waiting :=
      List.eraseIdx_of_length_le (List.getElem?_eq_none_iff.mp found)
    simp [conclude, found, none]
  | some s => rcases kind with rfl | rfl <;> simp [conclude, found]

theorem Fits.grant (fits : k.Fits h m) (n : Mailbox) : (k.grant n).Fits h m := by
  have ⟨begun, waiting, accepted, calledOff, refused⟩ := fits
  constructor <;> simpa

theorem Fits.still (fits : k.Fits h m) (same : k.record ⟨m, e, f, n⟩ = k)
    (waiting : n.queue.waiting = m.queue.waiting)
    (event : Transition.offered? ⟨m, e, f, n⟩ = none)
    (effect : Transition.accepted? ⟨m, e, f, n⟩ = none ∧ Transition.withdrew? ⟨m, e, f, n⟩ = none ∧
      Transition.refused? ⟨m, e, f, n⟩ = none) :
    (k.record ⟨m, e, f, n⟩).Fits (h ++ [⟨m, e, f, n⟩]) n := by
  have ⟨begun, line, accepted, calledOff, refused⟩ := fits
  rw [same]
  constructor <;> simp [*]

theorem Fits.conclude (fits : k.Fits h m) (closed : k.record ⟨m, e, f, n⟩ = k.conclude i f)
    (found : m.queue.waiting[i]? = some b)
    (waiting : n.queue.waiting = m.queue.waiting.eraseIdx i)
    (event : Transition.offered? ⟨m, e, f, n⟩ = none)
    (kind : f = .accepted b ∨ f = .withdrew b ∨ f = .refused b) :
    (k.record ⟨m, e, f, n⟩).Fits (h ++ [⟨m, e, f, n⟩]) n := by
  have ⟨begun, line, accepted, calledOff, refused⟩ := fits
  rw [← line, List.getElem?_map] at found
  obtain ⟨s, found, rfl⟩ := Option.map_eq_some_iff.mp found
  have line : (k.waiting.eraseIdx i).map Send.batch = n.queue.waiting := by
    rw [waiting, ← line, List.eraseIdx_map]
  rw [closed]
  obtain rfl | rfl | rfl := kind <;> constructor <;>
    simp [Book.conclude, *, Transition.accepted?, Transition.withdrew?, Transition.refused?]

theorem Fits.record (fits : k.Fits h m) (move : Move m e f n) :
    (k.record ⟨m, e, f, n⟩).Fits (h ++ [⟨m, e, f, n⟩]) n := by
  have ⟨begun, waiting, accepted, calledOff, refused⟩ := fits
  cases move with
  | refuse gone =>
    simp only [record, conclude_start_refused]
    constructor <;> simp [*, next, Transition.offered?, Transition.accepted?, Transition.withdrew?,
      Transition.refused?]
  | accept live free =>
    simp only [record, conclude_start_accepted]
    constructor <;> simp [*, next, Queue.waiting_offer free, Transition.offered?,
      Transition.accepted?, Transition.withdrew?, Transition.refused?]
  | hold live full =>
    simp only [record, conclude_start_waits]
    constructor <;> simp [*, start, next, Queue.waiting_offer_of_full full, Transition.offered?,
      Transition.accepted?, Transition.withdrew?, Transition.refused?]
  | enter live found =>
    obtain ⟨found, left⟩ := Queue.waiting_enter? found
    exact fits.conclude rfl found left rfl (.inl rfl)
  | bounce gone found =>
    obtain ⟨found, left⟩ := Queue.waiting_withdraw? found
    exact fits.conclude rfl found left rfl (.inr (.inr rfl))
  | withdraw live found =>
    obtain ⟨found, left⟩ := Queue.waiting_withdraw? found
    exact fits.conclude rfl found left rfl (.inr (.inl rfl))
  | miss none =>
    exact fits.still conclude_missed rfl rfl ⟨rfl, rfl, rfl⟩
  | giveBack => exact fits.still rfl (by simp) rfl ⟨rfl, rfl, rfl⟩
  | take live found | receive live found =>
    exact fits.still rfl (Queue.waiting_take? found) rfl ⟨rfl, rfl, rfl⟩
  | nothing | pending | drop => exact fits.still rfl rfl rfl ⟨rfl, rfl, rfl⟩

theorem Fits.move (fits : k.Fits h m) (move : Move m e f n) :
    (k.follow ⟨m, e, f, n⟩).Fits (h ++ [⟨m, e, f, n⟩]) n :=
  (fits.record move).grant n

theorem fits_of_run (empty : m.queue.waiting = []) (run : Run m h n) : (of h).Fits h n := by
  induction run with
  | nil => exact ⟨rfl, empty.symm, rfl, rfl, rfl⟩
  | step run move ih =>
    rw [of_append]
    exact ih.move move

def Ordered (ss : List Send) : Prop := ss.Pairwise fun s t => s.number < t.number

theorem ordered_append : Ordered (ss ++ ts) ↔
    Ordered ss ∧ Ordered ts ∧ ∀ s ∈ ss, ∀ t ∈ ts, s.number < t.number :=
  List.pairwise_append

theorem ordered_concat : Ordered (ss ++ [s]) ↔ Ordered ss ∧ ∀ t ∈ ss, t.number < s.number := by
  simp [Ordered, List.pairwise_append]

/-- Slots are given to the waiting sends in order: one that has none is younger than every one that
was given one. -/
structure Fair (k : Book) (m : Mailbox) : Prop where
  waiting : Ordered k.waiting
  admitted : Ordered k.admitted
  order : ∀ s ∈ k.admitted, ∀ t ∈ k.waiting.drop m.slots, s.number < t.number
  accepted : k.accepted ⊆ k.admitted
  due : m.live = true → k.waiting.take m.slots ⊆ k.admitted

theorem mem_drop_of_eraseIdx {xs : List α} {x : α} (hx : x ∈ (xs.eraseIdx i).drop j) :
    x ∈ xs.drop j := by
  obtain ⟨l, found⟩ := List.mem_iff_getElem?.mp hx
  rw [List.getElem?_drop, List.getElem?_eraseIdx] at found
  refine List.mem_iff_getElem?.mpr ?_
  split at found
  · exact ⟨l, by rwa [List.getElem?_drop]⟩
  · exact ⟨l + 1, by rwa [List.getElem?_drop]⟩

theorem drop_eraseIdx {xs : List α} (early : i ≤ j) :
    (xs.eraseIdx i).drop j = xs.drop (j + 1) := by
  refine List.ext_getElem? fun l => ?_
  rw [List.getElem?_drop, List.getElem?_eraseIdx, if_neg (by omega), List.getElem?_drop,
    Nat.add_right_comm]

theorem slots_of_free (free : 0 < m.queue.free) (channel : n.queue.channel = m.queue.channel ++ [b])
    (capacity : n.queue.capacity = m.queue.capacity) : m.queue.waiting.length ≤ n.slots := by
  simp only [Queue.free, Mailbox.slots, channel, capacity, List.length_append,
    List.length_singleton] at free ⊢
  omega

namespace Fair

theorem younger (fair : k.Fair m) (live : m.live = true) :
    ∀ t ∈ k.waiting, t ∈ k.admitted ∨ ∀ s ∈ k.admitted, s.number < t.number := by
  intro t ht
  rw [← List.take_append_drop m.slots k.waiting, List.mem_append] at ht
  exact ht.imp (fun ht => fair.due live ht) fun ht s hs => fair.order s hs t ht

theorem grant (waiting : Ordered k.waiting) (admitted : Ordered k.admitted)
    (order : ∀ s ∈ k.admitted, ∀ t ∈ k.waiting.drop m.slots, s.number < t.number)
    (accepted : k.accepted ⊆ k.admitted)
    (younger : m.live = true →
      ∀ t ∈ k.waiting, t ∈ k.admitted ∨ ∀ s ∈ k.admitted, s.number < t.number) :
    (k.grant m).Fair m := by
  cases live : m.live with
  | false =>
    have same : k.grant m = k := by simp [Book.grant, live]
    rw [same]
    exact ⟨waiting, admitted, order, accepted, by simp [live]⟩
  | true =>
    have apart := waiting
    rw [← List.take_append_drop m.slots k.waiting, ordered_append] at apart
    -- Who was accepted had a slot before, so that only waiting sends get one now.
    have new : (k.accepted ++ k.waiting.take m.slots).filter (· ∉ k.admitted) =
        (k.waiting.take m.slots).filter (· ∉ k.admitted) := by
      have none : k.accepted.filter (· ∉ k.admitted) = [] :=
        List.filter_eq_nil_iff.mpr fun s hs => by simpa using accepted hs
      rw [List.filter_append, none, List.nil_append]
    constructor
    · rwa [waiting_grant]
    · rw [admitted_grant live, new]
      refine ordered_append.mpr ⟨admitted, apart.1.sublist List.filter_sublist, ?_⟩
      intro s hs t ht
      obtain ⟨ht, without⟩ := List.mem_filter.mp ht
      exact (younger live t (List.mem_of_mem_take ht)).resolve_left (by simpa using without) s hs
    · rw [admitted_grant live, new, waiting_grant]
      intro s hs t ht
      rcases List.mem_append.mp hs with hs | hs
      · exact order s hs t ht
      · exact apart.2.2 s (List.mem_of_mem_filter hs) t ht
    · rw [admitted_grant live, accepted_grant]
      exact List.Subset.trans accepted (List.subset_append_left _ _)
    · intro _ s hs
      rw [waiting_grant] at hs
      by_cases before : s ∈ k.admitted <;> simp [admitted_grant live, before, hs]

theorem still (fair : k.Fair m) {l : Book} (waiting : l.waiting = k.waiting)
    (admitted : l.admitted = k.admitted) (accepted : l.accepted = k.accepted)
    (more : m.slots ≤ n.slots) (lives : n.live = true → m.live = true) : (l.grant n).Fair n := by
  refine grant (waiting ▸ fair.waiting) (admitted ▸ fair.admitted) ?_ ?_ ?_
  · rw [waiting, admitted]
    exact fun s hs t ht => fair.order s hs t ((List.drop_sublist_drop_left _ more).subset ht)
  · exact accepted ▸ admitted ▸ fair.accepted
  · rw [waiting, admitted]
    exact fun live => fair.younger (lives live)

theorem ended (fair : k.Fair m) {l : Book} (waiting : l.waiting = k.waiting.eraseIdx i)
    (admitted : l.admitted = k.admitted) (accepted : l.accepted = k.accepted)
    (same : n.slots = m.slots) (lives : n.live = m.live) : (l.grant n).Fair n := by
  have shorter : l.waiting.Sublist k.waiting := waiting ▸ List.eraseIdx_sublist _ _
  refine grant (List.Pairwise.sublist shorter fair.waiting) (admitted ▸ fair.admitted) ?_ ?_ ?_
  · rw [waiting, admitted, same]
    exact fun s hs t ht => fair.order s hs t (mem_drop_of_eraseIdx ht)
  · exact accepted ▸ admitted ▸ fair.accepted
  · rw [admitted]
    exact fun live t ht => fair.younger (lives ▸ live) t (shorter.subset ht)

theorem spared (fair : k.Fair m) (enough : k.waiting.length ≤ n.slots)
    (lives : n.live = m.live) : (k.grant n).Fair n := by
  refine grant fair.waiting fair.admitted ?_ fair.accepted fun live => fair.younger (lives ▸ live)
  rw [List.drop_eq_nil_of_le enough]
  nofun

theorem waits (fair : k.Fair m) (balanced : k.Balanced) (same : n.slots = m.slots)
    (lives : n.live = m.live) : ((k.start b).grant n).Fair n := by
  have young {s : Send} (hs : s ∈ k.begun) : s.number < (k.next b).number := balanced.number_lt hs
  have known {s : Send} (hs : s ∈ k.admitted) := young (balanced.known hs)
  have line : Ordered (k.start b).waiting := ordered_concat.mpr
    ⟨fair.waiting, fun s hs => young (balanced.placed.symm.subset (by simp [places, hs]))⟩
  refine grant line fair.admitted ?_ fair.accepted ?_
  · intro s hs t ht
    rw [same, start, List.drop_append, List.mem_append] at ht
    rcases ht with ht | ht
    · exact fair.order s hs t ht
    · obtain rfl := List.mem_singleton.mp (List.mem_of_mem_drop ht)
      exact known hs
  · intro live t ht
    rcases List.mem_append.mp ht with ht | ht
    · exact fair.younger (lives ▸ live) t ht
    · obtain rfl := List.mem_singleton.mp ht
      exact .inr fun s hs => known hs

theorem joins (fair : k.Fair m) (balanced : k.Balanced) (live : m.live = true)
    (all : k.waiting.length ≤ m.slots) (enough : k.waiting.length ≤ n.slots)
    (lives : n.live = true) :
    (Book.grant { k with begun := k.begun ++ [k.next b], accepted := k.accepted ++ [k.next b] }
      n).Fair n := by
  have young {s : Send} (hs : s ∈ k.admitted) : s.number < (k.next b).number :=
    balanced.number_lt (balanced.known hs)
  have new : k.next b ∉ k.admitted := fun known => Nat.lt_irrefl _ (young known)
  have due : k.waiting ⊆ k.admitted := by simpa [List.take_of_length_le all] using fair.due live
  -- Those who wait all have a slot, so that nobody else gets one.
  have admitted : (Book.grant { k with
      begun := k.begun ++ [k.next b], accepted := k.accepted ++ [k.next b] } n).admitted =
      k.admitted ++ [k.next b] := by
    have before : k.accepted.filter (· ∉ k.admitted) = [] :=
      List.filter_eq_nil_iff.mpr fun s hs => by simpa using fair.accepted hs
    have others : k.waiting.filter (· ∉ k.admitted) = [] :=
      List.filter_eq_nil_iff.mpr fun s hs => by simpa using due hs
    rw [admitted_grant lives, List.take_of_length_le enough, List.filter_append,
      List.filter_append, before, others]
    simp [new]
  constructor
  · rw [waiting_grant]
    exact fair.waiting
  · rw [admitted]
    exact ordered_concat.mpr ⟨fair.admitted, fun s hs => young hs⟩
  · rw [waiting_grant, List.drop_eq_nil_of_le enough]
    nofun
  · rw [accepted_grant, admitted]
    refine List.append_subset.mpr ⟨?_, by simp⟩
    exact List.Subset.trans fair.accepted (List.subset_append_left _ _)
  · intro _ s hs
    rw [waiting_grant] at hs
    rw [admitted]
    exact List.mem_append_left _ (due (List.mem_of_mem_take hs))

theorem enters (fair : k.Fair m) (live : m.live = true) (found : k.waiting[i]? = some s)
    (due : i < m.slots) (slots : m.slots = n.slots + 1) :
    ((k.conclude i (.accepted b)).grant n).Fair n := by
  have admitted : s ∈ k.admitted := by
    refine fair.due live (List.mem_of_getElem? (i := i) ?_)
    rw [List.getElem?_take_of_lt due, found]
  have shorter : (k.waiting.eraseIdx i).Sublist k.waiting := List.eraseIdx_sublist _ _
  simp only [conclude, found]
  refine grant (List.Pairwise.sublist shorter fair.waiting) fair.admitted ?_ ?_ ?_
  · simp only [drop_eraseIdx (show i ≤ n.slots by omega), ← slots]
    exact fair.order
  · exact List.append_subset.mpr ⟨fair.accepted, by simpa using admitted⟩
  · exact fun _ t ht => fair.younger live t (shorter.subset ht)

theorem move (fair : k.Fair m) (fits : k.Fits h m) (balanced : k.Balanced)
    (move : Move m e f n) : (k.follow ⟨m, e, f, n⟩).Fair n := by
  have length : k.waiting.length = m.queue.waiting.length := by
    rw [← fits.waiting, List.length_map]
  cases move with
  | refuse gone =>
    simp only [follow, record, conclude_start_refused]
    exact fair.still rfl rfl rfl (Nat.le_refl _) id
  | accept live free =>
    simp only [follow, record, conclude_start_accepted]
    have all : k.waiting.length ≤ m.slots := by
      rw [Queue.free] at free
      rw [length, Mailbox.slots]
      omega
    exact fair.joins balanced live all
      (length ▸ slots_of_free free (Queue.channel_offer free) (by simp)) live
  | hold live full =>
    simp only [follow, record, conclude_start_waits]
    refine fair.waits balanced ?_ rfl
    simp [Mailbox.slots, Queue.channel_offer_of_full full]
  | enter live found =>
    -- The slot that is used was given before, so that nobody else gets one.
    have due := Queue.lt_granted_of_enter? found
    have room := Queue.channel_lt_of_enter? found
    obtain ⟨first, -⟩ := Queue.waiting_enter? found
    rw [← fits.waiting, List.getElem?_map] at first
    obtain ⟨s, first, -⟩ := Option.map_eq_some_iff.mp first
    rw [Queue.granted] at due
    refine fair.enters live first (by rw [Mailbox.slots]; omega) ?_
    simp only [Mailbox.slots, Queue.channel_enter? found, Queue.capacity_enter? found,
      List.length_append, List.length_singleton]
    omega
  | bounce gone found =>
    obtain ⟨waiting, accepted⟩ := conclude_withdrawn (.inr rfl)
    refine fair.ended waiting admitted_conclude accepted ?_ rfl
    simp [Mailbox.slots, Queue.channel_withdraw? found, Queue.capacity_withdraw? found]
  | withdraw live found =>
    obtain ⟨waiting, accepted⟩ := conclude_withdrawn (.inl rfl)
    refine fair.ended waiting admitted_conclude accepted ?_ rfl
    simp [Mailbox.slots, Queue.channel_withdraw? found, Queue.capacity_withdraw? found]
  | miss none =>
    simp only [follow, record, conclude_missed]
    exact fair.still rfl rfl rfl (Nat.le_refl _) id
  | @giveBack b live =>
    by_cases free : 0 < m.queue.free
    · exact fair.spared (length ▸ slots_of_free free (Queue.channel_giveBack free) (by simp)) rfl
    · refine fair.still rfl rfl rfl ?_ id
      simp [Mailbox.slots, Queue.channel_giveBack_of_full free]
  | take live found | receive live found =>
    refine fair.still rfl rfl rfl ?_ id
    simp only [Mailbox.slots, Queue.capacity_take? found]
    rcases Queue.take?_cases found with ⟨channel, -⟩ | ⟨-, channel, -⟩
    · simp only [channel, List.length_cons]
      omega
    · simp [channel]
  | nothing | pending => exact fair.still rfl rfl rfl (Nat.le_refl _) id
  | drop => exact fair.still rfl rfl rfl (Nat.le_refl _) nofun

end Fair

def line (k : Book) : List Send := k.accepted ++ k.waiting

end Book

end HostMonitor.Posting
