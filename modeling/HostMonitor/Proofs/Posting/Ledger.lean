import HostMonitor.Proofs.Posting.Run

/-!
A ledger of the accepted batches. It follows a history of the scheduler and says of each batch, by
the number with which it was accepted, where it is. It is kept for proofs only: two batches with the
same samples differ in it by their numbers.
-/

namespace HostMonitor.Posting

open HostMonitor.Metric (Batch)
open Scheduler (Effect Transition History)

/-- A batch as it was accepted, with its number in the order of acceptance. -/
structure Parcel : Type where
  number : Nat
  batch : Batch
  deriving DecidableEq

structure Ledger : Type where
  accepted : List Parcel
  channel : List Parcel
  overflow : List Parcel
  hand : List Parcel
  posts : List (List Parcel × Bool)
  abandoned : List Parcel

namespace Ledger

def empty : Ledger := ⟨[], [], [], [], [], []⟩

def enter (l : Ledger) (b : Batch) : Ledger :=
  { l with
    accepted := l.accepted ++ [⟨l.accepted.length, b⟩]
    channel := l.channel ++ [⟨l.accepted.length, b⟩] }

def take (l : Ledger) : Ledger :=
  match l.channel, l.overflow with
  | p :: ps, _ => { l with channel := ps, hand := l.hand ++ [p] }
  | [], p :: ps => { l with overflow := ps, hand := l.hand ++ [p] }
  | [], [] => l

def deliver (l : Ledger) : Ledger := { l with posts := l.posts ++ [(l.hand, true)], hand := [] }

def fail (l : Ledger) : Ledger := { l with posts := l.posts ++ [(l.hand, false)] }

def giveBack (l : Ledger) (room : Bool) : Ledger :=
  match l.hand with
  | [] => l
  | p :: ps =>
    if room then { l with channel := l.channel ++ [p], hand := ps }
    else { l with overflow := l.overflow ++ [p], hand := ps }

def abandon (l : Ledger) : Ledger :=
  match l.hand with
  | [] => l
  | p :: ps => { l with abandoned := l.abandoned ++ [p], hand := ps }

def note (room : Bool) (l : Ledger) : Effect → Ledger
  | .accepted b => l.enter b
  | .took _ => l.take
  | .delivered _ => l.deliver
  | .failed _ => l.fail
  | .gaveBack _ => l.giveBack room
  | .abandoned _ => l.abandon
  | _ => l

def follow (l : Ledger) (x : Transition) : Ledger :=
  x.effects.foldl (note (0 < x.source.queue.free)) l

def of (h : History) : Ledger := h.foldl follow empty

@[simp] theorem of_nil : of [] = empty := rfl

theorem of_concat (h k : History) : of (h ++ k) = k.foldl follow (of h) := by simp [of]

@[simp] theorem of_append (h : History) (x : Transition) : of (h ++ [x]) = (of h).follow x := by
  simp [of]

def delivered (l : Ledger) : List Parcel := (l.posts.filter Prod.snd).flatMap Prod.fst

def left (l : Ledger) : List Parcel := l.hand ++ l.channel ++ l.overflow

def places (l : Ledger) : List Parcel := l.delivered ++ l.abandoned ++ l.left

/-- Each accepted batch is in one place, and the numbers tell them apart. -/
structure Balanced (l : Ledger) : Prop where
  numbered : l.accepted.map Parcel.number = List.range l.accepted.length
  placed : l.accepted.Perm l.places

theorem balanced_empty : empty.Balanced := ⟨rfl, .nil⟩

variable {l : Ledger}

theorem places_take : l.places.Perm l.take.places := by
  -- A batch leaves one list for another, so it is counted as often as before.
  refine List.perm_iff_count.mpr fun x => ?_
  unfold take
  split
  · next p ps channel =>
    simp only [places, left, delivered, channel, List.count_append, List.count_cons, List.count_nil]
    omega
  · next p ps channel overflow =>
    simp only [places, left, delivered, overflow, List.count_append, List.count_cons,
      List.count_nil]
    omega
  · rfl

theorem places_deliver : l.places.Perm l.deliver.places := by
  refine List.perm_iff_count.mpr fun x => ?_
  simp only [places, left, delivered, deliver, List.filter_append, List.filter_cons,
    List.filter_nil, if_true, List.flatMap_append, List.flatMap_cons, List.flatMap_nil,
    List.count_append, List.count_nil]
  omega

@[simp] theorem places_fail : l.fail.places = l.places := by
  simp [places, left, delivered, fail]

theorem places_giveBack (room : Bool) : l.places.Perm (l.giveBack room).places := by
  refine List.perm_iff_count.mpr fun x => ?_
  unfold giveBack
  split
  · rfl
  · next p ps hand =>
    cases room with
    | true =>
      simp only [places, left, delivered, hand, if_true, List.count_append, List.count_cons,
        List.count_nil]
      omega
    | false =>
      simp only [places, left, delivered, hand, Bool.false_eq_true, if_false, List.count_append,
        List.count_cons, List.count_nil]
      omega

theorem places_abandon : l.places.Perm l.abandon.places := by
  refine List.perm_iff_count.mpr fun x => ?_
  unfold abandon
  split
  · rfl
  · next p ps hand =>
    simp only [places, left, delivered, hand, List.count_append, List.count_cons, List.count_nil]
    omega

@[simp] theorem accepted_take : l.take.accepted = l.accepted := by
  unfold take
  split <;> rfl

@[simp] theorem accepted_giveBack (room : Bool) : (l.giveBack room).accepted = l.accepted := by
  unfold giveBack
  split
  · rfl
  · split <;> rfl

@[simp] theorem accepted_abandon : l.abandon.accepted = l.accepted := by
  unfold abandon
  split <;> rfl

namespace Balanced

theorem enter (h : l.Balanced) (b : Batch) : (l.enter b).Balanced where
  numbered := by simp [Ledger.enter, h.numbered, List.range_succ]
  placed := by
    refine List.perm_iff_count.mpr fun p => ?_
    have := List.perm_iff_count.mp h.placed p
    simp only [places, left, delivered, Ledger.enter, List.count_append] at this ⊢
    omega

theorem moved (h : l.Balanced) {m : Ledger} (same : m.accepted = l.accepted)
    (placed : l.places.Perm m.places) : m.Balanced where
  numbered := by rw [same]; exact h.numbered
  placed := by rw [same]; exact h.placed.trans placed

theorem note (h : l.Balanced) (room : Bool) (f : Effect) : (l.note room f).Balanced := by
  cases f with
  | accepted b => exact h.enter b
  | took b => exact h.moved accepted_take places_take
  | delivered cycle => exact h.moved rfl places_deliver
  | failed cycle => exact h.moved rfl (by simp [Ledger.note])
  | gaveBack b => exact h.moved (accepted_giveBack room) (places_giveBack room)
  | abandoned b => exact h.moved accepted_abandon places_abandon
  | _ => exact h

end Balanced

theorem of_induction {P : Ledger → Prop} (start : P empty)
    (keep : ∀ {l : Ledger} (room f), P l → P (l.note room f)) (h : History) : P (of h) := by
  unfold of
  generalize empty = l at start
  induction h generalizing l with
  | nil => exact start
  | cons x h ih =>
    refine ih _ ?_
    unfold follow
    induction x.effects generalizing l with
    | nil => exact start
    | cons f fs ih => exact ih _ (keep _ f start)

theorem accepted_note (l : Ledger) (room : Bool) (f : Effect) :
    (l.note room f).accepted.map Parcel.batch =
      l.accepted.map Parcel.batch ++ f.accepted?.toList := by
  cases f <;> simp [note, enter, deliver, fail, Effect.accepted?]

theorem accepted_follow (l : Ledger) (x : Transition) :
    (l.follow x).accepted.map Parcel.batch =
      l.accepted.map Parcel.batch ++ x.effects.filterMap Effect.accepted? := by
  unfold follow
  induction x.effects generalizing l with
  | nil => simp
  | cons f fs ih =>
    rw [List.foldl_cons, ih, accepted_note]
    cases h : f.accepted? <;> simp [h]

theorem accepted_of (h : History) : (of h).accepted.map Parcel.batch = h.accepted := by
  unfold of
  suffices ∀ l : Ledger, (h.foldl follow l).accepted.map Parcel.batch =
      l.accepted.map Parcel.batch ++ h.accepted from this empty
  induction h with
  | nil => simp
  | cons x h ih =>
    intro l
    rw [List.foldl_cons, ih, accepted_follow]
    simp

theorem Balanced.nodup {l : Ledger} (h : l.Balanced) : (l.places.map Parcel.number).Nodup := by
  have numbers := h.placed.map Parcel.number
  rw [h.numbered] at numbers
  exact numbers.nodup_iff.mp List.nodup_range

theorem balanced_of (h : History) : (of h).Balanced :=
  of_induction balanced_empty (fun room f balanced => balanced.note room f) h

end Ledger

end HostMonitor.Posting
