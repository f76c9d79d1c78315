import HostMonitor.Proofs.Posting.Custody

namespace HostMonitor.Posting.Ledger

open HostMonitor.Metric (Batch)
open Scheduler (Effect History)

variable {l : Ledger} {p : Parcel}

namespace Balanced

theorem nodup_places (h : l.Balanced) : l.places.Nodup :=
  List.Pairwise.of_map Parcel.number (fun _ _ apart same => apart (congrArg Parcel.number same))
    h.nodup

theorem only_in_hand (h : l.Balanced) (hp : p ∈ l.hand) :
    p ∉ l.channel ∧ p ∉ l.overflow ∧ p ∉ l.delivered ∧ p ∉ l.abandoned := by
  have nodup := h.nodup_places
  simp only [places, left, List.nodup_append, List.mem_append] at nodup
  obtain ⟨-, ⟨⟨-, -, channel⟩, -, overflow⟩, before⟩ := nodup
  refine ⟨fun hq => channel p hp p hq rfl, fun hq => overflow p (.inl hp) p hq rfl, ?_, ?_⟩
  · exact fun hq => before p (.inl hq) p (.inl (.inl hp)) rfl
  · exact fun hq => before p (.inr hq) p (.inl (.inl hp)) rfl

theorem accepted_of_mem_hand (h : l.Balanced) (hp : p ∈ l.hand) : p ∈ l.accepted :=
  h.placed.symm.subset (by simp [places, left, hp])

end Balanced

def Known (l : Ledger) : Prop := ∀ r ∈ l.posts, ∀ p ∈ r.1, p ∈ l.accepted

@[simp] theorem posts_giveBack (room : Bool) : (l.giveBack room).posts = l.posts := by
  unfold giveBack
  split
  · rfl
  · split <;> rfl

@[simp] theorem posts_abandon : l.abandon.posts = l.posts := by
  unfold abandon
  split <;> rfl

namespace Known

theorem posted (known : l.Known) (balanced : l.Balanced) {m : Ledger} {verdict : Bool}
    (posts : m.posts = l.posts ++ [(l.hand, verdict)]) (same : m.accepted = l.accepted) :
    m.Known := by
  intro r hr p hp
  rw [posts, List.mem_append, List.mem_singleton] at hr
  rw [same]
  rcases hr with hr | rfl
  · exact known r hr p hp
  · exact balanced.accepted_of_mem_hand hp

theorem moved (known : l.Known) {m : Ledger} (posts : m.posts = l.posts)
    (same : m.accepted = l.accepted) : m.Known := by
  intro r hr p hp
  rw [same]
  exact known r (posts ▸ hr) p hp

theorem note (known : l.Known) (balanced : l.Balanced) (room : Bool) (f : Effect) :
    (l.note room f).Known := by
  cases f with
  | accepted b => exact fun r hr p hp => List.mem_append_left _ (known r hr p hp)
  | took b => exact known.moved posts_take accepted_take
  | delivered cycle => exact known.posted balanced rfl rfl
  | failed cycle => exact known.posted balanced rfl rfl
  | gaveBack b => exact known.moved (posts_giveBack room) (accepted_giveBack room)
  | abandoned b => exact known.moved posts_abandon accepted_abandon
  | _ => exact known

end Known

theorem known_of (h : History) : (of h).Known := by
  refine (of_induction (P := fun l => l.Balanced ∧ l.Known) ⟨balanced_empty, nofun⟩ ?_ h).2
  exact fun room f ⟨balanced, known⟩ => ⟨balanced.note room f, known.note balanced room f⟩

end HostMonitor.Posting.Ledger
