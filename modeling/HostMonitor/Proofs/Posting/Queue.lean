import HostMonitor.Posting.Queue

namespace HostMonitor.Posting.Queue

open HostMonitor.Metric (Batch)

variable {q r : Queue} {b : Batch}

theorem empty_of_ofCapacity? (h : ofCapacity? n = some q) :
    q.channel = [] ∧ q.waiting = [] ∧ q.overflow = [] := by
  obtain ⟨-, h⟩ := Option.dite_none_right_eq_some.mp h
  cases h
  exact ⟨rfl, rfl, rfl⟩

theorem capacity_of_ofCapacity? (h : ofCapacity? n = some q) : q.capacity = max n 1 := by
  obtain ⟨-, h⟩ := Option.dite_none_right_eq_some.mp h
  cases h
  rfl

theorem exists_ofCapacity? (h : n ≤ capacityLimit) : ∃ q, ofCapacity? n = some q := by
  have least : 1 ≤ capacityLimit := by decide
  have most : max n 1 ≤ capacityLimit := by omega
  exact ⟨_, dif_pos most⟩

@[simp] theorem isEmpty_iff : q.isEmpty = true ↔ q.held = [] := by
  simp [isEmpty]

theorem snd_offer : (q.offer b).2 = decide (0 < q.free) := by
  unfold offer
  split <;> simp_all

theorem channel_offer (free : 0 < q.free) : (q.offer b).1.channel = q.channel ++ [b] := by
  simp [offer, free]

theorem channel_offer_of_full (full : q.free = 0) : (q.offer b).1.channel = q.channel := by
  simp [offer, full]

@[simp] theorem overflow_offer : (q.offer b).1.overflow = q.overflow := by
  unfold offer
  split <;> rfl

theorem held_offer_ne_nil (free : 0 < q.free) : (q.offer b).1.held ≠ [] := by
  simp [held, channel_offer free]

theorem held_offer_of_full (full : q.free = 0) : (q.offer b).1.held = q.held := by
  simp [held, channel_offer_of_full full]

theorem lt_granted_of_enter? (h : q.enter? i = some (b, r)) : i < q.granted :=
  (Option.dite_none_right_eq_some.mp h).1

theorem channel_enter? (h : q.enter? i = some (b, r)) : r.channel = q.channel ++ [b] := by
  obtain ⟨_, h⟩ := Option.dite_none_right_eq_some.mp h
  obtain ⟨c, -, h⟩ := Option.map_eq_some_iff.mp h
  cases h
  rfl

theorem overflow_enter? (h : q.enter? i = some (b, r)) : r.overflow = q.overflow := by
  obtain ⟨_, h⟩ := Option.dite_none_right_eq_some.mp h
  obtain ⟨c, -, h⟩ := Option.map_eq_some_iff.mp h
  cases h
  rfl

theorem channel_withdraw? (h : q.withdraw? i = some (b, r)) : r.channel = q.channel := by
  obtain ⟨c, -, h⟩ := Option.map_eq_some_iff.mp h
  cases h
  rfl

theorem overflow_withdraw? (h : q.withdraw? i = some (b, r)) : r.overflow = q.overflow := by
  obtain ⟨c, -, h⟩ := Option.map_eq_some_iff.mp h
  cases h
  rfl

theorem held_enter?_ne_nil (h : q.enter? i = some (b, r)) : r.held ≠ [] := by
  simp [held, channel_enter? h]

theorem held_withdraw? (h : q.withdraw? i = some (b, r)) : r.held = q.held := by
  rw [held, channel_withdraw? h, overflow_withdraw? h, held]

theorem take?_cases (h : q.take? = some (b, r)) :
    (q.channel = b :: r.channel ∧ r.overflow = q.overflow) ∨
      (q.channel = [] ∧ r.channel = [] ∧ q.overflow = b :: r.overflow) := by
  unfold take? at h
  split at h
  · next channel => cases h; exact .inl ⟨channel, rfl⟩
  · next channel overflow => cases h; exact .inr ⟨channel, channel, overflow⟩
  · cases h

theorem held_take? (h : q.take? = some (b, r)) : q.held = b :: r.held := by
  rcases take?_cases h with ⟨channel, overflow⟩ | ⟨channel, channel', overflow⟩
  · simp [held, channel, overflow]
  · simp [held, channel, channel', overflow]

theorem overflow_take? (h : q.take? = some (b, r)) : r.overflow <:+ q.overflow := by
  rcases take?_cases h with ⟨-, same⟩ | ⟨-, -, overflow⟩
  · exact same ▸ List.suffix_refl _
  · exact overflow ▸ List.suffix_cons b r.overflow

theorem channel_giveBack (free : 0 < q.free) : (q.giveBack b).channel = q.channel ++ [b] := by
  simp [giveBack, free]

theorem overflow_giveBack (free : 0 < q.free) : (q.giveBack b).overflow = q.overflow := by
  simp [giveBack, free]

theorem channel_giveBack_of_full (full : ¬0 < q.free) : (q.giveBack b).channel = q.channel := by
  simp [giveBack, full]

theorem overflow_giveBack_of_full (full : ¬0 < q.free) :
    (q.giveBack b).overflow = q.overflow ++ [b] := by
  simp [giveBack, full]

theorem held_giveBack_ne_nil : (q.giveBack b).held ≠ [] := by
  by_cases free : 0 < q.free
  · simp [held, channel_giveBack free]
  · simp [held, overflow_giveBack_of_full free]

theorem perm_held (channel : r.channel = q.channel ++ [b]) (overflow : r.overflow = q.overflow) :
    r.held.Perm (b :: q.held) := by
  rw [held, held, channel, overflow, List.append_assoc]
  exact List.perm_middle

theorem held_offer_perm (free : 0 < q.free) : (q.offer b).1.held.Perm (b :: q.held) :=
  perm_held (channel_offer free) overflow_offer

theorem held_enter?_perm (h : q.enter? i = some (b, r)) : r.held.Perm (b :: q.held) :=
  perm_held (channel_enter? h) (overflow_enter? h)

theorem held_giveBack_perm : (q.giveBack b).held.Perm (b :: q.held) := by
  by_cases free : 0 < q.free
  · exact perm_held (channel_giveBack free) (overflow_giveBack free)
  · rw [held, held, channel_giveBack_of_full free, overflow_giveBack_of_full free,
      ← List.append_assoc]
    exact List.perm_append_singleton b _

theorem channel_lt_of_free (free : 0 < q.free) : q.channel.length < q.capacity := by
  rw [Queue.free] at free
  omega

theorem channel_lt_of_enter? (h : q.enter? i = some (b, r)) : q.channel.length < q.capacity := by
  have slot := lt_granted_of_enter? h
  rw [granted] at slot
  omega

@[simp] theorem capacity_offer : (q.offer b).1.capacity = q.capacity := by
  unfold offer
  split <;> rfl

theorem capacity_enter? (h : q.enter? i = some (b, r)) : r.capacity = q.capacity := by
  obtain ⟨_, h⟩ := Option.dite_none_right_eq_some.mp h
  obtain ⟨c, -, h⟩ := Option.map_eq_some_iff.mp h
  cases h
  rfl

theorem capacity_withdraw? (h : q.withdraw? i = some (b, r)) : r.capacity = q.capacity := by
  obtain ⟨c, -, h⟩ := Option.map_eq_some_iff.mp h
  cases h
  rfl

theorem capacity_take? (h : q.take? = some (b, r)) : r.capacity = q.capacity := by
  unfold take? at h
  split at h
  · cases h; rfl
  · cases h; rfl
  · cases h

@[simp] theorem capacity_giveBack : (q.giveBack b).capacity = q.capacity := by
  unfold giveBack
  split <;> rfl

theorem waiting_offer (free : 0 < q.free) : (q.offer b).1.waiting = q.waiting := by
  simp [offer, free]

theorem waiting_offer_of_full (full : q.free = 0) :
    (q.offer b).1.waiting = q.waiting ++ [b] := by
  simp [offer, full]

theorem waiting_enter? (h : q.enter? i = some (b, r)) :
    q.waiting[i]? = some b ∧ r.waiting = q.waiting.eraseIdx i := by
  obtain ⟨_, h⟩ := Option.dite_none_right_eq_some.mp h
  obtain ⟨c, found, h⟩ := Option.map_eq_some_iff.mp h
  cases h
  exact ⟨found, rfl⟩

theorem waiting_enter?_zero (h : q.enter? 0 = some (b, r)) : q.waiting = b :: r.waiting := by
  obtain ⟨first, rest⟩ := waiting_enter? h
  cases waiting : q.waiting with
  | nil => simp [waiting] at first
  | cons c cs => simp_all

theorem waiting_withdraw? (h : q.withdraw? i = some (b, r)) :
    q.waiting[i]? = some b ∧ r.waiting = q.waiting.eraseIdx i := by
  obtain ⟨c, found, h⟩ := Option.map_eq_some_iff.mp h
  cases h
  exact ⟨found, rfl⟩

theorem waiting_take? (h : q.take? = some (b, r)) : r.waiting = q.waiting := by
  unfold take? at h
  split at h
  · cases h; rfl
  · cases h; rfl
  · cases h

@[simp] theorem waiting_giveBack : (q.giveBack b).waiting = q.waiting := by
  unfold giveBack
  split <;> rfl

theorem exists_enter? (slot : i < q.granted) : ∃ b r, q.enter? i = some (b, r) := by
  have inside : i < q.waiting.length := by
    rw [granted] at slot
    omega
  rw [enter?, dif_pos slot, List.getElem?_eq_getElem inside]
  exact ⟨_, _, rfl⟩

theorem granted_of_free (free : 0 < q.free) : q.granted = q.waiting.length := by
  unfold Queue.free at free
  unfold granted
  omega

theorem granted_giveBack : (q.giveBack b).granted = q.granted := by
  by_cases free : 0 < q.free
  · have all := granted_of_free free
    unfold Queue.free at free
    simp only [granted, channel_giveBack free, waiting_giveBack, capacity_giveBack,
      List.length_append, List.length_singleton] at all ⊢
    omega
  · simp only [granted, channel_giveBack_of_full free, waiting_giveBack, capacity_giveBack]

theorem granted_enter? (h : q.enter? i = some (b, r)) : q.granted = r.granted + 1 := by
  have room := channel_lt_of_enter? h
  obtain ⟨found, rest⟩ := waiting_enter? h
  have inside := (List.getElem?_eq_some_iff.mp found).1
  simp only [granted, channel_enter? h, rest, capacity_enter? h, List.length_append,
    List.length_singleton, List.length_eraseIdx_of_lt inside]
  omega

end HostMonitor.Posting.Queue
