import HostMonitor.Proofs.Posting.Custody

namespace HostMonitor.Posting.Scheduler

open HostMonitor.Metric (Batch)

def holding (s : Scheduler) : List Batch := s.phase.hand ++ s.queue.held

/-- No batch that is held has failed more often than the limit allows. -/
def Within (s : Scheduler) : Prop := ∀ b ∈ s.holding, b.retries ≤ s.settings.retryLimit

variable {now : Moment} {s t : Scheduler} {e : Event} {effects : List Effect} {b : Batch}
  {h : History} {settings : Settings} {offset : Span} {queue : Queue} {capacity : Nat}

theorem mem_holding : b ∈ s.holding ↔ b ∈ s.phase.hand ∨ b ∈ s.queue.held := by
  rw [holding, List.mem_append]

namespace Within

theorem of_mem_hand (within : s.Within) (hb : b ∈ s.phase.hand) :
    b.retries.toNat ≤ s.settings.retryLimit.toNat :=
  UInt32.le_iff_toNat_le.mp (within b (mem_holding.mpr (.inl hb)))

theorem of_mem_held (within : s.Within) (hb : b ∈ s.queue.held) :
    b.retries.toNat ≤ s.settings.retryLimit.toNat :=
  UInt32.le_iff_toNat_le.mp (within b (mem_holding.mpr (.inr hb)))

theorem of_returning {rest : List Batch} (within : s.Within)
    (phase : s.phase = .returning (b :: rest)) :
    b.retries.toNat ≤ s.settings.retryLimit.toNat :=
  within.of_mem_hand (by rw [phase]; exact List.mem_cons_self)

end Within

theorem Move.of_mem_holding (move : Move now s e effects t) (hb : b ∈ t.holding) :
    b ∈ s.holding ∨ .accepted b ∈ effects ∨
      (.gaveBack b ∈ effects ∧ b.isExhausted s.settings.retryLimit = false) := by
  rw [mem_holding] at hb ⊢
  cases move with
  | accept running free =>
    rcases hb with hb | hb
    · exact .inl (.inl hb)
    · rcases List.mem_cons.mp ((Queue.held_offer_perm free).subset hb) with rfl | hb
      · exact .inr (.inl (by simp))
      · exact .inl (.inr hb)
  | hold running full => exact .inl (by rwa [Queue.held_offer_of_full full] at hb)
  | enter running found =>
    rcases hb with hb | hb
    · exact .inl (.inl hb)
    · rcases List.mem_cons.mp ((Queue.held_enter?_perm found).subset hb) with rfl | hb
      · exact .inr (.inl (by simp))
      · exact .inl (.inr hb)
  | bounce ended found | withdraw running found =>
    exact .inl (by rwa [Queue.held_withdraw? found] at hb)
  | take phase found =>
    rw [Queue.held_take? found, List.mem_cons]
    exact .inl (.inr (by simpa [Phase.hand] using hb))
  | merge phase found =>
    rw [phase, Queue.held_take? found, List.mem_cons]
    exact .inl (by simpa [Phase.hand, or_assoc] using hb)
  | giveBack phase counted fresh =>
    rcases hb with hb | hb
    · exact .inl (.inl (by simpa [phase, Phase.hand] using .inr hb))
    · rcases List.mem_cons.mp (Queue.held_giveBack_perm.subset hb) with rfl | hb
      · exact .inr (.inr ⟨by simp, fresh⟩)
      · exact .inl (.inr hb)
  | abandon phase =>
    rw [phase]
    exact .inl (hb.imp_left fun hb => List.mem_cons_of_mem _ hb)
  | _ => simp_all [Phase.hand]

theorem Move.within (move : Move now s e effects t) (within : s.Within)
    (entering : ∀ b, .accepted b ∈ effects → b.retries ≤ s.settings.retryLimit) : t.Within := by
  intro b hb
  rw [move.settings_eq]
  rcases move.of_mem_holding hb with old | accepted | ⟨-, fresh⟩
  · exact within b old
  · exact entering b accepted
  · simpa [Batch.isExhausted] using fresh

theorem Move.overflown (move : Move now s e effects t) (running : s.ended = false)
    (halted : t.phase = .overflown) :
    ∃ a rest, s.phase = .returning (a :: rest) ∧ a.fail? = none := by
  cases move <;> simp_all [ended]

theorem Move.not_overflown (move : Move now s e effects t) (running : s.ended = false)
    (within : s.Within) (limited : s.settings.retryLimit.toNat < 0xffff_ffff) :
    t.phase ≠ .overflown := by
  intro halted
  obtain ⟨a, rest, phase, full⟩ := move.overflown running halted
  have few := within.of_returning phase
  have all := Batch.retries_of_fail?_eq_none full
  omega

theorem holding_start (built : Queue.ofCapacity? capacity = some queue) :
    (start settings offset queue).holding = [] := by
  obtain ⟨channel, -, overflow⟩ := Queue.empty_of_ofCapacity? built
  simp [holding, start, Phase.hand, Queue.held, channel, overflow]

theorem within_start (built : Queue.ofCapacity? capacity = some queue) :
    (start settings offset queue).Within := by
  intro b hb
  rw [holding_start built] at hb
  cases hb

theorem Run.settings_eq (run : Run s h t) : t.settings = s.settings := by
  induction run with
  | nil => rfl
  | step _ made ih => exact (move_of_step made).settings_eq.trans ih

theorem Run.within (run : Run s h t) (within : s.Within)
    (entering : ∀ b ∈ h.accepted, b.retries ≤ s.settings.retryLimit) : t.Within := by
  induction run with
  | nil => exact within
  | @step h t now e u effects run made ih =>
    refine (move_of_step made).within (ih fun b hb => entering b (by simp [hb])) fun b hb => ?_
    rw [run.settings_eq]
    exact entering b (History.mem_accepted (x := ⟨t, now, e, effects, u⟩) (by simp) hb)

theorem Run.within_at (run : Run s h t) (within : s.Within)
    (entering : ∀ b ∈ h.accepted, b.retries ≤ s.settings.retryLimit) {x : Transition}
    (hx : x ∈ h) : x.source.Within ∧ x.source.settings = s.settings ∧
      Move x.now x.source x.event x.effects x.target := by
  obtain ⟨h₁, h₂, rfl, before, move, -⟩ := run.split hx
  exact ⟨before.within within fun b hb => entering b (by simp [hb]), before.settings_eq, move⟩

end HostMonitor.Posting.Scheduler
