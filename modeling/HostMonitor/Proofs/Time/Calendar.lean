import HostMonitor.Time.Calendar

namespace HostMonitor.Calendar

variable {n : Nat} {ls : List Nat}

theorem foldl_add_cons (l : Nat) (ls : List Nat) :
    (l :: ls).foldl (· + ·) 0 = l + ls.foldl (· + ·) 0 := by
  have shift (m : Nat) : ls.foldl (· + ·) m = m + ls.foldl (· + ·) 0 := by
    induction ls generalizing m with
    | nil => rfl
    | cons k ks ih =>
      simp only [List.foldl_cons]
      rw [ih (m + k), ih (0 + k)]
      omega
  rw [List.foldl_cons, shift, Nat.zero_add]

structure Within (n : Nat) (ls : List Nat) (p : Nat × Nat) : Prop where
  month_pos : 1 ≤ p.1
  month_le : p.1 ≤ ls.length
  day_pos : 1 ≤ p.2
  day_le : p.2 ≤ ls.getD (p.1 - 1) 0
  before : (ls.take (p.1 - 1)).foldl (· + ·) 0 + (p.2 - 1) = n

theorem within_splitDay (early : n < ls.foldl (· + ·) 0) : Within n ls (splitDay n ls) := by
  induction ls generalizing n with
  | nil => cases early
  | cons l ls ih =>
    rw [foldl_add_cons] at early
    by_cases first : n < l
    · simp only [splitDay, first, if_true]
      exact ⟨Nat.le_refl 1, by simp, by simp, by simpa [Nat.succ_le_iff] using first, by simp⟩
    · simp only [splitDay, first, if_false]
      have rest := ih (n := n - l) (by omega)
      generalize splitDay (n - l) ls = p at rest
      obtain ⟨m, d⟩ := p
      obtain ⟨month_pos, month_le, day_pos, day_le, before⟩ := rest
      obtain ⟨m, rfl⟩ := Nat.exists_eq_add_of_le' month_pos
      refine ⟨by simp, by simpa using month_le, day_pos, by simpa using day_le, ?_⟩
      simp only [Nat.add_sub_cancel] at before ⊢
      rw [List.take_succ_cons, foldl_add_cons]
      omega

theorem days_of_year (leap : Bool) :
    (monthLengths leap).foldl (· + ·) 0 = if leap then 366 else 365 := by
  cases leap <;> rfl

theorem within_ofDays (days : Int) :
    Within (days - yearStart (yearOf days)).toNat (monthLengths (isLeap (yearOf days)))
      ((Date.ofDays days).month, (Date.ofDays days).day) := by
  refine within_splitDay ?_
  have lower := yearOf_le days
  have upper := lt_yearOf_succ days
  rw [yearStart_succ] at upper
  rw [days_of_year]
  split at upper <;> simp_all <;> omega

theorem isValid_ofDays (days : Int) : (Date.ofDays days).isValid = true := by
  have within := within_ofDays days
  simp only [Date.isValid, Bool.and_eq_true, decide_eq_true_eq]
  exact ⟨⟨⟨within.month_pos, within.month_le⟩, within.day_pos⟩, within.day_le⟩

theorem toDays_ofDays (days : Int) : (Date.ofDays days).toDays = days := by
  have within := within_ofDays days
  have before := within.before
  have day_pos := within.day_pos
  have lower := yearOf_le days
  have year : (Date.ofDays days).year = yearOf days := rfl
  simp only [Date.toDays, daysBeforeMonth, year]
  dsimp only at before day_pos
  omega

theorem monthLength_le (leap : Bool) (i : Nat) : (monthLengths leap).getD i 0 ≤ 31 := by
  have all : ∀ l ∈ monthLengths leap, l ≤ 31 := by cases leap <;> decide
  rw [List.getD_eq_getElem?_getD]
  cases found : (monthLengths leap)[i]? with
  | none => exact Nat.zero_le 31
  | some l => exact all l (List.mem_of_getElem? found)

theorem month_ofDays_le (days : Int) : (Date.ofDays days).month ≤ 12 :=
  (within_ofDays days).month_le

theorem day_ofDays_le (days : Int) : (Date.ofDays days).day ≤ 31 :=
  Nat.le_trans (within_ofDays days).day_le (monthLength_le _ _)

end HostMonitor.Calendar
