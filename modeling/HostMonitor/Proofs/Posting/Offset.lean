import HostMonitor.Posting.Mode
import HostMonitor.Time.Instant

/-!
When a host posts. Its offset is a second of the interval, and the time left until then is computed
in 64 bits: the length of the interval is read as a signed number, which is negative from 2^63 on,
and the remainder of a division by it overflows in one case.
-/

namespace HostMonitor.Posting

variable {interval slot : Span} {hostId : String} {now a b : Int64} {x p d : Int} {m : Nat}

theorem emod_add_sub (nonneg : 0 ≤ d) (below : d < p) : (x + (d - x % p)) % p = d := by
  have moved : x % p + (d - x % p) = d := by omega
  rw [← Int.emod_add_emod, moved, Int.emod_eq_of_lt nonneg below]

theorem sub_emod_le (positive : 0 < p) (below : d < p) (hit : (x + m) % p = d) :
    d - x % p ≤ m := by
  refine Int.not_lt.mp fun early => ?_
  have least := Int.emod_nonneg x (Int.ne_of_gt positive)
  rw [← Int.emod_add_emod, Int.emod_eq_of_lt (by omega) (by omega)] at hit
  omega

def remainder (a b : Int64) : Int64 :=
  if a % b < 0 then a % b + (if b < 0 then -b else b) else a % b

def remainder? (a b : Int64) : Option Int64 :=
  if a.toInt.tdiv b.toInt < 0x8000_0000_0000_0000 then some (remainder a b) else none

theorem toInt_bounds (a : Int64) :
    -0x8000_0000_0000_0000 ≤ a.toInt ∧ a.toInt < 0x8000_0000_0000_0000 :=
  ⟨Int64.le_toInt a, Int64.toInt_lt a⟩

theorem tdiv_lt_iff : a.toInt.tdiv b.toInt < 0x8000_0000_0000_0000 ↔
    ¬ (a = Int64.minValue ∧ b = -1) := by
  have least : Int64.minValue.toInt = -0x8000_0000_0000_0000 := rfl
  have minus : (-1 : Int64).toInt = -1 := rfl
  rw [← Int64.toInt_inj, ← Int64.toInt_inj, least, minus]
  have bounds := toInt_bounds a
  generalize a.toInt = x at bounds
  generalize b.toInt = y
  have size : (x.tdiv y).natAbs ≤ x.natAbs := Int.natAbs_tdiv_le_natAbs x y
  by_cases all : y = -1
  · subst all
    rw [Int.tdiv_neg, Int.tdiv_one]
    omega
  by_cases nonneg : 0 ≤ y
  · rcases Int.le_total 0 x with positive | negative
    · omega
    · have sign : x.tdiv y = -((-x).tdiv y) := by rw [Int.neg_tdiv, Int.neg_neg]
      have := Int.tdiv_nonneg (Int.neg_nonneg_of_nonpos negative) nonneg
      omega
  -- Any other negative divisor at least halves the size.
  · have half : (x.tdiv y).natAbs ≤ x.natAbs / 2 := by
      rw [Int.natAbs_tdiv]
      exact Nat.div_le_div_left (by omega) (by decide)
    omega

theorem toInt_size :
    (if b < 0 then -b else b).toInt = (b.toInt.natAbs : Int).bmod 0x1_0000_0000_0000_0000 := by
  have sign : b < 0 ↔ b.toInt < 0 := Int64.lt_iff_toInt_lt
  by_cases negative : b < 0
  · have size : (b.toInt.natAbs : Int) = -b.toInt := by
      have := sign.mp negative
      omega
    rw [if_pos negative, size]
    exact Int64.toInt_neg b
  · have size : (b.toInt.natAbs : Int) = b.toInt := by
      have := mt sign.mpr negative
      omega
    rw [if_neg negative, size, Int64.toInt_bmod]

theorem toInt_remainder (nonzero : b ≠ 0) : (remainder a b).toInt = a.toInt % b.toInt := by
  have divisor : b.toInt ≠ 0 := fun zero => nonzero (Int64.toInt_inj.mp zero)
  have least := Int.emod_nonneg a.toInt divisor
  have most := Int.emod_lt a.toInt divisor
  have bounds := toInt_bounds b
  have towards := Int.tmod_eq_emod (a := a.toInt) (b := b.toInt)
  have sum (x y : Int64) : (x + y).toInt = (x.toInt + y.toInt).bmod 0x1_0000_0000_0000_0000 :=
    Int64.toInt_add x y
  have sign : a % b < 0 ↔ a.toInt.tmod b.toInt < 0 := by
    rw [Int64.lt_iff_toInt_lt, Int64.toInt_mod]
    rfl
  -- The remainder towards zero is negative only when it is moved, and the sum that moves it has room
  -- even where the size of the divisor has none.
  by_cases whole : 0 ≤ a.toInt ∨ b.toInt ∣ a.toInt
  · rw [if_pos whole] at towards
    rw [remainder, if_neg (by rw [sign]; omega), Int64.toInt_mod]
    omega
  · rw [if_neg whole] at towards
    rw [remainder, if_pos (by rw [sign]; omega), sum, Int64.toInt_mod, toInt_size,
      Int.add_bmod_bmod, towards, Int.sub_add_cancel]
    exact Int.bmod_eq_of_le (by omega) (by omega)

theorem toNat_remainder (nonzero : b ≠ 0) :
    (remainder a b).toUInt64.toNat = (a.toInt % b.toInt).toNat := by
  have divisor : b.toInt ≠ 0 := fun zero => nonzero (Int64.toInt_inj.mp zero)
  have least : 0 ≤ remainder a b := by
    rw [Int64.le_iff_toInt_le, toInt_remainder nonzero]
    exact Int.emod_nonneg _ divisor
  rw [Int64.toNat_toUInt64_of_le least, ← toInt_remainder nonzero]
  rfl

theorem toInt_modulus (interval : Span) : (modulus interval).toInt =
    if interval.seconds.toNat < 0x8000_0000_0000_0000 then (interval.seconds.toNat : Int)
    else interval.seconds.toNat - 0x1_0000_0000_0000_0000 := by
  have bits : (modulus interval).toInt = interval.seconds.toBitVec.toInt := rfl
  rw [bits, BitVec.toInt_eq_toNat_cond, UInt64.toNat_toBitVec]
  split <;> split <;> omega

theorem modulus_eq_zero_iff : modulus interval = 0 ↔ interval.seconds = 0 := by
  have zero : (0 : Int64).toInt = 0 := rfl
  have none : interval.seconds = 0 ↔ interval.seconds.toNat = 0 := UInt64.toNat_inj.symm
  have bound := interval.seconds.toNat_lt
  rw [none, ← Int64.toInt_inj, toInt_modulus, zero]
  split <;> omega

theorem modulus_eq_neg_one_iff :
    modulus interval = -1 ↔ interval.seconds.toNat = 0xffff_ffff_ffff_ffff := by
  have minus : (-1 : Int64).toInt = -1 := rfl
  have bound := interval.seconds.toNat_lt
  rw [← Int64.toInt_inj, toInt_modulus, minus]
  split <;> omega

theorem overflows_iff : overflows interval now = true ↔
    now = Int64.minValue ∧ interval.seconds.toNat = 0xffff_ffff_ffff_ffff := by
  simp [overflows, modulus_eq_neg_one_iff]

theorem seconds_ne_zero (lasting : 1 ≤ interval.seconds.toNat) : interval.seconds ≠ 0 := by
  intro zero
  rw [zero] at lasting
  exact absurd lasting (by decide)

@[simp] theorem nanos_offset : (offset hostId interval).nanos = 0 := by
  unfold offset
  split <;> rfl

theorem offset_lt (lasting : 1 ≤ interval.seconds.toNat) :
    (offset hostId interval).seconds < interval.seconds := by
  rw [offset, if_neg (seconds_ne_zero lasting), UInt64.lt_iff_toNat_lt]
  change (_ % interval.seconds).toNat < _
  rw [UInt64.toNat_mod]
  exact Nat.mod_lt _ lasting

@[simp] theorem nanos_untilOffset : (untilOffset slot interval x).nanos = 0 := by
  unfold untilOffset
  split <;> rfl

theorem untilOffset_of_zero (zero : interval.seconds = 0) : untilOffset slot interval x = .zero :=
  if_pos zero

theorem seconds_untilOffset (nonzero : interval.seconds ≠ 0) :
    (untilOffset slot interval x).seconds.toNat = slot.seconds.toNat - elapsed interval x := by
  have bound := slot.seconds.toNat_lt
  rw [untilOffset, if_neg nonzero]
  change (UInt64.ofNat _).toNat = _
  rw [UInt64.toNat_ofNat', Nat.mod_eq_of_lt (by omega)]

theorem untilOffset_eq_zero (none : slot.seconds.toNat ≤ elapsed interval x) :
    untilOffset slot interval x = .zero := by
  unfold untilOffset
  split
  · rfl
  · rw [Nat.sub_eq_zero_of_le none]
    rfl

theorem inNanos_untilOffset_le : (untilOffset slot interval x).inNanos ≤ slot.inNanos := by
  by_cases zero : interval.seconds = 0
  · rw [untilOffset_of_zero zero]
    exact Nat.zero_le _
  · rw [Span.inNanos, seconds_untilOffset zero, nanos_untilOffset, Span.inNanos]
    omega

theorem elapsed_eq (below : interval.seconds.toNat < 0x8000_0000_0000_0000) :
    elapsed interval x = (x % interval.seconds.toNat).toNat := by
  rw [elapsed, toInt_modulus, if_pos below]
  rfl

/-- The span is what is left at the second `x` until the second `slot` of the interval, or nothing
when that has passed. -/
structure Meets (slot interval : Span) (x : Int) (r : Span) : Prop where
  whole : r.nanos = 0
  hits : x % interval.seconds.toNat ≤ slot.seconds.toNat →
    (x + r.seconds.toNat) % interval.seconds.toNat = slot.seconds.toNat
  least : ∀ m : Nat,
    (x + m) % interval.seconds.toNat = slot.seconds.toNat → r.seconds.toNat ≤ m
  passed : slot.seconds.toNat < x % interval.seconds.toNat → r = .zero

theorem meets_untilOffset (lasting : 1 ≤ interval.seconds.toNat)
    (below : interval.seconds.toNat < 0x8000_0000_0000_0000)
    (inside : slot.seconds < interval.seconds) :
    Meets slot interval x (untilOffset slot interval x) := by
  have inside : (slot.seconds.toNat : Int) < interval.seconds.toNat := by
    exact_mod_cast UInt64.lt_iff_toNat_lt.mp inside
  have positive : (0 : Int) < interval.seconds.toNat := by omega
  have start := Int.emod_nonneg x (Int.ne_of_gt positive)
  have left : (untilOffset slot interval x).seconds.toNat =
      slot.seconds.toNat - (x % interval.seconds.toNat).toNat := by
    rw [seconds_untilOffset (seconds_ne_zero lasting), elapsed_eq below]
  refine ⟨nanos_untilOffset, fun early => ?_, fun m hit => ?_, fun late => ?_⟩
  · have left : ((untilOffset slot interval x).seconds.toNat : Int) =
        slot.seconds.toNat - x % interval.seconds.toNat := by omega
    rw [left]
    exact emod_add_sub (by omega) inside
  · have := sub_emod_le positive inside hit
    omega
  · refine untilOffset_eq_zero ?_
    rw [elapsed_eq below]
    omega

/-- The time left, with all numbers in 64 bits. The remainder is read as an unsigned number, and
the difference is never below zero. -/
def timeLeft? (slot interval : Span) (now : Int64) : Option Span :=
  if modulus interval = 0 then some .zero
  else (remainder? now (modulus interval)).map fun e =>
    .ofSeconds (if e.toUInt64 ≤ slot.seconds then slot.seconds - e.toUInt64 else 0)

theorem sub_seconds {e : UInt64} : (if e ≤ slot.seconds then slot.seconds - e else 0) =
    UInt64.ofNat (slot.seconds.toNat - e.toNat) := by
  by_cases early : e ≤ slot.seconds
  · rw [if_pos early, ← UInt64.toNat_sub_of_le _ _ early, UInt64.ofNat_toNat]
  · rw [if_neg early, Nat.sub_eq_zero_of_le]
    · rfl
    · exact Nat.le_of_lt (Nat.lt_of_not_le (mt UInt64.le_iff_toNat_le.mpr early))

theorem untilOffset?_eq_timeLeft? :
    untilOffset? slot interval now = timeLeft? slot interval now := by
  by_cases zero : modulus interval = 0
  · have still : overflows interval now = false := by simp [overflows, zero]
    rw [untilOffset?, if_neg (by simp [still]),
      untilOffset_of_zero (modulus_eq_zero_iff.mp zero), timeLeft?, if_pos zero]
  · have seconds : interval.seconds ≠ 0 := mt modulus_eq_zero_iff.mpr zero
    rw [untilOffset?, timeLeft?, if_neg zero, remainder?]
    simp only [tdiv_lt_iff, overflows, Bool.and_eq_true, decide_eq_true_eq]
    split
    · rfl
    · rw [Option.map_some, sub_seconds, toNat_remainder zero, untilOffset, if_neg seconds]
      rfl

theorem untilOffset?_eq_none_iff : untilOffset? slot interval now = none ↔
    now = Int64.minValue ∧ interval.seconds.toNat = 0xffff_ffff_ffff_ffff := by
  rw [← overflows_iff, untilOffset?]
  split <;> simp_all

theorem untilOffset?_of_instant (offset interval : Span) (t : Instant) :
    untilOffset? offset interval (Int64.ofInt t.seconds) =
      some (untilOffset offset interval t.seconds) := by
  obtain ⟨lower, upper⟩ := t.int64_bounds
  have first := t.first_le
  have same : (Int64.ofInt t.seconds).toInt = t.seconds := Int64.toInt_ofInt_of_le lower upper
  have later : Int64.ofInt t.seconds ≠ Int64.minValue := by
    intro least
    rw [least] at same
    rw [← same] at first
    revert first
    decide
  simp [untilOffset?, overflows, later, same]

/-- A host's offset is a second of the interval, at which the delay of a regular cycle ends unless
it has passed. Whatever the interval, the delay is not longer than the offset, and it fails to be
computed in one case only: at the least second, with the greatest interval. -/
theorem offset_met_in_interval :
    (∀ hostId (interval : Span), 1 ≤ interval.seconds.toNat →
      interval.seconds.toNat < 0x8000_0000_0000_0000 →
      (offset hostId interval).nanos = 0 ∧ (offset hostId interval).seconds < interval.seconds ∧
      ∀ now, ∃ r, untilOffset? (offset hostId interval) interval now = some r ∧
        Meets (offset hostId interval) interval now.toInt r) ∧
    (∀ slot interval now, untilOffset? slot interval now = timeLeft? slot interval now ∧
      (untilOffset? slot interval now = none ↔
        now = Int64.minValue ∧ interval.seconds.toNat = 0xffff_ffff_ffff_ffff) ∧
      (∀ r, untilOffset? slot interval now = some r → r.inNanos ≤ slot.inNanos) ∧
      (interval.seconds = 0 → untilOffset? slot interval now = some .zero)) ∧
    ∀ (s : Settings) (slot : Span) (t : Instant),
      untilOffset? slot s.interval (Int64.ofInt t.seconds) =
        some (s.delay slot t.seconds .regular) := by
  refine ⟨?_, ?_, fun s slot t => untilOffset?_of_instant slot s.interval t⟩
  · intro hostId interval lasting below
    have inside : (offset hostId interval).seconds < interval.seconds := offset_lt lasting
    refine ⟨nanos_offset, inside, fun now => ⟨_, ?_, meets_untilOffset lasting below inside⟩⟩
    exact if_neg (fun overflow => by have := overflows_iff.mp overflow; omega)
  · intro slot interval now
    refine ⟨untilOffset?_eq_timeLeft?, untilOffset?_eq_none_iff, fun r left => ?_, fun zero => ?_⟩
    · unfold untilOffset? at left
      split at left
      · cases left
      · cases left
        exact inNanos_untilOffset_le
    · rw [untilOffset?_eq_timeLeft?, timeLeft?, if_pos (modulus_eq_zero_iff.mpr zero)]

theorem trial_offset_met :
    offset "abc" (.ofSeconds 60) = .ofSeconds 37 ∧
    untilOffset? (.ofSeconds 37) (.ofSeconds 60) (-50) = some (.ofSeconds 27) ∧
    Meets (.ofSeconds 37) (.ofSeconds 60) (-50) (.ofSeconds 27) ∧
    untilOffset? (.ofSeconds 37) (.ofSeconds 0xffff_ffff_ffff_ffff) Int64.minValue = none := by
  have digest : offset "abc" (.ofSeconds 60) = .ofSeconds 37 := by decide +kernel
  have left : untilOffset? (.ofSeconds 37) (.ofSeconds 60) (-50) = some (.ofSeconds 27) := by
    decide +kernel
  obtain ⟨slots, all, -⟩ := offset_met_in_interval
  obtain ⟨-, -, meets⟩ := slots "abc" (.ofSeconds 60) (by decide) (by decide)
  rw [digest] at meets
  obtain ⟨r, left', meets⟩ := meets (-50)
  cases left.symm.trans left'
  exact ⟨digest, left, meets, (all _ _ _).2.1.mpr ⟨rfl, rfl⟩⟩

end HostMonitor.Posting
