import HostMonitor.Number.Binary64

namespace HostMonitor

theorem twoTo_add (m n : Nat) : twoTo (m + n) = twoTo m * twoTo n := Nat.pow_add 2 m n

theorem twoTo_le {m n : Nat} (le : m ≤ n) : twoTo m ≤ twoTo n :=
  Nat.pow_le_pow_right Nat.two_pos le

theorem twoTo_pos (n : Nat) : 0 < twoTo n := Nat.pow_pos Nat.two_pos

namespace Binary64

variable {num : Nat} {e : Int}

theorem roundHalfEven_le (num den : Nat) : roundHalfEven num den ≤ num / den + 1 := by
  simp only [roundHalfEven]
  split
  · omega
  · split <;> omega

theorem inUnits_lt (last : (num.log2 : Int) - 53 ≤ e) :
    (inUnits num 1 e).1 / (inUnits num 1 e).2 < twoTo 54 := by
  have size : num < twoTo (num.log2 + 1) := Nat.lt_log2_self
  unfold inUnits
  split
  · next small =>
    have fits : num.log2 + 1 + (-e).toNat ≤ 54 := by omega
    calc num * twoTo (-e).toNat / 1
        = num * twoTo (-e).toNat := Nat.div_one _
      _ < twoTo (num.log2 + 1) * twoTo (-e).toNat := Nat.mul_lt_mul_of_pos_right size (twoTo_pos _)
      _ = twoTo (num.log2 + 1 + (-e).toNat) := (twoTo_add _ _).symm
      _ ≤ twoTo 54 := twoTo_le fits
  · next large =>
    have fits : num.log2 + 1 ≤ 54 + e.toNat := by omega
    refine (Nat.div_lt_iff_lt_mul (by rw [Nat.one_mul]; exact twoTo_pos _)).mpr ?_
    calc num
        < twoTo (num.log2 + 1) := size
      _ ≤ twoTo (54 + e.toNat) := twoTo_le fits
      _ = twoTo 54 * (1 * twoTo e.toNat) := by rw [Nat.one_mul, twoTo_add]

theorem unitExponent_bounds (small : num.log2 ≤ 64) :
    (num.log2 : Int) - 53 ≤ unitExponent num 1 ∧ unitExponent num 1 ≤ 12 := by
  have one : Nat.log2 1 = 0 := by decide
  simp only [unitExponent, one]
  split <;> omega

theorem bits_lt {m : Nat} (most : e ≤ 12) (units : m ≤ twoTo 54) :
    (if m < leadingBit then m else (e + 1075).toNat * leadingBit + (m - leadingBit)) <
      infinityBits := by
  have bound : twoTo 54 = 0x40_0000_0000_0000 := rfl
  split
  · next low => exact Nat.lt_trans low (by decide)
  · simp only [leadingBit, infinityBits]
    omega

theorem magnitude_lt (small : num < 0x2_0000_0000_0000_0000) :
    magnitude num 1 < infinityBits := by
  unfold magnitude
  split
  · decide
  · next some =>
    have size : num.log2 ≤ 64 := Nat.le_of_lt_succ ((Nat.log2_lt some).mpr small)
    obtain ⟨last, most⟩ := unitExponent_bounds size
    have units := Nat.le_trans (roundHalfEven_le _ _) (inUnits_lt last)
    exact Nat.lt_of_le_of_lt (Nat.min_le_left _ _) (bits_lt most units)

theorem isFinite_ofRatio {den : Nat} (negative : Bool) (small : magnitude num den < infinityBits) :
    (ofRatio negative num den).isFinite = true := by
  have bits : (ofRatio negative num den).bits.toNat =
      magnitude num den + if negative then 0x8000_0000_0000_0000 else 0 := by
    simp only [infinityBits] at small
    simp only [ofRatio, UInt64.toNat_ofNat']
    split <;> omega
  simp only [isFinite, exponent, bits, leadingBit, infinityBits, bne_iff_ne] at *
  split <;> omega

theorem isFinite_ofInt {n : Int} (lower : -0x8000_0000_0000_0000 ≤ n)
    (upper : n < 0x1_0000_0000_0000_0000) : (ofInt n).isFinite = true :=
  isFinite_ofRatio _ (magnitude_lt (by omega))

end Binary64

end HostMonitor
