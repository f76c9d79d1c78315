import HostMonitor.Time.Calendar

namespace HostMonitor

open Calendar

def firstSecond : Int := yearStart (-262143) * 86400

def lastSecond : Int := yearStart 262143 * 86400 - 1

/-- Seconds since the start of 1970 and nanoseconds after that second, which may reach into a leap
second after it. -/
structure Instant : Type where
  seconds : Int
  nanos : Nat
  first_le : firstSecond ≤ seconds
  le_last : seconds ≤ lastSecond
  nanos_lt : nanos < 2_000_000_000
  deriving DecidableEq

namespace Instant

/-- A leap second comes after the last second of a minute only. -/
def Regular (t : Instant) : Prop := t.nanos < 1_000_000_000 ∨ t.seconds % 60 = 59

def of? (seconds : Int) (nanos : Nat) : Option Instant :=
  if h : firstSecond ≤ seconds ∧ seconds ≤ lastSecond ∧
      (nanos < 1_000_000_000 ∨ (nanos < 2_000_000_000 ∧ seconds % 60 = 59)) then
    some ⟨seconds, nanos, h.1, h.2.1, by omega⟩
  else none

def epoch : Instant := ⟨0, 0, by decide, by decide, by decide⟩

instance : Inhabited Instant := ⟨epoch⟩

def floor (t : Instant) : Instant := ⟨t.seconds, 0, t.first_le, t.le_last, by decide⟩

def ofMillis? (ms : Int) : Option Instant := of? (ms / 1000) ((ms % 1000).toNat * 1_000_000)

def millis (t : Instant) : Int := t.seconds * 1000 + (t.nanos / 1_000_000 : Nat)

/-- Nanoseconds since the start of 1970, leap seconds not counted: during one the count stands
still. -/
def sinceEpoch (t : Instant) : Int := t.seconds * 1_000_000_000 + (min t.nanos 999_999_999 : Nat)

theorem seconds_eq (t : Instant) : t.seconds = t.sinceEpoch / 1_000_000_000 := by
  unfold sinceEpoch
  omega

theorem of?_self (t : Instant) (regular : t.Regular) : of? t.seconds t.nanos = some t := by
  unfold of?
  rw [dif_pos ⟨t.first_le, t.le_last, regular.imp_right fun last => ⟨t.nanos_lt, last⟩⟩]

theorem regular_of_of? {seconds : Int} {nanos : Nat} {t : Instant}
    (made : of? seconds nanos = some t) : t.Regular := by
  obtain ⟨inside, made⟩ := Option.dite_none_right_eq_some.mp made
  cases made
  exact inside.2.2.imp_right And.right

theorem of?_seconds_zero (t : Instant) : of? t.seconds 0 = some t.floor := by
  simp [of?, t.first_le, t.le_last, floor]

theorem int64_bounds (t : Instant) :
    -0x8000_0000_0000_0000 ≤ t.seconds ∧ t.seconds < 0x8000_0000_0000_0000 := by
  have h := t.first_le
  have h' := t.le_last
  simp only [firstSecond, lastSecond, yearStart] at h h'
  omega

end Instant

end HostMonitor
