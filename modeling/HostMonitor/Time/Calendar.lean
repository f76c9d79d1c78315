namespace HostMonitor.Calendar

structure Date : Type where
  year : Int
  month : Nat
  day : Nat
  deriving DecidableEq

def isLeap (y : Int) : Bool := y % 4 == 0 && (y % 100 != 0 || y % 400 == 0)

def yearStart (y : Int) : Int :=
  365 * (y - 1970) + (y - 1) / 4 - (y - 1) / 100 + (y - 1) / 400 - 477

def monthLengths (leap : Bool) : List Nat :=
  [31, if leap then 29 else 28, 31, 30, 31, 30, 31, 31, 30, 31, 30, 31]

def daysBeforeMonth (leap : Bool) (m : Nat) : Nat :=
  ((monthLengths leap).take (m - 1)).foldl (· + ·) 0

def Date.isValid (d : Date) : Bool :=
  1 ≤ d.month && d.month ≤ 12 && 1 ≤ d.day &&
    d.day ≤ (monthLengths (isLeap d.year)).getD (d.month - 1) 0

def Date.toDays (d : Date) : Int :=
  yearStart d.year + daysBeforeMonth (isLeap d.year) d.month + (d.day - 1 : Int)

/-- The year of a day: at most one off the quotient by the mean length of a year. -/
def yearOf (days : Int) : Int :=
  let y := 1970 + days * 400 / 146097
  if days < yearStart y then y - 1 else if yearStart (y + 1) ≤ days then y + 1 else y

def splitDay : Nat → List Nat → Nat × Nat
  | n, [] => (1, n + 1)
  | n, l :: ls => if n < l then (1, n + 1) else let (m, d) := splitDay (n - l) ls; (m + 1, d)

def Date.ofDays (days : Int) : Date :=
  let y := yearOf days
  let (m, d) := splitDay (days - yearStart y).toNat (monthLengths (isLeap y))
  ⟨y, m, d⟩

theorem yearStart_succ (y : Int) :
    yearStart (y + 1) = yearStart y + if isLeap y then 366 else 365 := by
  have h4 : y % 4 = 0 ∨ ¬ y % 4 = 0 := Decidable.em _
  have h100 : y % 100 = 0 ∨ ¬ y % 100 = 0 := Decidable.em _
  have h400 : y % 400 = 0 ∨ ¬ y % 400 = 0 := Decidable.em _
  unfold yearStart
  rcases h4 with h4 | h4 <;> rcases h100 with h100 | h100 <;> rcases h400 with h400 | h400 <;>
    simp [isLeap, h4, h100, h400] <;> omega

theorem yearStart_bounds (y : Int) :
    146097 * (y - 1970) - 506 ≤ 400 * yearStart y ∧
      400 * yearStart y ≤ 146097 * (y - 1970) + 589 := by
  unfold yearStart
  omega

theorem yearOf_le (days : Int) : yearStart (yearOf days) ≤ days := by
  have h := yearStart_bounds (1970 + days * 400 / 146097 - 1)
  unfold yearOf
  dsimp only
  split
  · omega
  · split <;> omega

theorem lt_yearOf_succ (days : Int) : days < yearStart (yearOf days + 1) := by
  have h := yearStart_bounds (1970 + days * 400 / 146097 + 1 + 1)
  unfold yearOf
  dsimp only
  split
  · next lt => simpa using lt
  · split <;> omega

end HostMonitor.Calendar
