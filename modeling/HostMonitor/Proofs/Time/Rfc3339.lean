import HostMonitor.Proofs.Time.Calendar
import HostMonitor.Time.Rfc3339

namespace HostMonitor

theorem bind_of {α β : Type} {x : Option α} {f : α → Option β} {a : α} {b : β}
    (read : x = some a) (rest : f a = some b) : x >>= f = some b :=
  Option.bind_eq_some_iff.mpr ⟨a, read, rest⟩

namespace Rfc3339

open Calendar
open Nat (ofDigitChars)

variable {n x most : Nat} {c : Char} {ds rest cs : List Char}

structure Numeral (x : Nat) (ds : List Char) : Prop where
  nonempty : ds ≠ []
  digit : ∀ c ∈ ds, c.isDigit = true
  value : ofDigitChars 10 ds 0 = x

theorem digit_ofNat (small : x < 10) : Char.ofNat (48 + x) = x.digitChar := by
  revert x
  decide

theorem length_digits : (digits n x).length = n := by
  induction n generalizing x with
  | zero => rfl
  | succ n ih => simp [digits, ih]

theorem isDigit_of_mem_digits (member : c ∈ digits n x) : c.isDigit = true := by
  induction n generalizing x with
  | zero => cases member
  | succ n ih =>
    have small : x % 10 < 10 := Nat.mod_lt x (by decide)
    rcases List.mem_append.mp member with inner | last
    · exact ih inner
    · rw [List.mem_singleton.mp last, digit_ofNat small, Nat.isDigit_digitChar]
      exact decide_eq_true small

theorem ofDigitChars_digits (small : x < tenTo n) : ofDigitChars 10 (digits n x) 0 = x := by
  induction n generalizing x with
  | zero => exact (Nat.lt_one_iff.mp small).symm
  | succ n ih =>
    have step : tenTo (n + 1) = tenTo n * 10 := rfl
    have last : x % 10 < 10 := Nat.mod_lt x (by decide)
    rw [digits, Nat.ofDigitChars_append, ih (by omega), digit_ofNat last,
      Nat.ofDigitChars_cons_digitChar_of_lt_ten last, Nat.ofDigitChars_nil]
    omega

theorem numeral_digits (some : 0 < n) (small : x < tenTo n) : Numeral x (digits n x) where
  nonempty := by
    intro empty
    have length := length_digits (n := n) (x := x)
    rw [empty] at length
    exact absurd length (Nat.ne_of_lt some)
  digit _ := isDigit_of_mem_digits
  value := ofDigitChars_digits small

theorem numeral_padded (k x : Nat) : Numeral x (List.replicate k '0' ++ naturalDigits x) where
  nonempty := by simp [naturalDigits, Nat.toList_repr]
  digit c member := by
    rcases List.mem_append.mp member with zero | member
    · rw [List.eq_of_mem_replicate zero]
      rfl
    · rw [naturalDigits, Nat.toString_eq_repr, Nat.toList_repr] at member
      exact Nat.isDigit_of_mem_toDigits (by decide) (by decide) member
  value := by
    rw [Nat.ofDigitChars_append, Nat.ofDigitChars_replicate_zero, Nat.mul_zero, naturalDigits,
      Nat.toString_eq_repr, Nat.toList_repr, Nat.ofDigitChars_ten_toDigits]

def Stops (rest : List Char) : Prop := ∀ c ∈ rest.head?, c.isDigit = false

theorem number?_append (numeral : Numeral x ds) (fits : ds.length ≤ most)
    (stop : ds.length = most ∨ Stops rest) : number? most (ds ++ rest) = some (x, rest) := by
  have beyond : (rest.take (most - ds.length)).takeWhile Char.isDigit = [] := by
    rcases stop with full | stop
    · rw [full, Nat.sub_self]
      rfl
    · cases rest with
      | nil => rw [List.take_nil]; rfl
      | cons c rest =>
        cases most - ds.length with
        | zero => rfl
        | succ k => exact List.takeWhile_cons_of_neg (by simp [stop c rfl])
  have read : ((ds ++ rest).take most).takeWhile Char.isDigit = ds := by
    rw [List.take_append, List.take_of_length_le fits, List.takeWhile_append_of_pos numeral.digit,
      beyond, List.append_nil]
  obtain ⟨nonempty, digit, value⟩ := numeral
  cases ds with
  | nil => exact absurd rfl nonempty
  | cons d ds =>
    simp only [number?, read, List.drop_left, ← value, ofDigitChars, Nat.mul_comm]
    rfl

theorem isBlank_of_isDigit (digit : c.isDigit = true) : Text.isBlank c = false := by
  simp only [Char.isDigit, Bool.and_eq_true, decide_eq_true_eq, ge_iff_le,
    UInt32.le_iff_toNat_le] at digit
  have lower : 48 ≤ c.toNat := digit.1
  have upper : c.toNat ≤ 57 := digit.2
  simp only [Text.isBlank, Bool.or_eq_false_iff, Bool.and_eq_false_iff, decide_eq_false_iff_not,
    beq_eq_false_iff_ne]
  omega

theorem Numeral.dropLeading (numeral : Numeral x ds) (rest : List Char) :
    Text.dropLeading (ds ++ rest) = ds ++ rest := by
  cases ds with
  | nil => exact absurd rfl numeral.nonempty
  | cons d ds =>
    exact Text.dropLeading_eq_self (isBlank_of_isDigit (numeral.digit d List.mem_cons_self))

theorem mark?_cons (mark : Text.isBlank c = false) : mark? c (c :: rest) = some rest := by
  simp [mark?, Text.dropLeading_eq_self mark]

theorem spaced?_digits (small : x < 100) (rest : List Char) :
    spaced? 2 (digits 2 x ++ rest) = some (x, rest) := by
  have numeral : Numeral x (digits 2 x) := numeral_digits (by decide) small
  rw [spaced?, numeral.dropLeading]
  exact number?_append numeral (Nat.le_of_eq length_digits) (.inl length_digits)

theorem stops_cons (other : c.isDigit = false) : Stops (c :: rest) := by
  rintro d ⟨⟩
  exact other

theorem year?_of_plain (numeral : Numeral x ds) (length : ds.length = 4) (rest : List Char) :
    year? (ds ++ rest) = some ((x : Int), rest) := by
  have read : number? 4 (ds ++ rest) = some (x, rest) :=
    number?_append numeral (Nat.le_of_eq length) (.inl length)
  unfold year?
  rw [numeral.dropLeading]
  cases ds with
  | nil => exact absurd rfl numeral.nonempty
  | cons d ds =>
    have digit := numeral.digit d List.mem_cons_self
    split
    · next same => cases same; cases digit
    · next same => cases same; cases digit
    · rw [read]; rfl

theorem year?_of_signed (numeral : Numeral x ds) (stop : Stops rest) (negative : Bool) :
    year? ((if negative then '-' else '+') :: (ds ++ rest)) =
      some (if negative then -(x : Int) else x, rest) := by
  have read : number? (ds ++ rest).length (ds ++ rest) = some (x, rest) :=
    number?_append numeral (by simp) (.inr stop)
  have sign : Text.isBlank (if negative then '-' else '+') = false := by cases negative <;> rfl
  unfold year?
  rw [Text.dropLeading_eq_self sign]
  cases negative with
  | false => exact congrArg (Option.map _) read
  | true => exact congrArg (Option.map _) read

theorem year?_digits (y : Int) (stop : Stops rest) :
    year? (yearDigits y ++ rest) = some (y, rest) := by
  unfold yearDigits
  split
  · next plain =>
    have small : y.toNat < tenTo 4 := show y.toNat < 10000 by omega
    rw [year?_of_plain (numeral_digits (by decide) small) length_digits,
      Int.toNat_of_nonneg plain.1]
  · have read := year?_of_signed (numeral_padded (4 - (naturalDigits y.natAbs).length) y.natAbs)
      stop (decide (y < 0))
    have size : (if decide (y < 0) then -(y.natAbs : Int) else y.natAbs) = y := by
      simp only [decide_eq_true_eq]
      split <;> omega
    rw [size] at read
    simp only [decide_eq_true_eq] at read
    exact read

theorem fraction?_cons (some : 0 < n) (most : n ≤ 9) (small : x < tenTo n) :
    fraction? ('.' :: (digits n x ++ ['Z'])) = .some (x * tenTo (9 - n), ['Z']) := by
  have read : number? 9 (digits n x ++ ['Z']) = .some (x, ['Z']) :=
    number?_append (numeral_digits some small) (by rw [length_digits]; exact most)
      (.inr (stops_cons rfl))
  have length : (digits n x ++ ['Z']).length - ['Z'].length = n := by simp [length_digits]
  simp only [fraction?, read, Option.map_some, length]
  rfl

theorem fraction?_digits {nanos : Nat} (small : nanos < 1_000_000_000) :
    fraction? (fractionDigits nanos ++ ['Z']) = some (nanos, ['Z']) := by
  have thousand : tenTo 3 = 1000 := rfl
  have million : tenTo 6 = 1_000_000 := rfl
  have milliard : tenTo 9 = 1_000_000_000 := rfl
  unfold fractionDigits
  split
  · next none => rw [none]; rfl
  · split
    · next millis =>
      rw [List.cons_append, fraction?_cons (by decide) (by decide) (by omega), million]
      have whole : nanos / 1_000_000 * 1_000_000 = nanos := by omega
      rw [whole]
    · split
      · next micros =>
        rw [List.cons_append, fraction?_cons (by decide) (by decide) (by omega), thousand]
        have whole : nanos / 1000 * 1000 = nanos := by omega
        rw [whole]
      · rw [List.cons_append, fraction?_cons (by decide) (by decide) (by omega)]
        exact congrArg (fun n => some (n, _)) (Nat.mul_one nanos)

theorem timeOfDay?_eq (rest nanos : Nat) (day : rest < 86400)
    (leap : nanos < 1_000_000_000 ∨ (nanos < 2_000_000_000 ∧ rest % 60 = 59)) :
    timeOfDay? (rest / 3600) (rest / 60 % 60) (rest % 60 + nanos / 1_000_000_000)
      (nanos % 1_000_000_000) = some (rest, nanos) := by
  have hour : rest / 3600 < 24 := by omega
  have minute : rest / 60 % 60 < 60 := by omega
  have second : rest % 60 + nanos / 1_000_000_000 ≤ 60 := by omega
  rw [timeOfDay?, if_pos ⟨hour, minute, second⟩]
  split
  · next last =>
    have seconds : rest / 3600 * 3600 + rest / 60 % 60 * 60 + 59 = rest := by omega
    have nanos : nanos % 1_000_000_000 + 1_000_000_000 = nanos := by omega
    rw [seconds, nanos]
  · next other =>
    have seconds : rest / 3600 * 3600 + rest / 60 % 60 * 60 +
        (rest % 60 + nanos / 1_000_000_000) = rest := by omega
    have nanos : nanos % 1_000_000_000 = nanos := by omega
    rw [seconds, nanos]

theorem parse?_render (t : Instant) (regular : t.Regular) : parse? (render t) = some t := by
  have within := t.nanos_lt
  have leap : t.nanos < 1_000_000_000 ∨ t.nanos < 2_000_000_000 ∧ t.seconds % 60 = 59 :=
    regular.imp_right fun last => ⟨within, last⟩
  have month := Nat.lt_of_le_of_lt (month_ofDays_le (t.seconds / 86400)) (by decide : 12 < 100)
  have day := Nat.lt_of_le_of_lt (day_ofDays_le (t.seconds / 86400)) (by decide : 31 < 100)
  have written : renderChars t = yearDigits (Date.ofDays (t.seconds / 86400)).year ++
      '-' :: (digits 2 (Date.ofDays (t.seconds / 86400)).month ++
      '-' :: (digits 2 (Date.ofDays (t.seconds / 86400)).day ++
      'T' :: (digits 2 ((t.seconds % 86400).toNat / 3600) ++
      ':' :: (digits 2 ((t.seconds % 86400).toNat / 60 % 60) ++
      ':' :: (digits 2 ((t.seconds % 86400).toNat % 60 + t.nanos / 1_000_000_000) ++
        (fractionDigits (t.nanos % 1_000_000_000) ++ ['Z'])))))) := by
    simp only [renderChars, List.append_assoc, List.cons_append]
  rw [parse?, render, String.toList_ofList, written]
  refine bind_of (year?_digits _ (stops_cons rfl)) (bind_of (mark?_cons rfl) ?_)
  refine bind_of (spaced?_digits month _) (bind_of (mark?_cons rfl) ?_)
  refine bind_of (spaced?_digits day _) (bind_of rfl ?_)
  refine bind_of (spaced?_digits (by omega) _) (bind_of (mark?_cons rfl) ?_)
  refine bind_of (spaced?_digits (by omega) _) (bind_of (mark?_cons rfl) ?_)
  refine bind_of (spaced?_digits (by omega) _) (bind_of (fraction?_digits (by omega)) ?_)
  refine bind_of rfl (bind_of (timeOfDay?_eq _ _ (by omega) (by omega)) ?_)
  have valid : ((Date.ofDays (t.seconds / 86400)).isValid && [].all Text.isBlank) = true := by
    rw [isValid_ofDays]
    rfl
  have seconds : (Date.ofDays (t.seconds / 86400)).toDays * 86400 +
      ((t.seconds % 86400).toNat : Int) = t.seconds := by
    rw [toDays_ofDays]
    omega
  have instant := Instant.of?_self t regular
  refine (if_pos valid).trans (bind_of (a := t) ?_ ?_)
  · rw [← seconds] at instant
    exact instant
  · rw [Int.sub_zero]
    exact instant

theorem regular_of_parse? {s : String} {t : Instant} (read : parse? s = some t) : t.Regular := by
  unfold parse? parseChars? at read
  -- Thirteen parts of the text are read before the time of day is put together.
  iterate 13 obtain ⟨_, -, read⟩ := Option.bind_eq_some_iff.mp read
  obtain ⟨⟨seconds, nanos⟩, -, read⟩ := Option.bind_eq_some_iff.mp read
  obtain ⟨-, read⟩ := Option.ite_none_right_eq_some.mp read
  obtain ⟨wall, -, read⟩ := Option.bind_eq_some_iff.mp read
  exact Instant.regular_of_of? read

end Rfc3339

namespace Instant

/-- Where the calendar has no leap second, it is written as the second in its place. -/
def asWritten (t : Instant) : Instant :=
  if h : t.nanos < 1_000_000_000 ∨ t.seconds % 60 = 59 then t
  else ⟨t.seconds + 1, t.nanos - 1_000_000_000, by have := t.first_le; omega,
    by have := t.le_last; have : lastSecond % 60 = 59 := rfl; omega,
    by have := t.nanos_lt; omega⟩

theorem asWritten_of_regular {t : Instant} (regular : t.Regular) : t.asWritten = t :=
  dif_pos regular

theorem regular_asWritten (t : Instant) : t.asWritten.Regular := by
  have within := t.nanos_lt
  unfold asWritten
  split
  · next regular => exact regular
  · exact .inl (show t.nanos - 1_000_000_000 < 1_000_000_000 by omega)

end Instant

namespace Rfc3339

theorem render_asWritten (t : Instant) : render t.asWritten = render t := by
  have within := t.nanos_lt
  unfold Instant.asWritten
  split
  · rfl
  · next irregular =>
    -- The next second is of the same minute.
    have day : (t.seconds + 1) / 86400 = t.seconds / 86400 := by omega
    have rest : ((t.seconds + 1) % 86400).toNat = (t.seconds % 86400).toNat + 1 := by omega
    have hour : ((t.seconds % 86400).toNat + 1) / 3600 = (t.seconds % 86400).toNat / 3600 := by
      omega
    have minute : ((t.seconds % 86400).toNat + 1) / 60 = (t.seconds % 86400).toNat / 60 := by
      omega
    have second : ((t.seconds % 86400).toNat + 1) % 60 + (t.nanos - 1_000_000_000) / 1_000_000_000 =
        (t.seconds % 86400).toNat % 60 + t.nanos / 1_000_000_000 := by omega
    have fraction : (t.nanos - 1_000_000_000) % 1_000_000_000 = t.nanos % 1_000_000_000 := by omega
    simp only [render, renderChars, day, rest, hour, minute, second, fraction]

end Rfc3339

end HostMonitor
