import HostMonitor.Number.Power

namespace HostMonitor

structure Binary64 : Type where
  bits : UInt64
  deriving DecidableEq, Inhabited

namespace Binary64

def leadingBit : Nat := 0x10_0000_0000_0000

def exponent (x : Binary64) : Nat := x.bits.toNat / leadingBit % 2048

def fraction (x : Binary64) : Nat := x.bits.toNat % leadingBit

def isNegative (x : Binary64) : Bool := 0x8000_0000_0000_0000 ≤ x.bits.toNat

def isFinite (x : Binary64) : Bool := x.exponent != 2047

def zero : Binary64 := ⟨0⟩

/-- `(m, q)` with `m * 2 ^ q` the absolute value of a finite number. -/
def parts (x : Binary64) : Nat × Int :=
  if x.exponent = 0 then (x.fraction, -1074) else (x.fraction + leadingBit, x.exponent - 1075)

def infinityBits : Nat := 0x7ff0_0000_0000_0000

def neg (x : Binary64) : Binary64 := ⟨x.bits ^^^ 0x8000000000000000⟩

def roundHalfEven (num den : Nat) : Nat :=
  let q := num / den
  let r := num % den
  if 2 * r < den then q else if 2 * r = den && q % 2 = 0 then q else q + 1

def inUnits (num den : Nat) (e : Int) : Nat × Nat :=
  if e < 0 then (num * twoTo (-e).toNat, den) else (num, den * twoTo e.toNat)

def unitExponent (num den : Nat) : Int :=
  let e := max ((num.log2 : Int) - den.log2 - 53) (-1074)
  let (n, d) := inUnits num den e
  if n / d < 2 * leadingBit then e else e + 1

/-- The bits of the non-negative double nearest to `num / den`; past the largest one, infinity. -/
def magnitude (num den : Nat) : Nat :=
  if num = 0 then 0 else
    let e := unitExponent num den
    let (n, d) := inUnits num den e
    let m := roundHalfEven n d
    let bits := if m < leadingBit then m else (e + 1075).toNat * leadingBit + (m - leadingBit)
    min bits infinityBits

def ofRatio (negative : Bool) (num den : Nat) : Binary64 :=
  ⟨UInt64.ofNat (magnitude num den + if negative then 0x8000_0000_0000_0000 else 0)⟩

def ofNat (n : Nat) : Binary64 := ofRatio false n 1

def ofInt (n : Int) : Binary64 := ofRatio (n < 0) n.natAbs 1

def mul (x y : Binary64) : Binary64 :=
  let (m, p) := x.parts
  let (n, q) := y.parts
  let e := p + q
  ofRatio false (m * n * twoTo e.toNat) (twoTo (-e).toNat)

def div (x y : Binary64) : Binary64 :=
  let (m, p) := x.parts
  let (n, q) := y.parts
  let e := p - q
  ofRatio false (m * twoTo e.toNat) (n * twoTo (-e).toNat)

end Binary64

end HostMonitor
