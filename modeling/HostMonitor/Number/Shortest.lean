import HostMonitor.Number.Binary64

namespace HostMonitor.Shortest

def interval (m : Nat) (q : Int) : Nat × Nat × Nat × Nat :=
  let below := if m = Binary64.leadingBit && q ≠ -1074 then 1 else 2
  let (up, den) := if q < 2 then (1, 4 * twoTo (-q).toNat) else (twoTo (q - 2).toNat, 1)
  let up := if 0 ≤ q && q < 2 then twoTo q.toNat else up
  ((4 * m - below) * up, 4 * m * up, (4 * m + 2) * up, den)

def holds (m : Nat) (q : Int) (n : Nat) (e : Int) : Bool :=
  let (low, _, high, den) := interval m q
  let x := n * tenTo e.toNat * den
  let s := tenTo (-e).toNat
  if m % 2 = 0 then low * s ≤ x && x ≤ high * s else low * s < x && x < high * s

def distance (m : Nat) (q : Int) (n : Nat) (e : Int) : Nat :=
  let (_, v, _, den) := interval m q
  let x := n * tenTo e.toNat * den
  let y := v * tenTo (-e).toNat
  if x < y then y - x else x - y

def neighbours (m : Nat) (q : Int) (e : Int) : Nat × Nat :=
  let (_, v, _, den) := interval m q
  let n := v * tenTo (-e).toNat / (den * tenTo e.toNat)
  (n, n + 1)

def onGrid? (m : Nat) (q : Int) (e : Int) : Option Nat :=
  let (a, b) := neighbours m q e
  match holds m q a e, holds m q b e with
  | true, true =>
    let x := distance m q a e
    let y := distance m q b e
    some (if x < y || (x = y && a % 2 = 0) then a else b)
  | true, false => some a
  | false, true => some b
  | false, false => none

/-- The coarsest grid from `10 ^ e` downwards that holds a number which reads back. -/
def search (m : Nat) (q : Int) : Nat → Int → Nat × Int
  | 0, e => (0, e)
  | fuel + 1, e =>
    match onGrid? m q e with
    | some n => if n = 0 then search m q fuel (e - 1) else (n, e)
    | none => search m q fuel (e - 1)

/-- The fewest digits, and the power of ten of the last one, for `m * 2 ^ q` above zero. -/
def digits (m : Nat) (q : Int) : Nat × Int :=
  let top : Int := (((m.log2 : Int) + q + 1) * 30103).fdiv 100000 + 1
  search m q 25 top

def positional (ds : List Char) (k : Int) : List Char :=
  if k ≤ 0 then ['0', '.'] ++ List.replicate (-k).toNat '0' ++ ds
  else if ds.length ≤ k.toNat then ds ++ List.replicate (k.toNat - ds.length) '0' ++ ['.', '0']
  else ds.take k.toNat ++ ['.'] ++ ds.drop k.toNat

def layout (n : Nat) (e : Int) : List Char :=
  let ds := (toString n).toList
  let k : Int := ds.length + e
  if -5 < k && k ≤ 16 then positional ds k
  else
    let tail := if ds.length ≤ 1 then ds else ds.take 1 ++ ['.'] ++ ds.drop 1
    tail ++ ['e'] ++ (toString (k - 1)).toList

def render (x : Binary64) : String :=
  let (m, q) := x.parts
  let body := if m = 0 then ['0', '.', '0'] else
    let (n, e) := digits m q
    layout n e
  String.ofList (if x.isNegative then '-' :: body else body)

end HostMonitor.Shortest
