import HostMonitor.Json.Value

namespace HostMonitor.Json

def depthLimit : Nat := 127

def isSpace (c : Char) : Bool := c == ' ' || c == '\n' || c == '\t' || c == '\r'

def skipSpace (cs : List Char) : List Char := cs.dropWhile isSpace

def digit? (c : Char) : Option Nat := if c.isDigit then some (c.toNat - 48) else none

def takeDigits : List Char → List Nat × List Char
  | [] => ([], [])
  | c :: cs =>
    match digit? c with
    | some d => let (ds, rest) := takeDigits cs; (d :: ds, rest)
    | none => ([], c :: cs)

def ofDigits (ds : List Nat) : Nat := ds.foldl (fun n d => n * 10 + d) 0

def topExponent : Nat := 308

def powerOfTen (n : Nat) : Binary64 := .ofNat (tenTo n)

def scaleDown (x : Binary64) (n : Nat) : Binary64 :=
  if topExponent < n then
    if x = .zero then x else scaleDown (x.div (powerOfTen topExponent)) (n - topExponent)
  else x.div (powerOfTen n)
termination_by n
decreasing_by
  simp only [topExponent] at *
  omega

def scaleUp? (x : Binary64) (n : Nat) : Option Binary64 :=
  if topExponent < n then if x = .zero then some x else none
  else
    let y := x.mul (powerOfTen n)
    if y.isFinite then some y else none

def scaled? (negative : Bool) (significand : Nat) (exponent : Int) : Option Binary64 :=
  let x := Binary64.ofNat significand
  let y := if 0 ≤ exponent then scaleUp? x exponent.toNat else some (scaleDown x (-exponent).toNat)
  y.map fun y => if negative then y.neg else y

def absorb (n : Nat) : List Nat → Nat × Nat
  | [] => (n, 0)
  | d :: ds =>
    if n * 10 + d < 0x1_0000_0000_0000_0000 then absorb (n * 10 + d) ds else (n, ds.length + 1)

structure Numeral : Type where
  negative : Bool
  whole : List Nat
  fraction : Option (List Nat)
  exponent : Option (Bool × List Nat)

def Numeral.real? (n : Numeral) : Option Binary64 :=
  let (s, left) := absorb 0 n.whole
  let fraction := n.fraction.getD []
  let (s, left') := absorb s fraction
  let e : Int := left - (fraction.length - left' : Nat)
  match n.exponent with
  | none => scaled? n.negative s e
  | some (down, ds) =>
    let x := ofDigits ds
    if x < 0x8000_0000 then scaled? n.negative s (if down then e - x else e + x)
    else if s = 0 || down then some (if n.negative then Binary64.zero.neg else .zero)
    else none

def Numeral.document (n : Numeral) : Document :=
  let real : Document := ((n.real?.bind Real.of?).map .real).getD .unreadable
  match n.fraction, n.exponent with
  | none, none =>
    let x := ofDigits n.whole
    if n.negative && x = 0 then real
    else
      match Whole.ofInt? (if n.negative then -x else x) with
      | some w => .whole w
      | none => real
  | _, _ => real

def readFraction? : List Char → Option (Option (List Nat) × List Char)
  | '.' :: cs =>
    match takeDigits cs with
    | ([], _) => none
    | (ds, rest) => some (some ds, rest)
  | cs => some (none, cs)

def readExponent? (cs : List Char) : Option (Option (Bool × List Nat) × List Char) :=
  match cs with
  | c :: rest =>
    if c = 'e' || c = 'E' then
      let (down, rest) :=
        match rest with
        | '-' :: rest => (true, rest)
        | '+' :: rest => (false, rest)
        | rest => (false, rest)
      match takeDigits rest with
      | ([], _) => none
      | (ds, rest) => some (some (down, ds), rest)
    else some (none, cs)
  | [] => some (none, [])

def readNumeral? (cs : List Char) : Option (Numeral × List Char) := do
  let (negative, cs) :=
    match cs with
    | '-' :: cs => (true, cs)
    | cs => (false, cs)
  let (whole, cs) ←
    match takeDigits cs with
    | ([], _) => none
    | (0 :: _ :: _, _) => none
    | r => some r
  let (fraction, cs) ← readFraction? cs
  let (exponent, cs) ← readExponent? cs
  return (⟨negative, whole, fraction, exponent⟩, cs)

def hexDigit? (c : Char) : Option Nat :=
  if c.isDigit then some (c.toNat - 48)
  else if 'a' ≤ c && c ≤ 'f' then some (c.toNat - 87)
  else if 'A' ≤ c && c ≤ 'F' then some (c.toNat - 55)
  else none

def hexUnit? : List Char → Option (Nat × List Char)
  | a :: b :: c :: d :: rest => do
    let n := (((← hexDigit? a) * 16 + (← hexDigit? b)) * 16 + (← hexDigit? c)) * 16
    return (n + (← hexDigit? d), rest)
  | _ => none

def simpleEscape? : Char → Option Nat
  | '"' => some 0x22
  | '\\' => some 0x5c
  | '/' => some 0x2f
  | 'b' => some 0x08
  | 'f' => some 0x0c
  | 'n' => some 0x0a
  | 'r' => some 0x0d
  | 't' => some 0x09
  | _ => none

def readUnits? : List Char → Option (List Nat × List Char)
  | [] => none
  | '"' :: rest => some ([], rest)
  | '\\' :: 'u' :: a :: b :: c :: d :: rest => do
    let (n, _) ← hexUnit? [a, b, c, d]
    let (ns, rest) ← readUnits? rest
    return (n :: ns, rest)
  | '\\' :: c :: rest => do
    let n ← simpleEscape? c
    let (ns, rest) ← readUnits? rest
    return (n :: ns, rest)
  | c :: rest =>
    if c.toNat < 0x20 || c == '\\' then none
    else do
      let (ns, rest) ← readUnits? rest
      return (c.toNat :: ns, rest)

def isHighSurrogate (n : Nat) : Bool := 0xd800 ≤ n && n < 0xdc00

def isLowSurrogate (n : Nat) : Bool := 0xdc00 ≤ n && n < 0xe000

def joinUnits? : List Nat → Option (List Char)
  | [] => some []
  | m :: n :: ns =>
    if isHighSurrogate m then
      if isLowSurrogate n then
        (joinUnits? ns).map (Char.ofNat (0x10000 + (m - 0xd800) * 0x400 + (n - 0xdc00)) :: ·)
      else none
    else if isLowSurrogate m then none
    else (joinUnits? (n :: ns)).map (Char.ofNat m :: ·)
  | [m] => if isHighSurrogate m || isLowSurrogate m then none else some [Char.ofNat m]

def readText? (cs : List Char) : Option (Option String × List Char) :=
  (readUnits? cs).map fun (ns, rest) => ((joinUnits? ns).map String.ofList, rest)

def readScalar? (cs : List Char) : Option (Document × List Char) :=
  match cs with
  | '"' :: rest => (readText? rest).map fun (s, rest) => ((s.map .string).getD .unreadable, rest)
  | 'n' :: 'u' :: 'l' :: 'l' :: rest => some (.null, rest)
  | 't' :: 'r' :: 'u' :: 'e' :: rest => some (.bool true, rest)
  | 'f' :: 'a' :: 'l' :: 's' :: 'e' :: rest => some (.bool false, rest)
  | cs => (readNumeral? cs).map fun (n, rest) => (n.document, rest)

def nested (depth : Nat) (d : Document) : Document := if depth < depthLimit then d else .unreadable

mutual

def readDocument? : Nat → Nat → List Char → Option (Document × List Char)
  | 0, _, _ => none
  | fuel + 1, depth, cs =>
    match skipSpace cs with
    | '[' :: rest =>
      match skipSpace rest with
      | ']' :: rest => some (nested depth (.array []), rest)
      | rest => (readItems? fuel (depth + 1) rest).map fun (xs, rest) =>
        (nested depth (.array xs), rest)
    | '{' :: rest =>
      match skipSpace rest with
      | '}' :: rest => some (nested depth (.object []), rest)
      | rest => (readMembers? fuel (depth + 1) rest).map fun (ms, rest) =>
        (nested depth (.object ms), rest)
    | cs => readScalar? cs

def readItems? : Nat → Nat → List Char → Option (List Document × List Char)
  | 0, _, _ => none
  | fuel + 1, depth, cs => do
    let (x, rest) ← readDocument? fuel depth cs
    match skipSpace rest with
    | ',' :: rest =>
      let (xs, rest) ← readItems? fuel depth rest
      return (x :: xs, rest)
    | ']' :: rest => return ([x], rest)
    | _ => none

def readMembers? : Nat → Nat → List Char → Option (List (Option String × Document) × List Char)
  | 0, _, _ => none
  | fuel + 1, depth, cs =>
    match skipSpace cs with
    | '"' :: rest => do
      let (k, rest) ← readText? rest
      match skipSpace rest with
      | ':' :: rest =>
        let (x, rest) ← readDocument? fuel depth rest
        match skipSpace rest with
        | ',' :: rest =>
          let (ms, rest) ← readMembers? fuel depth rest
          return ((k, x) :: ms, rest)
        | '}' :: rest => return ([(k, x)], rest)
        | _ => none
      | _ => none
    | _ => none

end

def parse? (s : String) : Option Document :=
  let cs := s.toList
  match readDocument? (2 * cs.length + 2) 0 cs with
  | some (d, rest) => if (skipSpace rest).isEmpty then some d else none
  | none => none

end HostMonitor.Json
