import HostMonitor.Number.Power
import HostMonitor.Text.Blank
import HostMonitor.Time.Instant

namespace HostMonitor.Rfc3339

open Calendar

def number? (most : Nat) (cs : List Char) : Option (Nat × List Char) :=
  match (cs.take most).takeWhile Char.isDigit with
  | [] => none
  | ds => some (ds.foldl (fun n d => n * 10 + (d.toNat - 48)) 0, cs.drop ds.length)

def spaced? (most : Nat) (cs : List Char) : Option (Nat × List Char) :=
  number? most (Text.dropLeading cs)

def year? (cs : List Char) : Option (Int × List Char) :=
  match Text.dropLeading cs with
  | '-' :: rest => (number? rest.length rest).map fun (n, rest) => (-n, rest)
  | '+' :: rest => (number? rest.length rest).map fun (n, rest) => (n, rest)
  | cs => (number? 4 cs).map fun (n, rest) => (n, rest)

def mark? (c : Char) (cs : List Char) : Option (List Char) :=
  match Text.dropLeading cs with
  | c' :: rest => if c' = c then some rest else none
  | [] => none

def timeMark? : List Char → Option (List Char)
  | c :: rest => if c = 'T' || c = 't' || c = ' ' then some rest else none
  | [] => none

def fraction? : List Char → Option (Nat × List Char)
  | '.' :: cs => (number? 9 cs).map fun (n, rest) =>
    (n * tenTo (9 - (cs.length - rest.length)), rest.dropWhile Char.isDigit)
  | cs => some (0, cs)

def twoDigits? : List Char → Option (Nat × List Char)
  | a :: b :: rest =>
    if a.isDigit && b.isDigit then some ((a.toNat - 48) * 10 + (b.toNat - 48), rest) else none
  | _ => none

def isSeparator (c : Char) : Bool := c == ':' || Text.isBlank c

def hoursMinutes? (cs : List Char) : Option (Int × List Char) := do
  let (h, cs) ← twoDigits? cs
  let (m, cs) ← twoDigits? (cs.dropWhile isSeparator)
  if m < 60 ∧ h < 24 then return (h * 3600 + m * 60, cs) else none

def offset? : List Char → Option (Int × List Char)
  | 'Z' :: rest => some (0, rest)
  | 'z' :: rest => some (0, rest)
  | '+' :: rest => hoursMinutes? rest
  | '-' :: rest => (hoursMinutes? rest).map fun (s, rest) => (-s, rest)
  | '−' :: rest => (hoursMinutes? rest).map fun (s, rest) => (-s, rest)
  | a :: b :: c :: rest =>
    if [a, b, c].map Char.toUpper = ['U', 'T', 'C'] then some (0, rest) else none
  | _ => none

def timeOfDay? (h m s nanos : Nat) : Option (Nat × Nat) :=
  if h < 24 ∧ m < 60 ∧ s ≤ 60 then
    if s = 60 then some (h * 3600 + m * 60 + 59, nanos + 1_000_000_000)
    else some (h * 3600 + m * 60 + s, nanos)
  else none

def parseChars? (cs : List Char) : Option Instant := do
  let (year, cs) ← year? cs
  let cs ← mark? '-' cs
  let (month, cs) ← spaced? 2 cs
  let cs ← mark? '-' cs
  let (day, cs) ← spaced? 2 cs
  let cs ← timeMark? cs
  let (hour, cs) ← spaced? 2 cs
  let cs ← mark? ':' cs
  let (minute, cs) ← spaced? 2 cs
  let cs ← mark? ':' cs
  let (second, cs) ← spaced? 2 cs
  let (nanos, cs) ← fraction? cs
  let (east, cs) ← offset? (Text.dropLeading cs)
  let date : Date := ⟨year, month, day⟩
  let (seconds, nanos) ← timeOfDay? hour minute second nanos
  if date.isValid && cs.all Text.isBlank then
    let wall ← Instant.of? (date.toDays * 86400 + seconds) nanos
    Instant.of? (wall.seconds - east) nanos
  else none

def parse? (s : String) : Option Instant := parseChars? s.toList

def digits : Nat → Nat → List Char
  | 0, _ => []
  | n + 1, x => digits n (x / 10) ++ [Char.ofNat (48 + x % 10)]

def naturalDigits (x : Nat) : List Char := (toString x).toList

def yearDigits (y : Int) : List Char :=
  if 0 ≤ y ∧ y ≤ 9999 then digits 4 y.toNat
  else
    let ds := naturalDigits y.natAbs
    (if y < 0 then '-' else '+') :: (List.replicate (4 - ds.length) '0' ++ ds)

def fractionDigits (nanos : Nat) : List Char :=
  if nanos = 0 then []
  else if nanos % 1_000_000 = 0 then '.' :: digits 3 (nanos / 1_000_000)
  else if nanos % 1000 = 0 then '.' :: digits 6 (nanos / 1000)
  else '.' :: digits 9 nanos

def renderChars (t : Instant) : List Char :=
  let date := Date.ofDays (t.seconds / 86400)
  let rest := (t.seconds % 86400).toNat
  let second := rest % 60 + t.nanos / 1_000_000_000
  yearDigits date.year ++ '-' :: digits 2 date.month ++ '-' :: digits 2 date.day ++
    'T' :: digits 2 (rest / 3600) ++ ':' :: digits 2 (rest / 60 % 60) ++ ':' :: digits 2 second ++
    fractionDigits (t.nanos % 1_000_000_000) ++ ['Z']

def render (t : Instant) : String := String.ofList (renderChars t)

end HostMonitor.Rfc3339
