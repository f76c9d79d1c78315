import HostMonitor.Number.Power
import HostMonitor.Time.Calendar
import HostMonitor.Toml.Value

namespace HostMonitor.Toml

def isBlank (c : Char) : Bool := c == ' ' || c == '\t'

def skipBlanks (cs : List Char) : List Char := cs.dropWhile isBlank

def newline? : List Char → Option (List Char)
  | '\n' :: rest => some rest
  | '\r' :: '\n' :: rest => some rest
  | _ => none

def isPrintable (c : Char) : Bool := c == '\t' || (0x20 ≤ c.toNat && c.toNat ≠ 0x7f)

def skipComment : List Char → List Char
  | '#' :: rest => rest.dropWhile isPrintable
  | cs => cs

def hexDigit? (c : Char) : Option Nat :=
  if c.isDigit then some (c.toNat - 48)
  else if 'a' ≤ c && c ≤ 'f' then some (c.toNat - 87)
  else if 'A' ≤ c && c ≤ 'F' then some (c.toNat - 55)
  else none

def coded? (n : Nat) (cs : List Char) : Option (Char × List Char) := do
  if cs.length < n then none
  else
    let ds ← (cs.take n).mapM hexDigit?
    let code := ds.foldl (fun x d => x * 16 + d) 0
    if code < 0xd800 ∨ (0xdfff < code ∧ code < 0x110000) then return (Char.ofNat code, cs.drop n)
    else none

def escape? : List Char → Option (Char × List Char)
  | 'b' :: rest => some ('\x08', rest)
  | 't' :: rest => some ('\t', rest)
  | 'n' :: rest => some ('\n', rest)
  | 'f' :: rest => some ('\x0c', rest)
  | 'r' :: rest => some ('\r', rest)
  | '"' :: rest => some ('"', rest)
  | '\\' :: rest => some ('\\', rest)
  | 'u' :: rest => coded? 4 rest
  | 'U' :: rest => coded? 8 rest
  | _ => none

def basicText? : Nat → List Char → Option (List Char × List Char)
  | 0, _ => none
  | _ + 1, '"' :: rest => some ([], rest)
  | n + 1, '\\' :: rest => do
    let (c, rest) ← escape? rest
    let (cs, rest) ← basicText? n rest
    return (c :: cs, rest)
  | n + 1, c :: rest => do
    if isPrintable c then
      let (cs, rest) ← basicText? n rest
      return (c :: cs, rest)
    else none
  | _ + 1, [] => none

def literalText? (cs : List Char) : Option (List Char × List Char) :=
  let (text, rest) := cs.span fun c => c ≠ '\'' && isPrintable c
  match rest with
  | '\'' :: rest => some (text, rest)
  | _ => none

def closing? (quote : Char) (cs : List Char) : Option (List Char × List Char) :=
  let n := (cs.takeWhile (· = quote)).length
  if n < 3 then none
  else
    let n := min n 5
    some (List.replicate (n - 3) quote, cs.drop n)

def skipLines : Nat → List Char → List Char
  | 0, cs => cs
  | n + 1, cs =>
    let cs := skipBlanks cs
    match newline? cs with
    | some rest => skipLines n rest
    | none => cs

def longBasicText? : Nat → List Char → Option (List Char × List Char)
  | 0, _ => none
  | n + 1, cs =>
    match closing? '"' cs with
    | some r => some r
    | none =>
      match newline? cs with
      | some rest => do
        let (cs, rest) ← longBasicText? n rest
        return ('\n' :: cs, rest)
      | none =>
        match cs with
        | [] => none
        | '\\' :: rest =>
          match newline? (skipBlanks rest) with
          | some next => longBasicText? n (skipLines n next)
          | none => do
            let (c, rest) ← escape? rest
            let (cs, rest) ← longBasicText? n rest
            return (c :: cs, rest)
        | c :: rest =>
          if isPrintable c then do
            let (cs, rest) ← longBasicText? n rest
            return (c :: cs, rest)
          else none

def longLiteralText? : Nat → List Char → Option (List Char × List Char)
  | 0, _ => none
  | n + 1, cs =>
    match closing? '\'' cs with
    | some r => some r
    | none =>
      match newline? cs with
      | some rest => do
        let (cs, rest) ← longLiteralText? n rest
        return ('\n' :: cs, rest)
      | none =>
        match cs with
        | [] => none
        | c :: rest =>
          if isPrintable c then do
            let (cs, rest) ← longLiteralText? n rest
            return (c :: cs, rest)
          else none

def firstLine (cs : List Char) : List Char := (newline? cs).getD cs

def text? (cs : List Char) : Option (String × List Char) :=
  let n := cs.length + 1
  let read : Option (List Char × List Char) :=
    match cs with
    | '"' :: '"' :: '"' :: rest => longBasicText? n (firstLine rest)
    | '\'' :: '\'' :: '\'' :: rest => longLiteralText? n (firstLine rest)
    | '"' :: rest => basicText? n rest
    | '\'' :: rest => literalText? rest
    | _ => none
  read.map fun (s, rest) => (String.ofList s, rest)

def shortText? (cs : List Char) : Option (String × List Char) :=
  let read : Option (List Char × List Char) :=
    match cs with
    | '"' :: rest => basicText? (cs.length + 1) rest
    | '\'' :: rest => literalText? rest
    | _ => none
  read.map fun (s, rest) => (String.ofList s, rest)

def digits? (base : Nat) (cs : List Char) : Option (List Nat × List Char) :=
  let rec go (after : Bool) : List Char → Option (List Nat × List Char)
    | [] => if after then some ([], []) else none
    | c :: rest =>
      match (hexDigit? c).filter (· < base) with
      | some d => (go true rest).map fun (ds, rest) => (d :: ds, rest)
      | none =>
        if !after then none
        else if c = '_' then (go false rest).map fun (ds, rest) => (ds, rest)
        else some ([], c :: rest)
  go false cs

def natural (base : Nat) (ds : List Nat) : Nat := ds.foldl (fun n d => n * base + d) 0

def integer? (negative : Bool) (n : Nat) : Option Value :=
  if negative then if n ≤ 0x8000_0000_0000_0000 then some (.integer (-n)) else none
  else if n < 0x8000_0000_0000_0000 then some (.integer n) else none

def isHuge (significand : Nat) (exponent : Int) : Bool :=
  let size : Int := (toString significand).length + exponent
  if significand = 0 || size < 308 then false
  else if 310 < size then true
  else
    let limit : Nat := twoTo 1024 - twoTo 970
    if 0 ≤ exponent then limit ≤ significand * tenTo exponent.toNat
    else limit * tenTo (-exponent).toNat ≤ significand

def exponent? (cs : List Char) : Option (Int × List Char) :=
  match cs with
  | '+' :: rest => (digits? 10 rest).map fun (ds, rest) => (natural 10 ds, rest)
  | '-' :: rest => (digits? 10 rest).map fun (ds, rest) => (-natural 10 ds, rest)
  | _ => (digits? 10 cs).map fun (ds, rest) => (natural 10 ds, rest)

def isExponentMark (c : Char) : Bool := c == 'e' || c == 'E'

def decimal? (negative : Bool) (cs : List Char) : Option (Value × List Char) := do
  let (whole, rest) ← digits? 10 cs
  if whole.head? = some 0 && whole.length ≠ 1 then none
  let (fraction, rest) ←
    match rest with
    | '.' :: rest => (digits? 10 rest).map fun (ds, rest) => (some ds, rest)
    | rest => some (none, rest)
  let (exponent, rest) ←
    match rest with
    | c :: after =>
      if isExponentMark c then (exponent? after).map fun (e, rest) => (some e, rest)
      else some (none, rest)
    | [] => some (none, rest)
  match fraction, exponent with
  | none, none => return (← integer? negative (natural 10 whole), rest)
  | _, _ =>
    let ds := fraction.getD []
    if !negative && isHuge (natural 10 (whole ++ ds)) (exponent.getD 0 - ds.length) then none
    else return (.float, rest)

def dropWord? (word cs : List Char) : Option (List Char) :=
  if word.isPrefixOf cs then some (cs.drop word.length) else none

def special? (cs : List Char) : Option (Value × List Char) :=
  (dropWord? ['i', 'n', 'f'] cs <|> dropWord? ['n', 'a', 'n'] cs).map fun rest => (.float, rest)

def number? (cs : List Char) : Option (Value × List Char) :=
  match cs with
  | '0' :: 'x' :: rest => based 16 rest
  | '0' :: 'o' :: rest => based 8 rest
  | '0' :: 'b' :: rest => based 2 rest
  | '+' :: rest => special? rest <|> decimal? false rest
  | '-' :: rest => special? rest <|> decimal? true rest
  | cs => special? cs <|> decimal? false cs
where
  based (base : Nat) (cs : List Char) : Option (Value × List Char) := do
    let (ds, rest) ← digits? base cs
    return (← integer? false (natural base ds), rest)

def fixed? (n : Nat) (cs : List Char) : Option (Nat × List Char) :=
  let ds := cs.take n
  if ds.length = n && ds.all Char.isDigit then
    some (natural 10 (ds.map fun c => c.toNat - 48), cs.drop n)
  else none

def mark? (c : Char) : List Char → Option (List Char)
  | c' :: rest => if c' = c then some rest else none
  | [] => none

def date? (cs : List Char) : Option (List Char) := do
  let (y, cs) ← fixed? 4 cs
  let (m, cs) ← fixed? 2 (← mark? '-' cs)
  let (d, cs) ← fixed? 2 (← mark? '-' cs)
  if (⟨y, m, d⟩ : Calendar.Date).isValid then return cs else none

def time? (cs : List Char) : Option (List Char) := do
  let (h, cs) ← fixed? 2 cs
  let (m, cs) ← fixed? 2 (← mark? ':' cs)
  let (s, cs) ← fixed? 2 (← mark? ':' cs)
  if h < 24 ∧ m < 60 ∧ s ≤ 60 then
    match cs with
    | '.' :: rest =>
      let after := rest.dropWhile Char.isDigit
      if after.length < rest.length then return after else none
    | _ => return cs
  else none

def offset? (cs : List Char) : Option (List Char) :=
  let hours (cs : List Char) : Option (List Char) := do
    let (h, cs) ← fixed? 2 cs
    let (m, cs) ← fixed? 2 (← mark? ':' cs)
    if h < 24 ∧ m < 60 then return cs else none
  match cs with
  | 'Z' :: rest => some rest
  | 'z' :: rest => some rest
  | '+' :: rest => hours rest
  | '-' :: rest => hours rest
  | cs => some cs

def datetime? (cs : List Char) : Option (Value × List Char) := do
  match date? cs with
  | some rest =>
    let rest ←
      match rest with
      | 'T' :: after => (time? after) >>= offset?
      | 't' :: after => (time? after) >>= offset?
      | ' ' :: after =>
        match fixed? 2 after with
        | some _ => (time? after) >>= offset?
        | none => some rest
      | rest => some rest
    return (.datetime, rest)
  | none => return (.datetime, ← time? cs)

def looksLikeDate (cs : List Char) : Bool :=
  let mark (n : Nat) (c : Char) : Bool :=
    (cs.take n).length = n && (cs.take n).all Char.isDigit && (cs.drop n).head? = some c
  mark 4 '-' || mark 2 ':'

end HostMonitor.Toml
