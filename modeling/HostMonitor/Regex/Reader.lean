import HostMonitor.Regex.Syntax

namespace HostMonitor.Regex

structure Flags : Type where
  ignoreCase : Bool := false
  multiLine : Bool := false
  dotAll : Bool := false
  unicode : Bool := true
  extended : Bool := false

def countLimit : Nat := 0x1_0000_0000

def skipIgnored (f : Flags) : Nat → List Char → List Char
  | 0, cs => cs
  | n + 1, cs =>
    if f.extended then
      match cs with
      | '#' :: rest => skipIgnored f n (rest.dropWhile (· ≠ '\n'))
      | c :: rest => if Text.isBlank c then skipIgnored f n rest else cs
      | [] => []
    else cs

def skip (f : Flags) (cs : List Char) : List Char := skipIgnored f (cs.length + 1) cs

def asciiWord : CharSet :=
  .union (.range 0x30 0x39) (.union (.range 0x41 0x5a) (.union (.range 0x61 0x7a) (.ofChar '_')))

def asciiSpace : CharSet := .union (.range 9 13) (.ofChar ' ')

def Flags.wordSet (f : Flags) : CharSet := if f.unicode then .word else asciiWord

def Flags.digitSet (f : Flags) : CharSet := if f.unicode then .digit else .range 0x30 0x39

def Flags.spaceSet (f : Flags) : CharSet := if f.unicode then .space else asciiSpace

/-- Without Unicode, a complement would hold bytes that are no text. -/
def Flags.outside? (f : Flags) (s : CharSet) : Option CharSet :=
  if f.unicode then some (.compl s) else none

def Flags.cased (f : Flags) (s : CharSet) : CharSet := if f.ignoreCase then .anyCase s else s

def asciiSet? (name : String) : Option CharSet :=
  let r := CharSet.range
  match name with
  | "alnum" => some (.union (r 0x30 0x39) (.union (r 0x41 0x5a) (r 0x61 0x7a)))
  | "alpha" => some (.union (r 0x41 0x5a) (r 0x61 0x7a))
  | "ascii" => some (r 0 0x7f)
  | "blank" => some (.union (r 9 9) (r 0x20 0x20))
  | "cntrl" => some (.union (r 0 0x1f) (r 0x7f 0x7f))
  | "digit" => some (r 0x30 0x39)
  | "graph" => some (r 0x21 0x7e)
  | "lower" => some (r 0x61 0x7a)
  | "print" => some (r 0x20 0x7e)
  | "punct" =>
    some (.union (.union (r 0x21 0x2f) (r 0x3a 0x40)) (.union (r 0x5b 0x60) (r 0x7b 0x7e)))
  | "space" => some asciiSpace
  | "upper" => some (r 0x41 0x5a)
  | "word" => some asciiWord
  | "xdigit" => some (.union (r 0x30 0x39) (.union (r 0x41 0x46) (r 0x61 0x66)))
  | _ => none

inductive Escape : Type
  | literal (c : Char)
  | set (s : CharSet)
  | look (l : Look)

def hexDigit? (c : Char) : Option Nat :=
  if c.isDigit then some (c.toNat - 48)
  else if 'a' ≤ c && c ≤ 'f' then some (c.toNat - 87)
  else if 'A' ≤ c && c ≤ 'F' then some (c.toNat - 55)
  else none

def coded? (cs : List Char) : Option Char := do
  if cs.isEmpty then none
  let code := (← cs.mapM hexDigit?).foldl (fun n d => n * 16 + d) 0
  if code < 0xd800 ∨ (0xdfff < code ∧ code < 0x110000) then return Char.ofNat code else none

def hexCode? (n : Nat) (cs : List Char) : Option (Char × List Char) :=
  match cs with
  | '\x7b' :: rest =>
    match rest.span (· ≠ '\x7d') with
    | (ds, _ :: rest) => (coded? ds).map (·, rest)
    | _ => none
  | cs => if cs.length < n then none else (coded? (cs.take n)).map (·, cs.drop n)

def isEscapable (c : Char) : Bool :=
  c.toNat < 0x80 && !c.isAlphanum && c ≠ '<' && c ≠ '>'

def boundaryKind? (f : Flags) (cs : List Char) : Option (Look × List Char) :=
  match cs with
  | '\x7b' :: rest =>
    match rest.span (· ≠ '\x7d') with
    | (name, _ :: after) =>
      match String.ofList name with
      | "start" => some (.wordStart f.wordSet, after)
      | "end" => some (.wordEnd f.wordSet, after)
      | "start-half" => some (.afterOther f.wordSet, after)
      | "end-half" => some (.beforeOther f.wordSet, after)
      | _ => none
    | _ => none
  | cs => some (.boundary f.wordSet, cs)

def escape? (f : Flags) : List Char → Option (Escape × List Char)
  | [] => none
  | c :: rest =>
    match c with
    | 'x' => (hexCode? 2 rest).map fun (c, rest) => (.literal c, rest)
    | 'u' => (hexCode? 4 rest).map fun (c, rest) => (.literal c, rest)
    | 'U' => (hexCode? 8 rest).map fun (c, rest) => (.literal c, rest)
    | 'd' => some (.set f.digitSet, rest)
    | 's' => some (.set f.spaceSet, rest)
    | 'w' => some (.set f.wordSet, rest)
    | 'D' => (f.outside? f.digitSet).map fun s => (.set s, rest)
    | 'S' => (f.outside? f.spaceSet).map fun s => (.set s, rest)
    | 'W' => (f.outside? f.wordSet).map fun s => (.set s, rest)
    | 'a' => some (.literal '\x07', rest)
    | 'f' => some (.literal '\x0c', rest)
    | 't' => some (.literal '\t', rest)
    | 'n' => some (.literal '\n', rest)
    | 'r' => some (.literal '\r', rest)
    | 'v' => some (.literal '\x0b', rest)
    | 'A' => some (.look .textStart, rest)
    | 'z' => some (.look .textEnd, rest)
    | 'b' => (boundaryKind? f rest).map fun (l, rest) => (.look l, rest)
    | 'B' => some (.look (.noBoundary f.wordSet), rest)
    | '<' => some (.look (.wordStart f.wordSet), rest)
    | '>' => some (.look (.wordEnd f.wordSet), rest)
    | c => if isEscapable c then some (.literal c, rest) else none

inductive SetOp : Type
  | inter
  | diff
  | symmetric

def SetOp.apply (f : Flags) (op : SetOp) (a b : CharSet) : CharSet :=
  let a := f.cased a
  let b := f.cased b
  match op with
  | .inter => .inter a b
  | .diff => .diff a b
  | .symmetric => .union (.diff a b) (.diff b a)

abbrev Left : Type := Option (SetOp × CharSet)

def joinLeft (f : Flags) : Left → CharSet → CharSet
  | none, s => s
  | some (op, l), s => op.apply f l s

def namedSet? (cs : List Char) : Option (CharSet × List Char) :=
  match cs with
  | '[' :: ':' :: rest =>
    let (negated, rest) :=
      match rest with
      | '^' :: rest => (true, rest)
      | rest => (false, rest)
    match rest.span (· ≠ ':') with
    | (name, ':' :: ']' :: after) =>
      (asciiSet? (String.ofList name)).map fun s => (if negated then .compl s else s, after)
    | _ => none
  | _ => none

def setItem? (f : Flags) : List Char → Option (Escape × List Char)
  | '\\' :: rest =>
    match escape? f rest with
    | some (.look _, _) => none
    | r => r
  | c :: rest => some (.literal c, rest)
  | [] => none

def setRange? (f : Flags) (cs : List Char) : Option (CharSet × List Char) := do
  let (x, rest) ← setItem? f cs
  let rest := skip f rest
  let alone : Option (CharSet × List Char) :=
    match x with
    | .literal c => some (.ofChar c, rest)
    | .set s => some (s, rest)
    | .look _ => none
  match rest with
  | [] => none
  | '-' :: after =>
    let after := skip f after
    match after with
    | ']' :: _ => alone
    | '-' :: _ => alone
    | after =>
      match x, ← setItem? f after with
      | .literal a, (.literal b, rest) =>
        if a ≤ b then return (.range a.toNat b.toNat, rest) else none
      | _, _ => none
  | _ => alone

def leadingHyphens (f : Flags) : Nat → CharSet → List Char → CharSet × List Char
  | n + 1, s, '-' :: rest => leadingHyphens f n (.union s (.ofChar '-')) (skip f rest)
  | _, s, cs => (s, cs)

mutual

def set? (f : Flags) : Nat → List Char → Option (CharSet × List Char)
  | 0, _ => none
  | n + 1, cs => do
    let cs := skip f cs
    let (negated, cs) :=
      match cs with
      | '^' :: rest => (true, skip f rest)
      | cs => (false, cs)
    let (s, rest) := leadingHyphens f n .none cs
    let (s, rest) :=
      match rest with
      | ']' :: after => if rest.length = cs.length then (CharSet.ofChar ']', after) else (s, rest)
      | rest => (s, rest)
    let (s, rest) ← setItems? f n none s rest
    let s := f.cased s
    if negated then return (← f.outside? s, rest) else return (s, rest)

def setItems? (f : Flags) : Nat → Left → CharSet → List Char → Option (CharSet × List Char)
  | 0, _, _, _ => none
  | n + 1, left, s, cs =>
    match skip f cs with
    | [] => none
    | ']' :: rest => some (joinLeft f left s, rest)
    | '&' :: '&' :: rest => setItems? f n (some (.inter, joinLeft f left s)) .none rest
    | '-' :: '-' :: rest => setItems? f n (some (.diff, joinLeft f left s)) .none rest
    | '~' :: '~' :: rest => setItems? f n (some (.symmetric, joinLeft f left s)) .none rest
    | '[' :: rest =>
      match namedSet? ('[' :: rest) with
      | some (t, rest) => setItems? f n left (.union s t) rest
      | none => do
        let (t, rest) ← set? f n rest
        setItems? f n left (.union s t) rest
    | cs => do
      let (t, rest) ← setRange? f cs
      setItems? f n left (.union s t) rest

end

def readFlags? (f : Flags) : Bool → List Char → List Char → Option (Flags × List Char)
  | negated, seen, cs =>
    match cs with
    | [] => none
    | ':' :: _ => if seen.head? = some '-' then none else some (f, cs)
    | ')' :: _ => if seen.head? = some '-' then none else some (f, cs)
    | '-' :: rest => if negated then none else readFlags? f true ('-' :: seen) rest
    | c :: rest =>
      if seen.contains c then none
      else
        let on := !negated
        let next (f : Flags) := readFlags? f negated (c :: seen) rest
        match c with
        | 'i' => next { f with ignoreCase := on }
        | 'm' => next { f with multiLine := on }
        | 's' => next { f with dotAll := on }
        | 'u' => next { f with unicode := on }
        | 'x' => next { f with extended := on }
        | 'U' => next f
        | 'R' => next f
        | _ => none

def isNameStart (c : Char) : Bool := c == '_' || (Text.isWord c && !Text.isDigit c)

def isNameChar (c : Char) : Bool := c == '_' || c == '.' || c == '[' || c == ']' || Text.isWord c

def groupName? (cs : List Char) : Option (String × List Char) :=
  match cs.span (· ≠ '>') with
  | (c :: name, _ :: rest) =>
    if isNameStart c && name.all isNameChar then some (String.ofList (c :: name), rest) else none
  | _ => none

inductive Opening : Type
  | flags (f : Flags)
  | group (f : Flags) (name : Option String)

def opening? (f : Flags) : List Char → Option (Opening × List Char)
  | '?' :: 'P' :: '<' :: rest => named rest
  | '?' :: '<' :: '=' :: _ => none
  | '?' :: '<' :: '!' :: _ => none
  | '?' :: '<' :: rest => named rest
  | '?' :: rest => do
    let (f', after) ← readFlags? f false [] rest
    match after with
    | ':' :: after => return (.group f' none, after)
    | ')' :: after => if after.length + 1 = rest.length then none else return (.flags f', after)
    | _ => none
  | cs => some (.group f none, cs)
where
  named (cs : List Char) : Option (Opening × List Char) :=
    (groupName? cs).map fun (name, rest) => (.group f (some name), rest)

def decimal? (cs : List Char) : Option (Nat × List Char) :=
  let cs := cs.dropWhile Text.isBlank
  match cs.span Char.isDigit with
  | ([], _) => none
  | (ds, rest) =>
    let n := ds.foldl (fun n d => n * 10 + (d.toNat - 48)) 0
    if n < countLimit then some (n, rest.dropWhile Text.isBlank) else none

def counts? (cs : List Char) : Option ((Nat × Option Nat) × List Char) := do
  let (least, rest) ← decimal? cs
  match rest with
  | '\x7d' :: rest => return ((least, some least), rest)
  | ',' :: rest =>
    match rest.dropWhile Text.isBlank with
    | '\x7d' :: rest => return ((least, none), rest)
    | rest =>
      let (most, rest) ← decimal? rest
      match rest with
      | '\x7d' :: rest => if least ≤ most then return ((least, some most), rest) else none
      | _ => none
  | _ => none

def skipLazy : List Char → List Char
  | '?' :: rest => rest
  | cs => cs

def Flags.dot? (f : Flags) : Option CharSet :=
  if !f.unicode then none
  else some (if f.dotAll then .compl .none else .compl (.ofChar '\n'))

structure Partial : Type where
  alternatives : Option Regex
  before : Regex
  last : Option Regex
  names : List String

namespace Partial

def start (names : List String) : Partial := ⟨none, .empty, none, names⟩

def present (p : Partial) : Regex :=
  match p.last with
  | some r => .cat p.before r
  | none => p.before

def push (p : Partial) (r : Regex) : Partial := { p with before := p.present, last := some r }

/-- A setting of flags stands where a repetition would find nothing. -/
def pause (p : Partial) : Partial := { p with before := p.present, last := none }

def whole (p : Partial) : Regex :=
  match p.alternatives with
  | some r => .alt r p.present
  | none => p.present

def turn (p : Partial) : Partial := ⟨some p.whole, .empty, none, p.names⟩

def repeat? (p : Partial) (least : Nat) (most : Option Nat) : Option Partial :=
  p.last.map fun r => { p with last := some (.loop r least most) }

end Partial

def body? : Nat → Nat → Flags → Partial → List Char → Option (Partial × List Char)
  | 0, _, _, _, _ => none
  | n + 1, depth, f, p, cs =>
    match skip f cs with
    | [] => if depth = 0 then some (p, []) else none
    | '|' :: rest => body? n depth f p.turn rest
    | ')' :: rest => if depth = 0 then none else some (p, rest)
    | '(' :: rest => do
      match ← opening? f (skip f rest) with
      | (.flags f', rest) => body? n depth f' p.pause rest
      | (.group f' name, rest) =>
        if p.names.any fun k => some k == name then none
        let (inner, rest) ← body? n (depth + 1) f' (.start (name.toList ++ p.names)) rest
        body? n depth f { p.push inner.whole with names := inner.names } rest
    | '*' :: rest => do body? n depth f (← p.repeat? 0 none) (skipLazy rest)
    | '+' :: rest => do body? n depth f (← p.repeat? 1 none) (skipLazy rest)
    | '?' :: rest => do body? n depth f (← p.repeat? 0 (some 1)) (skipLazy rest)
    | '\x7b' :: rest => do
      let ((least, most), rest) ← counts? rest
      body? n depth f (← p.repeat? least most) (skipLazy rest)
    | '[' :: rest => do
      let (s, rest) ← set? f n rest
      body? n depth f (p.push (.char s)) rest
    | '.' :: rest => do body? n depth f (p.push (.char (← f.dot?))) rest
    | '^' :: rest =>
      body? n depth f (p.push (.look (if f.multiLine then .lineStart else .textStart))) rest
    | '$' :: rest =>
      body? n depth f (p.push (.look (if f.multiLine then .lineEnd else .textEnd))) rest
    | '\\' :: rest => do
      match ← escape? f rest with
      | (.literal c, rest) => body? n depth f (p.push (.char (f.cased (.ofChar c)))) rest
      | (.set s, rest) => body? n depth f (p.push (.char (f.cased s))) rest
      | (.look l, rest) => body? n depth f (p.push (.look l)) rest
    | c :: rest => body? n depth f (p.push (.char (f.cased (.ofChar c)))) rest

def parse? (s : String) : Option Regex := do
  let cs := s.toList
  let (p, _) ← body? (2 * cs.length + 2) 0 {} (.start []) cs
  if p.whole.weight ≤ weightLimit then return p.whole else none

end HostMonitor.Regex
