import HostMonitor.Toml.Scalar

namespace HostMonitor.Toml

/-- How deep values may be nested, and how many parts a key may have. -/
def depthLimit : Nat := 80

def isBareKeyChar (c : Char) : Bool := c.isAlphanum || c == '_' || c == '-'

def simpleKey? (cs : List Char) : Option (String × List Char) :=
  match cs with
  | '"' :: _ => shortText? cs
  | '\'' :: _ => shortText? cs
  | cs =>
    match cs.span isBareKeyChar with
    | ([], _) => none
    | (k, rest) => some (String.ofList k, rest)

def keyParts? : Nat → List Char → Option (List String × List Char)
  | 0, _ => none
  | n + 1, cs => do
    let (k, rest) ← simpleKey? (skipBlanks cs)
    let rest := skipBlanks rest
    match rest with
    | '.' :: rest =>
      let (ks, rest) ← keyParts? n rest
      return (k :: ks, rest)
    | rest => return ([k], rest)

def key? (cs : List Char) : Option (List String × List Char) := keyParts? depthLimit cs

def skipGap : Nat → List Char → List Char
  | 0, cs => cs
  | n + 1, cs =>
    let cs := skipComment (skipBlanks cs)
    match newline? cs with
    | some rest => skipGap n rest
    | none => cs

def scalar? (cs : List Char) : Option (Value × List Char) :=
  match cs with
  | '"' :: _ => (text? cs).map fun (s, rest) => (.string s, rest)
  | '\'' :: _ => (text? cs).map fun (s, rest) => (.string s, rest)
  | 't' :: 'r' :: 'u' :: 'e' :: rest => some (.boolean true, rest)
  | 'f' :: 'a' :: 'l' :: 's' :: 'e' :: rest => some (.boolean false, rest)
  | cs => if looksLikeDate cs then datetime? cs else number? cs

mutual

def value? : Nat → Nat → List Char → Option (Value × List Char)
  | 0, _, _ => none
  | n + 1, depth, cs =>
    if depthLimit ≤ depth then none
    else
      match cs with
      | '[' :: rest =>
        match skipGap n rest with
        | ']' :: rest => some (.array [], rest)
        | rest => (items? n (depth + 1) rest).map fun (xs, rest) => (.array xs, rest)
      | '\x7b' :: rest =>
        match skipBlanks rest with
        | '\x7d' :: rest => some (.table [], rest)
        | rest => (entries? n (depth + 1) (.blank ⟨false, false⟩) rest).map fun (t, rest) =>
          (.table (entryValues t.2), rest)
      | cs => scalar? cs

def items? : Nat → Nat → List Char → Option (List Value × List Char)
  | 0, _, _ => none
  | n + 1, depth, cs => do
    let (x, rest) ← value? n depth cs
    match skipGap n rest with
    | ',' :: rest =>
      match skipGap n rest with
      | ']' :: rest => return ([x], rest)
      | rest =>
        let (xs, rest) ← items? n depth rest
        return (x :: xs, rest)
    | ']' :: rest => return ([x], rest)
    | _ => none

def entries? : Nat → Nat → Draft → List Char → Option (Draft × List Char)
  | 0, _, _, _ => none
  | n + 1, depth, t, cs => do
    let (ks, rest) ← key? cs
    match rest with
    | '=' :: rest =>
      let (v, rest) ← value? n depth (skipBlanks rest)
      let t ← addEntry? ks.dropLast (← ks.getLast?) v t
      match skipBlanks rest with
      | ',' :: rest => entries? n depth t (skipBlanks rest)
      | '\x7d' :: rest => return (t, rest)
      | _ => none
    | _ => none

end

def lineEnd? (cs : List Char) : Option (List Char) :=
  match skipComment (skipBlanks cs) with
  | [] => some []
  | cs => newline? cs

structure Progress : Type where
  root : Draft
  current : Section

def Progress.enter? (p : Progress) (path : List String) (element : Bool) : Option Progress := do
  let root ← p.current.close? p.root
  let (current, root) ← Section.open? path element root
  return ⟨root, current⟩

def header? (p : Progress) (cs : List Char) : Option (Progress × List Char) :=
  match cs with
  | '[' :: '[' :: rest => do
    let (path, rest) ← key? rest
    match rest with
    | ']' :: ']' :: rest => return (← p.enter? path true, rest)
    | _ => none
  | '[' :: rest => do
    let (path, rest) ← key? rest
    match rest with
    | ']' :: rest => return (← p.enter? path false, rest)
    | _ => none
  | _ => none

def entry? (p : Progress) (cs : List Char) : Option (Progress × List Char) := do
  let (ks, rest) ← key? cs
  match rest with
  | '=' :: rest =>
    let (v, rest) ← value? (2 * rest.length + 2) 0 (skipBlanks rest)
    let draft ← addEntry? ks.dropLast (← ks.getLast?) v p.current.draft
    return ({ p with current := { p.current with draft := draft } }, rest)
  | _ => none

def line? (p : Progress) (cs : List Char) : Option (Progress × List Char) :=
  match skipBlanks cs with
  | [] => some (p, [])
  | '#' :: rest => some (p, '#' :: rest)
  | '\n' :: rest => some (p, '\n' :: rest)
  | '\r' :: rest => some (p, '\r' :: rest)
  | '[' :: rest => header? p ('[' :: rest)
  | cs => entry? p cs

def lines? : Nat → Progress → List Char → Option Progress
  | _, p, [] => some p
  | 0, _, _ => none
  | n + 1, p, cs => do
    let (p, rest) ← line? p cs
    lines? n p (← lineEnd? rest)

def parse? (s : String) : Option (List (String × Value)) := do
  let cs :=
    match s.toList with
    | '\ufeff' :: rest => rest
    | cs => cs
  let top : Draft := .blank ⟨false, false⟩
  let p ← lines? (cs.length + 1) ⟨top, ⟨[], false, top⟩⟩ cs
  let (_, es) ← p.current.close? p.root
  return entryValues es

end HostMonitor.Toml
