import HostMonitor.Shell.Token

namespace HostMonitor.Shell

abbrev Read (α : Type) : Type := List Token → Except SyntaxError (α × List Token)

namespace Read

def plain? : Symbol → Option String
  | .word [.literal s false] => some s
  | _ => none

def reserved : List String :=
  ["if", "then", "else", "elif", "fi", "while", "until", "do", "done", "for", "\x7b", "\x7d", "!",
    "case", "esac"]

def name (atCommand : Bool) (s : Symbol) : String :=
  match s with
  | .operator o =>
    if o.contains '<' || o.contains '>' then "redirection" else "\"" ++ o ++ "\""
  | .newline => "newline"
  | .finish => "end of file"
  | .descriptor _ => "redirection"
  | .broken reason => reason
  | .word _ =>
    match plain? s with
    | some w => if atCommand && reserved.contains w then "\"" ++ w ++ "\"" else "word"
    | none => "word"

def unexpected {α : Type} (expected : Option String) : Read α := fun ts =>
  match ts with
  | [] => .error ⟨1, "end of file unexpected"⟩
  | t :: _ =>
    match t.symbol with
    | .broken reason => .error ⟨t.line, reason⟩
    | s => .error ⟨t.line, name true s ++ " unexpected" ++
        match expected with
        | some e => " (expecting \"" ++ e ++ "\")"
        | none => ""⟩

def skipNewlines : List Token → List Token
  | ⟨_, .newline⟩ :: ts => skipNewlines ts
  | ts => ts

def keyword? (ts : List Token) : Option String :=
  (ts.head?.bind fun t => plain? t.symbol).filter reserved.contains

def expect (w : String) : Read Unit := fun ts =>
  if keyword? ts = some w then .ok ((), ts.drop 1) else unexpected (some w) ts

def closers : List String := ["then", "else", "elif", "fi", "do", "done", "\x7d", "esac"]

def atEnd (ts : List Token) : Bool :=
  match ts with
  | [] => true
  | t :: _ =>
    match t.symbol with
    | .finish => true
    | .operator ")" => true
    | .operator ";;" => true
    | _ => (keyword? ts).any closers.contains

def isRedirection (o : String) : Bool := [">", ">>", ">|", ">&", "<", "<&"].contains o

def redirect? (ts : List Token) : Option (Except SyntaxError (Redirect × List Token)) :=
  let (number, ts) :=
    match ts with
    | ⟨_, .descriptor n⟩ :: ts => (some n, ts)
    | ts => (none, ts)
  match ts with
  | ⟨_, .operator o⟩ :: ts =>
    if isRedirection o then
      let n := number.getD (if o.startsWith "<" then 0 else 1)
      match ts with
      | ⟨_, .word w⟩ :: ts => some (.ok (⟨n, o.contains '&', w⟩, ts))
      | ts => some (unexpected none ts)
    else none
  | _ => none

def redirects : Nat → Read (List Redirect)
  | 0, ts => .ok ([], ts)
  | n + 1, ts =>
    match redirect? ts with
    | none => .ok ([], ts)
    | some r => do
      let (r, ts) ← r
      let (rs, ts) ← redirects n ts
      return (r :: rs, ts)

def assignment? (w : Word) : Option (String × Word) :=
  match w with
  | .literal s false :: rest =>
    let (name, value) := s.toList.span Token.isNameChar
    match value with
    | '=' :: value =>
      if name.head?.any Token.isNameStart then
        some (String.ofList name, .literal (String.ofList value) true :: rest)
      else none
    | _ => none
  | _ => none

def simple (line : Nat) : Nat → List (String × Word) → List Word → List Redirect → Read Command
  | 0, as, ws, rs, ts => .ok (.simple line as.reverse ws.reverse rs.reverse, ts)
  | n + 1, as, ws, rs, ts =>
    match redirect? ts with
    | some r => do
      let (r, ts) ← r
      simple line n as ws (r :: rs) ts
    | none =>
      match ts with
      | ⟨_, .word w⟩ :: ts =>
        match (if ws.isEmpty then assignment? w else none) with
        | some a => simple line n (a :: as) ws rs ts
        | none => simple line n as (w :: ws) rs ts
      | ⟨_, .broken _⟩ :: _ => unexpected none ts
      | _ => .ok (.simple line as.reverse ws.reverse rs.reverse, ts)

def wordList : Nat → Read (List Word)
  | 0, ts => .ok ([], ts)
  | n + 1, ts =>
    match ts with
    | ⟨_, .word w⟩ :: ts => do
      let (ws, ts) ← wordList n ts
      return (w :: ws, ts)
    | ⟨_, .operator ";"⟩ :: ts => .ok ([], ts)
    | ⟨_, .newline⟩ :: ts => .ok ([], ts)
    | _ => unexpected none ts

def forHead : Read (String × List Word) := fun ts =>
  match ts with
  | ⟨_, .word w⟩ :: ts =>
    match w, (skipNewlines ts) with
    | [.literal s false], ⟨_, .word [.literal "in" false]⟩ :: ts => do
      let (ws, ts) ← wordList (ts.length + 1) ts
      return ((s, ws), ts)
    | _, ts => unexpected (some "in") ts
  | ts => unexpected none ts

mutual

def command : Nat → Read Command
  | 0, ts => unexpected none ts
  | n + 1, ts =>
    match keyword? ts, ts with
    | some "if", _ :: ts => ifTail n ts
    | some "while", _ :: ts => loopTail n true ts
    | some "until", _ :: ts => loopTail n false ts
    | some "for", _ :: ts => do
      let ((x, ws), ts) ← forHead ts
      let ((), ts) ← expect "do" (skipNewlines ts)
      let (body, ts) ← list n ts
      let ((), ts) ← expect "done" ts
      return (.each x ws body, ts)
    | some "\x7b", _ :: ts => do
      let (c, ts) ← list n ts
      let ((), ts) ← expect "\x7d" ts
      let (rs, ts) ← redirects ts.length ts
      return (.group c rs, ts)
    | some _, ts => unexpected none ts
    | none, ⟨_, .operator "("⟩ :: ts => do
      let (c, ts) ← list n ts
      match ts with
      | ⟨_, .operator ")"⟩ :: ts =>
        let (rs, ts) ← redirects ts.length ts
        return (.subshell c rs, ts)
      | ts => unexpected (some ")") ts
    | none, t :: ts' =>
      match t.symbol with
      | .word _ | .descriptor _ => simple t.line (t :: ts').length [] [] [] (t :: ts')
      | .operator o =>
        if isRedirection o then simple t.line (t :: ts').length [] [] [] (t :: ts')
        else unexpected none (t :: ts')
      | _ => unexpected none (t :: ts')
    | none, [] => unexpected none []

def ifTail : Nat → Read Command
  | 0, ts => unexpected none ts
  | n + 1, ts => do
    let (condition, ts) ← list n ts
    let ((), ts) ← expect "then" ts
    let (yes, ts) ← list n ts
    match keyword? ts with
    | some "elif" =>
      let (no, ts) ← ifTail n (ts.drop 1)
      return (.choice condition yes no, ts)
    | some "else" =>
      let (no, ts) ← list n (ts.drop 1)
      let ((), ts) ← expect "fi" ts
      return (.choice condition yes no, ts)
    | _ =>
      let ((), ts) ← expect "fi" ts
      return (.choice condition yes .nothing, ts)

def loopTail : Nat → Bool → Read Command
  | 0, _, ts => unexpected none ts
  | n + 1, result, ts => do
    let (condition, ts) ← list n ts
    let ((), ts) ← expect "do" ts
    let (body, ts) ← list n ts
    let ((), ts) ← expect "done" ts
    return (.loop result condition body, ts)

def pipeline : Nat → Read Command
  | 0, ts => unexpected none ts
  | n + 1, ts =>
    if keyword? ts = some "!" then do
      let (c, ts) ← pipeline n (ts.drop 1)
      return (.negate c, ts)
    else do
      let (c, ts) ← command n ts
      match ts with
      | ⟨_, .operator "|"⟩ :: ts =>
        let (d, ts) ← pipeline n (skipNewlines ts)
        return (.pipe c d, ts)
      | ts => return (c, ts)

def andOrTail : Nat → Command → Read Command
  | 0, _, ts => unexpected none ts
  | n + 1, c, ts =>
    match ts with
    | ⟨_, .operator "&&"⟩ :: ts => do
      let (d, ts) ← pipeline n (skipNewlines ts)
      andOrTail n (.both c d) ts
    | ⟨_, .operator "||"⟩ :: ts => do
      let (d, ts) ← pipeline n (skipNewlines ts)
      andOrTail n (.either c d) ts
    | ts => .ok (c, ts)

def andOr : Nat → Read Command
  | 0, ts => unexpected none ts
  | n + 1, ts => do
    let (c, ts) ← pipeline n ts
    andOrTail n c ts

def list : Nat → Read Command
  | 0, ts => unexpected none ts
  | n + 1, ts => do
    let (c, ts) ← andOr n (skipNewlines ts)
    let (c, ts, more) ← match ts with
      | ⟨_, .operator ";"⟩ :: ts => pure (c, skipNewlines ts, true)
      | ⟨_, .operator "&"⟩ :: ts => pure (.background c, skipNewlines ts, true)
      | ⟨_, .newline⟩ :: ts => pure (c, skipNewlines ts, true)
      | ts => pure (c, ts, false)
    if more && !atEnd ts then
      let (d, ts) ← list n ts
      return (.sequence c d, ts)
    else return (c, ts)

end

def line : Nat → Read Command
  | 0, ts => unexpected none ts
  | n + 1, ts => do
    let (c, ts) ← andOr (4 * ts.length + 4) ts
    match ts with
    | ⟨_, .newline⟩ :: ts => return (c, ts)
    | ⟨_, .finish⟩ :: _ => return (c, ts)
    | ⟨_, .operator o⟩ :: ts' =>
      let c := if o = "&" then .background c else c
      if o = ";" || o = "&" then
        match ts' with
        | ⟨_, .newline⟩ :: ts => return (c, ts)
        | ⟨_, .finish⟩ :: _ => return (c, ts')
        | _ =>
          let (d, ts) ← line n ts'
          return (.sequence c d, ts)
      else unexpected none ts
    | ts => unexpected none ts

def nextLine? (ts : List Token) : Option (Except SyntaxError (Command × List Token)) :=
  match skipNewlines ts with
  | [] => none
  | ⟨_, .finish⟩ :: _ => none
  | ts => some (line (ts.length + 1) ts)

end Read

end HostMonitor.Shell
