import HostMonitor.Shell.Syntax

namespace HostMonitor.Shell

inductive Symbol : Type
  | word (w : Word)
  | descriptor (n : Nat)
  | operator (s : String)
  | newline
  | finish
  | broken (reason : String)
  deriving DecidableEq

structure Token : Type where
  line : Nat
  symbol : Symbol

namespace Token

def isBlank (c : Char) : Bool := c == ' ' || c == '\t'

def isMeta (c : Char) : Bool := isBlank c || ['\n', ';', '&', '|', '(', ')', '<', '>'].contains c

def isNameStart (c : Char) : Bool := c.isAlpha || c == '_'

def isNameChar (c : Char) : Bool := c.isAlphanum || c == '_'

def unterminated : String := "Unterminated quoted string"

def addChar (c : Char) (quoted : Bool) : Word → Word
  | .literal s q :: w =>
    if q = quoted then .literal (String.ofList (c :: s.toList)) q :: w
    else .literal c.toString quoted :: .literal s q :: w
  | w => .literal c.toString quoted :: w

def splitAt? (c : Char) (cs : List Char) : Option (List Char × List Char) :=
  match cs.span (· != c) with
  | (before, _ :: behind) => some (before, behind)
  | _ => none

def untilClosed : Nat → List Char → Option (List Char × List Char)
  | _, [] => none
  | 0, ')' :: cs => some ([], cs)
  | d + 1, ')' :: cs => (untilClosed d cs).map fun (a, b) => (')' :: a, b)
  | d, '(' :: cs => (untilClosed (d + 1) cs).map fun (a, b) => ('(' :: a, b)
  | d, c :: cs => (untilClosed d cs).map fun (a, b) => (c :: a, b)

def arithmetic? (body : List Char) : Option String :=
  match body with
  | '(' :: rest =>
    match rest.reverse with
    | ')' :: inner => some (String.ofList inner.reverse)
    | _ => none
  | _ => none

def expansion? (cs : List Char) : Except String (Option (Expansion × List Char)) :=
  match cs with
  | '(' :: cs =>
    match untilClosed 0 cs with
    | none => .error "end of file unexpected (expecting \")\")"
    | some (body, rest) => .ok (some (match arithmetic? body with
      | some e => (.arithmetic e, rest)
      | none => (.output (String.ofList body), rest)))
  | '\x7b' :: cs =>
    match splitAt? '\x7d' cs with
    | none => .error "end of file unexpected (expecting \"\x7d\")"
    | some (name, rest) =>
      if name.all isNameChar && !name.isEmpty then
        .ok (some (.parameter (String.ofList name), rest))
      else .error "Bad substitution"
  | c :: rest =>
    if isNameStart c then
      let (name, rest) := cs.span isNameChar
      .ok (some (.parameter (String.ofList name), rest))
    else if c.isDigit || ['?', '$', '#', '!', '@', '*', '-'].contains c then
      .ok (some (.parameter c.toString, rest))
    else .ok none
  | [] => .ok none

def readWord : Nat → Bool → List Char → Except String (Word × List Char)
  | 0, _, cs => .ok ([], cs)
  | n + 1, inQuotes, cs =>
    match cs with
    | [] => if inQuotes then .error unterminated else .ok ([], [])
    | '"' :: rest =>
      if inQuotes then .ok ([], rest)
      else do
        let (inner, rest) ← readWord n true rest
        let (w, rest) ← readWord n false rest
        return (.literal "" true :: inner ++ w, rest)
    | '\\' :: '\n' :: rest => readWord n inQuotes rest
    | '\\' :: c :: rest => do
      let (w, rest) ← readWord n inQuotes rest
      let w := addChar c true w
      return (if inQuotes && !(['$', '`', '"', '\\'].contains c) then addChar '\\' true w else w,
        rest)
    | '`' :: rest =>
      match splitAt? '`' rest with
      | none => .error "EOF in backquote substitution"
      | some (body, rest) => do
        let (w, rest) ← readWord n inQuotes rest
        return (.expansion (.output (String.ofList body)) inQuotes :: w, rest)
    | '$' :: rest => do
      match ← expansion? rest with
      | some (e, rest) =>
        let (w, rest) ← readWord n inQuotes rest
        return (.expansion e inQuotes :: w, rest)
      | none =>
        let (w, rest) ← readWord n inQuotes rest
        return (addChar '$' inQuotes w, rest)
    | c :: rest =>
      if c == '\'' && !inQuotes then
        match splitAt? '\'' rest with
        | none => .error unterminated
        | some (body, rest) => do
          let (w, rest) ← readWord n false rest
          return (.literal (String.ofList body) true :: w, rest)
      else if isMeta c && !inQuotes then .ok ([], cs)
      else do
        let (w, rest) ← readWord n inQuotes rest
        return (addChar c inQuotes w, rest)

def operators : List String :=
  ["&&", "||", ";;", ">>", ">&", "<&", ">|", "&", ";", "|", "(", ")", "<", ">"]

def operator? (cs : List Char) : Option (String × List Char) :=
  (operators.find? fun o => o.toList.isPrefixOf cs).map fun o => (o, cs.drop o.length)

def newlines (cs : List Char) : Nat := cs.count '\n'

def wordSymbol (w : Word) (rest : List Char) : Symbol :=
  match w, rest.head? with
  | [.literal s false], some c =>
    if (c == '<' || c == '>') && s.length == 1 && s.toList.all Char.isDigit then
      .descriptor (s.toNat?.getD 0)
    else .word w
  | _, _ => .word w

def readAll : Nat → Nat → List Char → List Token
  | 0, line, _ => [⟨line, .finish⟩]
  | n + 1, line, cs =>
    match cs with
    | [] => [⟨line, .finish⟩]
    | '\n' :: rest => ⟨line, .newline⟩ :: readAll n (line + 1) rest
    | '\\' :: '\n' :: rest => readAll n (line + 1) rest
    | '#' :: rest => readAll n line (rest.dropWhile (· != '\n'))
    | c :: rest =>
      if isBlank c then readAll n line rest
      else
        match operator? cs with
        | some (o, rest) => ⟨line, .operator o⟩ :: readAll n line rest
        | none =>
          match readWord (cs.length + 1) false cs with
          | .error reason => [⟨line + newlines cs, .broken reason⟩]
          | .ok (w, rest) =>
            let later := line + newlines (cs.take (cs.length - rest.length))
            ⟨later, wordSymbol w rest⟩ :: readAll n later rest

def ofText (s : String) : List Token := readAll (s.length + 1) 1 s.toList

end Token

end HostMonitor.Shell
