import HostMonitor.Number.Power

namespace HostMonitor.Shell.Arithmetic

inductive Symbol : Type
  | number (n : Int)
  | name (s : String)
  | operator (s : String)
  deriving DecidableEq

def ranks : List (String × Nat) :=
  [("||", 1), ("&&", 2), ("==", 6), ("!=", 6), ("<=", 7), (">=", 7), ("<<", 8), (">>", 8), ("|", 3),
    ("^", 4), ("&", 5), ("<", 7), (">", 7), ("+", 9), ("-", 9), ("*", 10), ("/", 10), ("%", 10)]

def operators : List String := ranks.map Prod.fst ++ ["!", "~", "(", ")"]

def digit (c : Char) : Nat :=
  if c.isDigit then c.toNat - 48 else if c.isUpper then c.toNat - 55 else c.toNat - 87

def ofDigits (base : Nat) (cs : List Char) : Option Int :=
  if cs.all fun c => c.isAlphanum && digit c < base then
    some (cs.foldl (fun n c => n * base + digit c) 0 : Nat)
  else none

def number? : List Char → Option Int
  | '0' :: 'x' :: cs => if cs.isEmpty then none else ofDigits 16 cs
  | '0' :: cs => ofDigits 8 cs
  | cs => if cs.isEmpty then none else ofDigits 10 cs

def isWordChar (c : Char) : Bool := c.isAlphanum || c == '_'

def scan : Nat → List Char → Option (List Symbol)
  | 0, _ => some []
  | n + 1, cs =>
    match cs with
    | [] => some []
    | c :: rest =>
      if c == ' ' || c == '\t' || c == '\n' then scan n rest
      else if isWordChar c then do
        let (word, rest) := cs.span isWordChar
        let first ← if c.isDigit then (number? word).map .number
          else some (.name (String.ofList word))
        return first :: (← scan n rest)
      else do
        let o ← operators.find? fun o => o.toList.isPrefixOf cs
        return .operator o :: (← scan n (cs.drop o.length))

def ofBool (b : Bool) : Int := if b then 1 else 0

def divisionByZero : String := "division by zero"

def wrap (n : Int) : Int := (Int64.ofInt n).toInt

def bits (f : Nat → Nat → Nat) (a b : Int) : Int :=
  wrap (f (UInt64.ofInt a).toNat (UInt64.ofInt b).toNat)

def apply (o : String) (a b : Int) : Except String Int :=
  match o with
  | "||" => .ok (ofBool (a != 0 || b != 0))
  | "&&" => .ok (ofBool (a != 0 && b != 0))
  | "==" => .ok (ofBool (a == b))
  | "!=" => .ok (ofBool (a != b))
  | "<=" => .ok (ofBool (a ≤ b))
  | ">=" => .ok (ofBool (b ≤ a))
  | "<" => .ok (ofBool (a < b))
  | ">" => .ok (ofBool (b < a))
  | "<<" => .ok (wrap (a * twoTo (b.toNat % 64)))
  | ">>" => .ok (a >>> (b.toNat % 64))
  | "|" => .ok (bits (· ||| ·) a b)
  | "^" => .ok (bits (· ^^^ ·) a b)
  | "&" => .ok (bits (· &&& ·) a b)
  | "+" => .ok (wrap (a + b))
  | "-" => .ok (wrap (a - b))
  | "*" => .ok (wrap (a * b))
  | "/" => if b = 0 then .error divisionByZero else .ok (wrap (a.tdiv b))
  | _ => if b = 0 then .error divisionByZero else .ok (a.tmod b)

variable (value : String → String)

mutual

def primary : Nat → List Symbol → Except String (Int × List Symbol)
  | 0, _ => .error "expecting primary"
  | n + 1, ss =>
    match ss with
    | .number k :: ss => .ok (k, ss)
    | .name x :: ss =>
      match (value x).toList with
      | [] => .ok (0, ss)
      | '-' :: cs => .ok (-(number? cs).getD 0, ss)
      | cs => .ok ((number? cs).getD 0, ss)
    | .operator "(" :: ss => do
      let (k, ss) ← binary n 0 ss
      match ss with
      | .operator ")" :: ss => return (k, ss)
      | _ => throw "expecting ')'"
    | .operator "-" :: ss => do
      let (k, ss) ← primary n ss
      return (wrap (-k), ss)
    | .operator "+" :: ss => primary n ss
    | .operator "!" :: ss => do
      let (k, ss) ← primary n ss
      return (ofBool (k == 0), ss)
    | .operator "~" :: ss => do
      let (k, ss) ← primary n ss
      return (-k - 1, ss)
    | _ => .error "expecting primary"

def binary : Nat → Nat → List Symbol → Except String (Int × List Symbol)
  | 0, _, _ => .error "expecting primary"
  | n + 1, rank, ss => do
    let (a, ss) ← primary n ss
    extend n rank a ss

def extend : Nat → Nat → Int → List Symbol → Except String (Int × List Symbol)
  | 0, _, _, _ => .error "expecting primary"
  | n + 1, rank, a, ss =>
    match ss with
    | .operator o :: ss' =>
      match ranks.lookup o with
      | none => .ok (a, ss)
      | some r =>
        if r < rank then .ok (a, ss)
        else do
          let (b, ss) ← binary n (r + 1) ss'
          extend n rank (← apply o a b) ss
    | ss => .ok (a, ss)

end

def eval (s : String) : Except String Int :=
  match scan (s.length + 1) s.toList with
  | none => .error "expecting primary"
  | some [] => .ok 0
  | some ss => do
    match ← binary value (4 * ss.length + 4) 0 ss with
    | (k, []) => return k
    | _ => throw "expecting EOF"

end HostMonitor.Shell.Arithmetic
