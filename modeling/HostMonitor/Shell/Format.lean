import HostMonitor.Shell.Arithmetic
import HostMonitor.Text.Utf8

namespace HostMonitor.Shell.Format

def octal (n : Nat) (cs : List Char) : Nat × List Char :=
  let ds := (cs.take n).takeWhile fun c => '0' ≤ c && c ≤ '7'
  (ds.foldl (fun k c => k * 8 + (c.toNat - 48)) 0, cs.drop ds.length)

def escapeByte? (c : Char) : Option UInt8 :=
  [('a', 7), ('b', 8), ('e', 27), ('f', 12), ('n', 10), ('r', 13), ('t', 9), ('v', 11),
    ('\\', 92)].lookup c

def charBytes (c : Char) : List UInt8 := Text.bytes c.toString

def unescape (zero : Bool) : Nat → List Char → List UInt8 × Bool
  | 0, _ => ([], false)
  | n + 1, cs =>
    match cs with
    | [] => ([], false)
    | '\\' :: 'c' :: _ => ([], true)
    | '\\' :: c :: rest =>
      let (bs, rest) :=
        match escapeByte? c with
        | some b => ([b], rest)
        | none =>
          if c == '0' then
            let (k, rest) := octal 3 rest
            ([k.toUInt8], rest)
          else if '0' ≤ c && c ≤ '7' && !zero then
            let (k, rest) := octal 3 (c :: rest)
            ([k.toUInt8], rest)
          else (charBytes '\\' ++ charBytes c, rest)
      let (more, ends) := unescape zero n rest
      (bs ++ more, ends)
    | c :: rest =>
      let (more, ends) := unescape zero n rest
      (charBytes c ++ more, ends)

structure Spec : Type where
  left : Bool
  zero : Bool
  plus : Bool
  blank : Bool
  width : Nat
  precision : Option Nat

def leadingNat (cs : List Char) : Option Nat × List Char :=
  let ds := cs.takeWhile Char.isDigit
  (if ds.isEmpty then none else some (ds.foldl (fun k c => k * 10 + (c.toNat - 48)) 0),
    cs.drop ds.length)

def readSpec (cs : List Char) : Spec × List Char :=
  let flags := cs.takeWhile fun c => ['-', '0', '+', ' ', '#'].contains c
  let (width, rest) := leadingNat (cs.drop flags.length)
  let (precision, rest) :=
    match rest with
    | '.' :: rest =>
      let (p, rest) := leadingNat rest
      (some (p.getD 0), rest)
    | rest => (none, rest)
  (⟨flags.contains '-', flags.contains '0', flags.contains '+', flags.contains ' ',
    width.getD 0, precision⟩, rest)

def fill (s : Spec) (bs : List UInt8) : List UInt8 :=
  let blanks := List.replicate (s.width - bs.length) 32
  if s.left then bs ++ blanks else blanks ++ bs

def number (s : Spec) (sign digits : String) : List UInt8 :=
  let digits := String.ofList (List.replicate (s.precision.getD 1 - digits.length) '0') ++ digits
  let zeros := s.width - (sign.length + digits.length)
  if s.zero && !s.left && s.precision.isNone then
    Text.bytes (sign ++ String.ofList (List.replicate zeros '0') ++ digits)
  else fill s (Text.bytes (sign ++ digits))

def signOf (s : Spec) (n : Int) : String :=
  if n < 0 then "-" else if s.plus then "+" else if s.blank then " " else ""

def argument? (arg : String) : Option Int :=
  match arg.toList with
  | [] => some 0
  | '-' :: cs => (Arithmetic.number? cs).map fun n => -n
  | '+' :: cs => Arithmetic.number? cs
  | cs => Arithmetic.number? cs

def digitsIn (base : Nat) (n : Int) : String :=
  String.ofList (Nat.toDigits base (UInt64.ofInt n).toNat)

def convert (s : Spec) (letter : Char) (arg : String) : List UInt8 :=
  let n := (argument? arg).getD 0
  match letter with
  | 'd' | 'i' => number s (signOf s n) (toString n.natAbs)
  | 'u' => number s "" (digitsIn 10 n)
  | 'o' => number s "" (digitsIn 8 n)
  | 'x' => number s "" (digitsIn 16 n)
  | 'X' => number s "" (digitsIn 16 n).toUpper
  | 'c' => fill s ((Text.bytes arg).take 1)
  | 'b' => fill s (unescape true (arg.length + 1) arg.toList).1
  | _ =>
    let bs := Text.bytes arg
    fill s (match s.precision with
      | some p => bs.take p
      | none => bs)

def isNumeric (letter : Char) : Bool := ['d', 'i', 'u', 'o', 'x', 'X'].contains letter

structure Pass : Type where
  bytes : List UInt8
  rest : List String
  bad : List String

def pass : Nat → List Char → List String → Pass
  | 0, _, args => ⟨[], args, []⟩
  | n + 1, cs, args =>
    match cs with
    | [] => ⟨[], args, []⟩
    | '%' :: '%' :: rest =>
      let p := pass n rest args
      { p with bytes := 37 :: p.bytes }
    | '%' :: rest =>
      let (spec, rest) := readSpec rest
      match rest with
      | [] => ⟨[], args, []⟩
      | letter :: rest =>
        let arg := args.head?.getD ""
        let p := pass n rest (args.drop 1)
        { p with
          bytes := convert spec letter arg ++ p.bytes
          bad := if isNumeric letter && (argument? arg).isNone then arg :: p.bad else p.bad }
    | '\\' :: c :: rest =>
      let (bs, rest) :=
        match escapeByte? c with
        | some b => ([b], rest)
        | none =>
          if '0' ≤ c && c ≤ '7' then
            let (k, rest) := octal 3 (c :: rest)
            ([k.toUInt8], rest)
          else (charBytes '\\' ++ charBytes c, rest)
      let p := pass n rest args
      { p with bytes := bs ++ p.bytes }
    | c :: rest =>
      let p := pass n rest args
      { p with bytes := charBytes c ++ p.bytes }

def print (format : String) : Nat → List String → List UInt8 × List String
  | 0, _ => ([], [])
  | n + 1, args =>
    let p := pass (format.length + 1) format.toList args
    if p.rest.isEmpty || p.rest.length = args.length then (p.bytes, p.bad)
    else
      let (bs, bad) := print format n p.rest
      (p.bytes ++ bs, p.bad ++ bad)

def isCut : List Char → Bool
  | [] => false
  | ['%'] => true
  | '%' :: '%' :: cs => isCut cs
  | _ :: cs => isCut cs

end HostMonitor.Shell.Format
