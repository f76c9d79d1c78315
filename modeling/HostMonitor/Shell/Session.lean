import HostMonitor.Number.Power
import HostMonitor.Shell.Format
import HostMonitor.Shell.Reader
import HostMonitor.Table

namespace HostMonitor.Shell

inductive Stop : Type
  | exit (code : Nat)
  | killed
  | hangs
  | leaves
  | repeats

structure Session : Type where
  bindings : List (String × String)
  status : Nat
  traps : List (Nat × String)
  clock : Nat
  linger : Nat
  input : List UInt8
  output : Option Nat
  errors : Option Nat
  buffers : List (List UInt8)

abbrev Act (α : Type) : Type := ExceptT Stop (StateM Session) α

namespace Session

def start : Session := ⟨[], 0, [], 0, 0, [], some 0, some 1, [[], []]⟩

def write (s : Session) (sink : Option Nat) (bs : List UInt8) : Session :=
  match sink with
  | none => s
  | some i => { s with buffers := s.buffers.modify i (· ++ bs) }

def print (s : Session) (text : String) : Session := s.write s.output (Text.bytes text)

def complain (s : Session) (line : Nat) (text : String) : Session :=
  s.write s.errors (Text.bytes ("sh: " ++ toString line ++ ": " ++ text ++ "\n"))

def ends (s : Session) (status : Nat) : Session := { s with status := status }

def set (s : Session) (name value : String) : Session :=
  { s with bindings := putEntry name value s.bindings }

def processId : String := "4242"

def parameter (s : Session) (name : String) : String :=
  match name with
  | "?" => toString s.status
  | "$" => processId
  | "#" => "0"
  | "0" => "sh"
  | _ => (s.bindings.lookup name).getD ""

def signals : List (String × Nat) :=
  [("EXIT", 0), ("HUP", 1), ("INT", 2), ("QUIT", 3), ("ILL", 4), ("TRAP", 5), ("ABRT", 6),
    ("BUS", 7), ("FPE", 8), ("KILL", 9), ("USR1", 10), ("SEGV", 11), ("USR2", 12), ("PIPE", 13),
    ("ALRM", 14), ("TERM", 15), ("STKFLT", 16), ("CHLD", 17), ("CONT", 18), ("STOP", 19),
    ("TSTP", 20), ("TTIN", 21), ("TTOU", 22), ("URG", 23), ("XCPU", 24), ("XFSZ", 25),
    ("VTALRM", 26), ("PROF", 27), ("WINCH", 28), ("POLL", 29), ("PWR", 30), ("SYS", 31)]

def signal? (name : String) : Option Nat :=
  let name := if name.startsWith "SIG" then (name.drop 3).toString else name
  match name.toNat? with
  | some n => if n ≤ 64 then some n else none
  | none => signals.lookup name.toUpper

def isIgnored (n : Nat) : Bool := [17, 18, 23, 28].contains n

def isHalting (n : Nat) : Bool := [19, 20, 21, 22].contains n

def setTraps (s : Session) (action : String) (names : List String) : Session :=
  match names.mapM signal? with
  | none => (s.complain 1 "trap: bad trap").ends 1
  | some ns =>
    let others := s.traps.filter fun t => !ns.contains t.1
    { s with
      status := 0
      traps := if action = "-" then others else others ++ ns.map (·, action) }

def truth (b : Bool) : Nat := if b then 0 else 1

def compare? (o : String) (a b : Int) : Option Bool :=
  [("-eq", decide (a = b)), ("-ne", decide (a ≠ b)), ("-lt", decide (a < b)),
    ("-le", decide (a ≤ b)), ("-gt", decide (b < a)), ("-ge", decide (b ≤ a))].lookup o

def test? (args : List String) : Option Bool :=
  match args with
  | [] => some false
  | [a] => some (a != "")
  | ["!", a] => some (a == "")
  | ["-n", a] => some (a != "")
  | ["-z", a] => some (a == "")
  | ["-e", a] | ["-r", a] | ["-w", a] => some (a == "/" || a == "/dev/null")
  | ["-d", a] | ["-x", a] => some (a == "/")
  | [o, _] => if ["-f", "-s", "-h", "-L", "-t"].contains o then some false else none
  | [a, "=", b] => some (a == b)
  | [a, "!=", b] => some (a != b)
  | [a, o, b] => do compare? o (← Format.argument? a) (← Format.argument? b)
  | ["!", a, o, b] => (test? [a, o, b]).map not
  | _ => none

def test (s : Session) (args : List String) : Session :=
  match test? args with
  | some b => s.ends (truth b)
  | none => (s.complain 1 "test: unexpected operator").ends 2

def echo (s : Session) (args : List String) : Session :=
  let (args, ending) : List String × List UInt8 :=
    match args with
    | "-n" :: args => (args, [])
    | args => (args, [10])
  let text := " ".intercalate args
  let (bs, cut) := Format.unescape true (text.length + 1) text.toList
  (s.write s.output (bs ++ if cut then [] else ending)).ends 0

def printf (s : Session) (line : Nat) (args : List String) : Session :=
  match args with
  | [] => (s.complain line "printf: usage: printf format [arg ...]").ends 2
  | format :: args =>
    let (bs, bad) := Format.print format (args.length + 1) args
    let s := (bad.foldl (fun s a => s.complain line ("printf: " ++ a ++ ": expected numeric value"))
      s).write s.output bs
    if Format.isCut format.toList then (s.complain line "printf: missing format character").ends 2
    else s.ends (truth bad.isEmpty)

def millis? (arg : String) : Option Nat := do
  let (whole, rest) := arg.toList.span Char.isDigit
  let (fraction, rest) :=
    match rest with
    | '.' :: rest => rest.span Char.isDigit
    | rest => ([], rest)
  let unit ← match rest with
    | [] | ['s'] => some 1000
    | ['m'] => some 60000
    | ['h'] => some 3600000
    | ['d'] => some 86400000
    | _ => none
  if whole.isEmpty && fraction.isEmpty then none
  else do
    let n ← (Format.leadingNat (whole ++ fraction)).1
    return n * unit / tenTo fraction.length

def sleepComplaint (args : List String) : String :=
  let reason :=
    match args.find? fun a => (millis? a).isNone with
    | some a => "invalid time interval ‘" ++ a ++ "’"
    | none => "missing operand"
  "sleep: " ++ reason ++ "\nTry 'sleep --help' for more information.\n"

def sleep (s : Session) (args : List String) : Session :=
  match args.mapM millis? with
  | some (n :: ns) => { s with clock := s.clock + (n :: ns).foldl (· + ·) 0, status := 0 }
  | _ => (s.write s.errors (Text.bytes (sleepComplaint args))).ends 1

def cat (s : Session) (args : List String) : Session :=
  if args.all fun a => a == "-" then { s.write s.output s.input with input := [], status := 0 }
  else if args.all fun a => a == "/dev/null" then s.ends 0
  else
    let missing := args.filter fun a => a != "-" && a != "/dev/null"
    (missing.foldl (fun s a =>
      s.write s.errors (Text.bytes ("cat: " ++ a ++ ": No such file or directory\n"))) s).ends 1

def assign (s : Session) (arg : String) : Session :=
  match arg.splitOn "=" with
  | name :: value :: more => s.set name ("=".intercalate (value :: more))
  | _ => s

def known? (s : Session) (line : Nat) (name : String) (args : List String) : Option Session :=
  match name with
  | ":" | "true" | "cd" | "set" | "wait" | "umask" => some (s.ends 0)
  | "false" => some (s.ends 1)
  | "read" => some (s.ends 1)
  | "echo" => some (s.echo args)
  | "printf" => some (s.printf line args)
  | "test" => some (s.test args)
  | "[" => some (if args.getLast? = some "]" then s.test args.dropLast
      else (s.complain line "[: missing ]").ends 2)
  | "sleep" => some (s.sleep args)
  | "cat" => some (s.cat args)
  | "export" | "readonly" => some ((args.foldl assign s).ends 0)
  | "unset" =>
    some { s with bindings := s.bindings.filter fun v => !args.contains v.1, status := 0 }
  | "trap" =>
    some (match args with
      | [] => s.ends 0
      | [n] => s.setTraps "-" [n]
      | action :: names => s.setTraps action names)
  | _ => none

end Session

end HostMonitor.Shell
