import HostMonitor.Shell.Session

namespace HostMonitor.Shell

namespace Act

def caught (a : Act Unit) : Act (Except Stop Unit) := ExceptT.lift (ExceptT.run a)

def alone (a : Act Unit) : Act Unit := do
  let before ← get
  let r ← caught a
  let after ← get
  let status := match r with
    | .error (.exit n) => n
    | _ => after.status
  set { before with
    status := status
    clock := after.clock
    linger := after.linger
    buffers := after.buffers }
  match r with
  | .error .killed => throw .killed
  | .error .hangs => throw .hangs
  | _ => return ()

def captured (a : Act Unit) : Act (List UInt8) := do
  let s ← get
  let i := s.buffers.length
  set { s with buffers := s.buffers ++ [[]], output := some i }
  alone a
  let after ← get
  set { after with output := s.output }
  return (after.buffers[i]?).getD []

/-- An act in the background; whoever waits for the output waits for it as well. -/
def detached (a : Act Unit) : Act Unit := do
  let before ← get
  let r ← caught (alone (do
    modify fun s => { s with input := [] }
    a))
  let after ← get
  let holds := before.output == some 0 || before.errors == some 1
  set { after with
    status := 0
    clock := before.clock
    linger := if holds then max after.linger after.clock else after.linger }
  match r with
  | .error e => throw e
  | .ok () => return ()

end Act

def splitFields (s : String) : List String :=
  let isGap (c : Char) : Bool := c == ' ' || c == '\t' || c == '\n'
  (s.toList.splitBy fun a b => isGap a == isGap b).filterMap fun cs =>
    if (cs.head?.map isGap).getD true then none else some (String.ofList cs)

structure Fields : Type where
  done : List String
  open? : Option String

namespace Fields

def append (f : Fields) (s : String) : Fields := { f with open? := some (f.open?.getD "" ++ s) }

def close (f : Fields) : Fields := ⟨f.done ++ f.open?.toList, none⟩

def startsWithGap (s : String) : Bool := (s.toList.head?.map Char.isWhitespace).getD false

def endsWithGap (s : String) : Bool := (s.toList.getLast?.map Char.isWhitespace).getD false

def appendSplit (f : Fields) (s : String) : Fields :=
  let f := if startsWithGap s then f.close else f
  let f := match splitFields s with
    | [] => f
    | w :: ws => ws.foldl (fun f w => f.close.append w) (f.append w)
  if endsWithGap s then f.close else f

def toList (f : Fields) : List String := f.close.done

end Fields

def chomp (s : String) : String :=
  String.ofList (s.toList.reverse.dropWhile (· == '\n')).reverse

def redirect (r : Redirect) (target : String) : Act Unit := do
  let s ← get
  let sink : Option Nat :=
    if r.duplicates then
      match target with
      | "1" => s.output
      | "2" => s.errors
      | _ => none
    else none
  match r.descriptor with
  | 0 =>
    if r.duplicates || target == "/dev/null" then set { s with input := [] }
    else
      set ((s.complain 1 ("cannot open " ++ target ++ ": No such file")).ends 2)
      throw (.exit 2)
  | 1 => set { s with output := sink }
  | 2 => set { s with errors := sink }
  | _ => return ()

def exitCode (s : Session) (line : Nat) : List String → Session × Nat
  | [] => (s, s.status)
  | a :: _ =>
    match a.toNat? with
    | some n => (s, n % 256)
    | none => (s.complain line ("exit: Illegal number: " ++ a), 2)

def killUsage : String :=
  "kill: Usage: kill [-s sigspec | -signum | -sigspec] [pid | job]... or\nkill -l [exitstatus]"

def killTarget? : List String → Option (Nat × List String)
  | "-s" :: name :: ps => (Session.signal? name).map (·, ps)
  | a :: ps =>
    if a.startsWith "-" then (Session.signal? (a.drop 1).toString).map (·, ps)
    else some (15, a :: ps)
  | [] => none

mutual

def expand : Nat → Expansion → Act String
  | 0, _ => throw .hangs
  | n + 1, e => do
    let s ← get
    match e with
    | .parameter name => return s.parameter name
    | .arithmetic text =>
      let text := String.join (← fields n (match Token.readWord (text.length + 1) true
          (text.toList ++ ['"']) with
        | .ok (w, _) => w
        | .error _ => [.literal text true]))
      match Arithmetic.eval s.parameter text with
      | .ok k => return toString k
      | .error reason =>
        set (s.complain 1 ("arithmetic expression: " ++ reason ++ ": \"" ++ text ++ "\""))
        throw (.exit 2)
    | .output command =>
      return chomp (Text.decodeLossy (← Act.captured (runLines n (Token.ofText command))))

def fields : Nat → Word → Act (List String)
  | 0, _ => throw .hangs
  | n + 1, w => do
    let f ← w.foldlM (fun f part => match part with
      | .literal s _ => return Fields.append f s
      | .expansion e true => return Fields.append f (← expand n e)
      | .expansion e false => return Fields.appendSplit f (← expand n e)) (⟨[], none⟩ : Fields)
    return f.toList

def deliver : Nat → Nat → Act Unit
  | 0, _ => throw .hangs
  | n + 1, signal => do
    let s ← get
    match (if signal == 9 || signal == 19 then none else s.traps.lookup signal) with
    | some action =>
      runLines n (Token.ofText action)
      modify (·.ends s.status)
    | none =>
      if signal == 0 || Session.isIgnored signal then return ()
      else if Session.isHalting signal then throw .hangs
      else throw .killed

def call : Nat → Nat → String → List String → Act Unit
  | 0, _, _, _ => throw .hangs
  | n + 1, line, name, args => do
    let s ← get
    match name with
    | "exit" | "return" =>
      let (s, code) := exitCode s line args
      set s
      throw (.exit code)
    | "break" => throw .leaves
    | "continue" => throw .repeats
    | "eval" => runLines n (Token.ofText (" ".intercalate args))
    | "exec" =>
      match args with
      | [] => return ()
      | name :: args =>
        call n line name args
        throw (.exit (← get).status)
    | "kill" =>
      match killTarget? args with
      | none => set ((s.complain line killUsage).ends 2)
      | some (signal, targets) =>
        set (s.ends 0)
        for t in targets do
          if t == Session.processId then deliver n signal
          else modify fun s => (s.complain line "kill: No such process\n").ends 1
    | _ =>
      match s.known? line name args with
      | some s => set s
      | none => set ((s.complain line (name ++ ": not found")).ends 127)

def redirected : Nat → List Redirect → Act Unit → Act Unit
  | 0, _, _ => throw .hangs
  | n + 1, rs, a => do
    let before ← get
    let r ← Act.caught (do
      for r in rs do
        redirect r (String.join (← fields n r.target))
      a)
    modify fun s => { s with
      input := before.input, output := before.output, errors := before.errors }
    match r with
    | .error e => throw e
    | .ok () => return ()

def run : Nat → Command → Act Unit
  | 0, _ => throw .hangs
  | n + 1, c => do
    match c with
    | .nothing => modify (·.ends 0)
    | .simple line assignments words redirects =>
      let fs ← words.foldlM (fun fs w => return fs ++ (← fields n w)) []
      let values ← assignments.mapM fun (x, w) => return (x, String.join (← fields n w))
      match fs with
      | [] =>
        modify fun s => values.foldl (fun s (x, v) => s.set x v) (s.ends 0)
        redirected n redirects (return ())
      | ["exec"] =>
        for r in redirects do
          redirect r (String.join (← fields n r.target))
      | name :: args => redirected n redirects (call n line name args)
    | .pipe left right =>
      let bs ← Act.captured (run n left)
      Act.alone (do
        modify fun s => { s with input := bs }
        run n right)
    | .negate c =>
      run n c
      modify fun s => s.ends (Session.truth (s.status != 0))
    | .both left right =>
      run n left
      if (← get).status == 0 then run n right
    | .either left right =>
      run n left
      if (← get).status != 0 then run n right
    | .sequence left right =>
      run n left
      run n right
    | .background c => Act.detached (run n c)
    | .group c redirects => redirected n redirects (run n c)
    | .subshell c redirects => redirected n redirects (Act.alone (run n c))
    | .choice condition yes no =>
      run n condition
      if (← get).status == 0 then run n yes else run n no
    | .loop result condition body =>
      run n condition
      if ((← get).status == 0) == result then
        if ← round n body then run n (.loop result condition body)
      else modify (·.ends 0)
    | .each x words body =>
      let values ← words.foldlM (fun fs w => return fs ++ (← fields n w)) []
      each n x values body

def round : Nat → Command → Act Bool
  | 0, _ => throw .hangs
  | n + 1, body => do
    match ← Act.caught (run n body) with
    | .error .leaves => return false
    | .error .repeats => return true
    | .error e => throw e
    | .ok () => return true

def each : Nat → String → List String → Command → Act Unit
  | 0, _, _, _ => throw .hangs
  | n + 1, x, values, body => do
    match values with
    | [] => return ()
    | v :: vs =>
      modify (·.set x v)
      if ← round n body then each n x vs body

def runLines : Nat → List Token → Act Unit
  | 0, _ => throw .hangs
  | n + 1, ts => do
    match Read.nextLine? ts with
    | none => return ()
    | some (.error e) =>
      modify (·.complain e.line ("Syntax error: " ++ e.reason))
      throw (.exit 2)
    | some (.ok (c, ts)) =>
      run n c
      runLines n ts

end

inductive Ending : Type
  | exited (code : Nat)
  | killed
  | running
  deriving DecidableEq

structure Outcome : Type where
  output : List UInt8
  errors : List UInt8
  time : Nat
  ending : Ending

/-- The most steps that may be nested; what needs more is taken to run forever. -/
def depth : Nat := 2000

def atExit (code : Nat) : Act Unit := do
  let s ← get
  match s.traps.lookup 0 with
  | none => throw (.exit code)
  | some action =>
    set { s with traps := s.traps.filter fun t => t.1 != 0, status := code }
    runLines depth (Token.ofText action)
    throw (.exit code)

def program (command : String) : Act Unit := do
  match ← Act.caught (runLines depth (Token.ofText command)) with
  | .error (.exit code) => atExit code
  | .error .killed => throw .killed
  | .error .hangs => throw .hangs
  | _ => atExit (← get).status

def execute (command : String) : Outcome :=
  let (r, s) := (program command).run.run Session.start
  { output := (s.buffers[0]?).getD []
    errors := (s.buffers[1]?).getD []
    time := max s.clock s.linger
    ending := match r with
      | .error .killed => .killed
      | .error .hangs => .running
      | .error (.exit code) => .exited code
      | _ => .exited s.status }

end HostMonitor.Shell
