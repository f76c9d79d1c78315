import HostMonitor.Companion
import HostMonitor.Host.IdFile
import HostMonitor.Host.Registration
import HostMonitor.Launch

namespace HostMonitor.CommandLine

open Agent (Local Scene)
open Companion (Mail Question)

def fileError : IO.Error → Files.Error
  | .noFileOrDirectory .. => .notFound
  | .alreadyExists .. => .alreadyExists
  | .inappropriateType _ 21 _ => .isDirectory
  | .inappropriateType .. => .notDirectory
  | e => .other (toString e)

def attempt {α : Type} (action : IO α) : IO (Except Files.Error α) := do
  match ← action.toBaseIO with
  | .ok x => return .ok x
  | .error e => return .error (fileError e)

def readFile (path : String) : IO (Except Files.Error (List UInt8)) := attempt do
  return (← IO.FS.readBinFile path).toList

def saveFile (path content : String) : IO (Except Files.Error Unit) := attempt do
  if let some directory := (Files.Path.ofText path).parent? then
    IO.FS.createDirAll directory.render
  IO.FS.writeFile path content

def ask (q : Question) : IO q.Answer := do
  let output ← IO.getStdout
  output.putStrLn q.line
  output.flush
  match q.answer? (← (← IO.getStdin).getLine) with
  | some a => return a
  | none => throw (IO.userError "the companion does not answer")

def call (client : Service.Client) (c : Service.Call) : IO c.Reply := do
  match client.request? c with
  | none => return c.unanswered "the request could not be built"
  | some r => return Companion.reply c (← ask (.request r))

def answer (client : Service.Client) (idPath : String) : (q : Host.Question) → IO q.Answer
  | .load => return (← readFile idPath).toOption >>= Host.IdFile.ofContent?
  | .save id => return (← saveFile idPath id).mapError Files.Error.describe
  | .call c => call client c

partial def sleep (deadline : Nat) : IO Unit := do
  let a ← ask (.wait deadline)
  if a.now.uptime < deadline then sleep deadline

def converse {α : Type} (client : Service.Client) (idPath : String) : Host.Program α → IO α
  | .done x => return x
  | .ask q next => do converse client idPath (next (← answer client idPath q))
  | .rest d next => do
    sleep ((← ask (.wait (some 0))).now.uptime + d.millis)
    converse client idPath next

def carry (client : Service.Client) (m : Mail) : IO Mail := do
  let replies ← m.outgoing.mapM fun (caller, c) =>
    return (caller, (← call client c).isOk)
  return ⟨[], m.incoming ++ replies⟩

partial def run (client : Service.Client) (w : Scene (Local Mail)) : IO Agent := do
  let s := Local.surroundings Mail.carrier
  let w := w.settle s
  if w.agent.isOver then return w.agent
  let mail := w.around.carrier
  if !mail.outgoing.isEmpty then
    run client { w with around := { w.around with carrier := ← carry client mail } }
  else
    let a ← ask (.wait (w.due? s))
    let machine ← ask .machine
    let w := { w with now := a.now, around := { w.around with machine := machine } }
    run client (if a.signalled then w.accept s .terminate else w)

def fail (reason : String) : IO UInt32 := do
  IO.eprintln (Launch.errorLine reason)
  return Launch.failureCode.toUInt32

def breakOff (message : String) : IO UInt32 := do
  IO.eprintln message
  return Launch.panicCode.toUInt32

def start (args : List String) : IO UInt32 := do
  let path := Launch.configPath args
  match Config.ofFile path (← readFile path) with
  | .error e => fail e.context
  | .ok c =>
    let client : Service.Client := ⟨c.apiBase, c.apiKey⟩
    let machine ← ask .machine
    let program := Host.prepare { storeName := c.idPath } (c.spec machine) c.onStart []
    match ← converse client c.idPath program with
    | .error e => fail e.describe
    | .ok (host, _) =>
      match c.queue? with
      | none => breakOff Posting.Queue.capacityMessage
      | some queue =>
        let now := (← ask (.wait (some 0))).now
        let around : Local Mail := .start c machine .empty
        let agent ← run client ⟨now, around.agent now.uptime host queue, around⟩
        match agent.phase with
        | .finished (.error e) => fail e.describe
        | .overflown => breakOff Metric.Batch.overflowMessage
        | _ => return 0

end HostMonitor.CommandLine

def main (args : List String) : IO UInt32 := HostMonitor.CommandLine.start args
