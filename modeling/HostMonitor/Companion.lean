import HostMonitor.Agent.Local
import HostMonitor.Json.Writer
import HostMonitor.Service.Request
import HostMonitor.Service.Response

namespace HostMonitor.Companion

open Json (Document Fields Form Value encode decode?)

structure Awakening : Type where
  now : Moment
  signalled : Bool

inductive Question : Type
  | machine
  | request (r : Service.Request)
  | wait (deadline : Option Nat)

def Question.Answer : Question → Type
  | .machine => Host.Machine
  | .request _ => Option Service.Response
  | .wait _ => Awakening

def asked (what : String) (fields : List (String × Value)) : Value :=
  .object (("ask", .string what) :: fields)

def Question.toValue : Question → Value
  | .machine => asked "machine" []
  | .request r => asked "request" [("method", .string r.method.name),
      ("url", .string r.url.render), ("apiKey", .string r.apiKey),
      ("userAgent", .string Service.userAgent), ("contentType", encode r.contentType),
      ("body", encode r.body)]
  | .wait deadline => asked "wait" [("deadline", .ofOption Host.Machine.natural deadline)]

def Question.line (q : Question) : String := q.toValue.render

def natural? : Document → Option Nat
  | .whole n => if 0 ≤ n.value then some n.value.toNat else none
  | _ => none

def all? {α : Type} (read? : Document → Option α) : Document → Option (List α)
  | .array ds => ds.mapM read?
  | _ => none

def part? {α : Type} (fs : Fields) (name : String) (read? : Document → Option α) : Option α :=
  fs.get? name >>= read?

def processor? (d : Document) : Option Host.Processor := do
  let fs ← d.fields? ["model", "vendor", "megahertz"]
  return ⟨← fs.required "model", ← fs.required "vendor", ← part? fs "megahertz" natural?⟩

def kernel? (d : Document) : Option Host.Kernel := do
  let fs ← d.fields? ["name", "release", "os", "version", "machine"]
  return ⟨← fs.optional "name", ← fs.optional "release", ← fs.optional "os",
    ← fs.optional "version", ← fs.required "machine"⟩

def memory? (d : Document) : Option Host.Memory := do
  let fs ← d.fields? ["total", "used", "available", "swapTotal", "swapFree"]
  return ⟨← part? fs "total" natural?, ← part? fs "used" natural?, ← part? fs "available" natural?,
    ← part? fs "swapTotal" natural?, ← part? fs "swapFree" natural?⟩

def disk? (d : Document) : Option Host.Disk := do
  let fs ← d.fields? ["device", "size", "available"]
  return ⟨← fs.required "device", ← part? fs "size" natural?, ← part? fs "available" natural?⟩

def load? (d : Document) : Option Host.Load := do
  let fs ← d.fields? ["one", "five", "fifteen"]
  return ⟨← fs.required "one", ← fs.required "five", ← fs.required "fifteen"⟩

def network? (d : Document) : Option Host.Network := do
  let fs ← d.fields? ["interface", "received", "transmitted"]
  return ⟨← fs.required "interface", ← part? fs "received" natural?,
    ← part? fs "transmitted" natural?⟩

def machine? (d : Document) : Option Host.Machine := do
  let fs ← d.fields?
    ["name", "kernel", "processors", "usage", "memory", "disks", "load", "networks"]
  return ⟨← fs.optional "name", ← part? fs "kernel" kernel?,
    ← part? fs "processors" (all? processor?), ← fs.required "usage", ← part? fs "memory" memory?,
    ← part? fs "disks" (all? disk?), ← part? fs "load" load?, ← part? fs "networks" (all? network?)⟩

def response? : Document → Option (Option Service.Response)
  | .null => some none
  | d => do
    let fs ← d.fields? ["status", "body"]
    return some ⟨← part? fs "status" natural?, Text.bytes (← fs.required "body")⟩

def truth? : Document → Option Bool
  | .bool b => some b
  | _ => none

def awakening? (d : Document) : Option Awakening := do
  let fs ← d.fields? ["uptime", "date", "signal"]
  let wall ← Instant.ofMillis? (← part? fs "date" natural?)
  return ⟨⟨← part? fs "uptime" natural?, wall⟩, ← part? fs "signal" truth?⟩

def Question.read? : (q : Question) → Document → Option q.Answer
  | .machine => machine?
  | .request _ => response?
  | .wait _ => awakening?

def Question.answer? (q : Question) (line : String) : Option q.Answer :=
  Json.parse? line >>= q.read?

def reply (c : Service.Call) : Option Service.Response → c.Reply
  | some r => c.reply r
  | none => c.unanswered "there was no response"

structure Mail : Type where
  outgoing : List (Agent.Caller × Service.Call)
  incoming : List (Agent.Caller × Bool)

namespace Mail

def empty : Mail := ⟨[], []⟩

def carrier : Agent.Carrier Mail where
  call m caller c := { m with outgoing := m.outgoing ++ [(caller, c)] }
  reply? m :=
    match m.incoming with
    | [] => none
    | (caller, accepted) :: rest => some (caller, accepted, { m with incoming := rest })

end Mail

end HostMonitor.Companion
