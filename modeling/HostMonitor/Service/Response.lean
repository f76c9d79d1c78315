import HostMonitor.Json.Reader
import HostMonitor.Service.Call
import HostMonitor.Text.Utf8

namespace HostMonitor.Service

structure Response : Type where
  status : Nat
  body : List UInt8

namespace Response

def isBodiless (status : Nat) : Bool := status == 101 || status == 204 || status == 304

def text (r : Response) : String := if isBodiless r.status then "" else Text.decodeLossy r.body

def isSuccess (r : Response) : Bool := 200 ≤ r.status && r.status ≤ 299

def document (r : Response) : Except Error Json.Document :=
  if r.isSuccess then
    match Json.parse? r.text with
    | some d => .ok d
    | none => .error (.undecodable "the body is no JSON text")
  else .error (.ofStatus r.status r.text)

def decode {α : Type} (read? : Json.Document → Option α) (r : Response) : Except Error α :=
  match r.document with
  | .error e => .error e
  | .ok d =>
    match read? d with
    | some x => .ok x
    | none => .error (.undecodable "the body lacks an expected field")

end Response

def single? {α : Type} [Json.Form α] (name : String) (d : Json.Document) : Option α := do
  (← d.fields? [name]).required name

def anything? (d : Json.Document) : Option Unit := d.value?.map fun _ => ()

def Call.reply : (c : Call) → Response → c.Reply
  | .createHost _, r => (r.decode (single? "id") : Except Error String)
  | .findHost _, r => (r.decode (single? "host") : Except Error Host.Record)
  | .findHostBy identifier, r =>
    match r.decode (single? "hosts") with
    | .error e => .error e
    | .ok [] => .error (.notFound ("no host for custom identifier " ++ identifier))
    | .ok (host :: _) => (.ok host : Except Error Host.Record)
  | .updateHost .., r => (r.decode anything? : Except Error Unit)
  | .updateHostStatus .., r => (r.decode anything? : Except Error Unit)
  | .postMetrics _, r => (r.decode anything? : Except Error Unit)
  | .reportChecks .., r => (r.decode anything? : Except Error Unit)

def Call.unanswered (c : Call) (reason : String) : c.Reply := .error (.transport reason)

end HostMonitor.Service
