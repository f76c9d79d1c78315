import HostMonitor.Service.Call
import HostMonitor.Service.Product
import HostMonitor.Web.Url

namespace HostMonitor.Service

inductive Method : Type
  | get
  | post
  | put
  deriving DecidableEq

def Method.name : Method → String
  | .get => "GET"
  | .post => "POST"
  | .put => "PUT"

structure Request : Type where
  method : Method
  url : Web.Url
  apiKey : String
  body : Option Json.Value

def userAgent : String := productName

def Request.contentType (r : Request) : Option String := r.body.map fun _ => "application/json"

structure Client : Type where
  baseUrl : String
  apiKey : String

open Json in
def reportBody (hostId : String) (r : Check.Report) : Value := .object [
  ("source", .object [("type", .string "host"), ("hostId", .string hostId)]),
  ("name", encode r.name), ("status", encode r.status), ("message", encode r.message),
  ("occurredAt", encodeSecond r.occurredAt)]

namespace Call

def method : Call → Method
  | .findHost _ | .findHostBy _ => .get
  | .updateHost .. => .put
  | _ => .post

def path : Call → String
  | .createHost _ | .findHostBy _ => "/api/v0/hosts"
  | .findHost id | .updateHost id _ => "/api/v0/hosts/" ++ id
  | .updateHostStatus id _ => "/api/v0/hosts/" ++ id ++ "/status"
  | .postMetrics _ => "/api/v0/tsdb"
  | .reportChecks .. => "/api/v0/monitoring/checks/report"

def field? : Call → Option (String × String)
  | .findHostBy identifier => some ("customIdentifier", identifier)
  | _ => none

open Json in
def body : Call → Option Value
  | .createHost spec | .updateHost _ spec => some (encode spec)
  | .updateHostStatus _ status => some (.object [("status", .string status)])
  | .postMetrics samples => some (encode samples)
  | .reportChecks hostId reports =>
    some (.object [("reports", .array (reports.map (reportBody hostId)))])
  | .findHost _ | .findHostBy _ => none

end Call

namespace Client

def root (c : Client) : String :=
  String.ofList (c.baseUrl.toList.reverse.dropWhile (· == '/')).reverse

def isHeaderChar (c : Char) : Bool := c == '\t' || (' ' ≤ c && c != '\x7f')

def longestUrl : Nat := 65534

def url? (c : Client) (call : Call) : Option Web.Url := do
  let u ← Web.Url.parse? (c.root ++ call.path)
  let u := match call.field? with
    | some (name, value) => u.addField name value
    | none => u
  if u.render.length ≤ longestUrl then some u else none

/-- The request for a call; `none` when it has no location or the key cannot be sent. -/
def request? (c : Client) (call : Call) : Option Request := do
  let url ← c.url? call
  if c.apiKey.toList.all isHeaderChar then some ⟨call.method, url, c.apiKey, call.body⟩ else none

end Client

end HostMonitor.Service
