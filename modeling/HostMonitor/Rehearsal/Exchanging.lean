import HostMonitor.Service.Request
import HostMonitor.Service.Response

namespace HostMonitor.Rehearsal

inductive Treatment : Type
  | hangUp
  | respond (r : Service.Response)

def isFinalStatus (status : Nat) : Bool := status == 101 || (200 ≤ status && status ≤ 999)

def exchange (authority : String) (client : Service.Client) (call : Service.Call)
    (treatment : Treatment) : Option Service.Request × call.Reply :=
  match client.request? call with
  | none => (none, call.unanswered "the request could not be built")
  | some request =>
    if request.url.scheme = .http ∧ request.url.authority = authority then
      (some request,
        match treatment with
        | .respond r =>
          if isFinalStatus r.status then call.reply r
          else call.unanswered "the response could not be read"
        | .hangUp => call.unanswered "the connection was closed")
    else (none, call.unanswered "there is no connection")

structure Site : Type where
  authority : String
  client : Service.Client
  treatments : List Treatment
  requests : List Service.Request

def Site.respond (s : Site) (c : Service.Call) : c.Reply × Site :=
  let (request, reply) := exchange s.authority s.client c (s.treatments.head?.getD .hangUp)
  match request with
  | none => (reply, s)
  | some r => (reply, { s with treatments := s.treatments.drop 1, requests := s.requests ++ [r] })

end HostMonitor.Rehearsal
