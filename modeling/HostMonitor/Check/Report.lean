import HostMonitor.Check.Status
import HostMonitor.Json.Form

namespace HostMonitor.Check

structure Report : Type where
  name : String
  status : Status
  message : String
  occurredAt : Instant
  deriving DecidableEq, Inhabited

open Json

instance : Form Status where
  encode s := .string s.name
  decode?
    | .string s => Status.ofExactName? s
    | .object [(some s, .null)] => Status.ofExactName? s
    | _ => none

instance : Form Report where
  encode r := .object [("name", encode r.name), ("status", encode r.status),
    ("message", encode r.message), ("occurredAt", encodeSecond r.occurredAt)]
  decode? d := do
    let fs ← d.fields? ["name", "status", "message", "occurredAt"]
    return ⟨← fs.required "name", ← fs.required "status", ← fs.required "message",
      ← fs.get? "occurredAt" >>= decodeSecond?⟩

end HostMonitor.Check
