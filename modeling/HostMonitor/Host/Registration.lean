import HostMonitor.Failure
import HostMonitor.Service.Call
import HostMonitor.Service.Retry

namespace HostMonitor.Host

inductive Question : Type
  | load
  | save (id : String)
  | call (c : Service.Call)

def Question.Answer : Question → Type
  | .load => Option String
  | .save _ => Except String Unit
  | .call c => c.Reply

abbrev Program (α : Type) : Type := Dialogue Question Question.Answer α

abbrev Attempt (α : Type) : Type := Program (Except Failure α)

def call (c : Service.Call) : Program c.Reply := .ask (.call c) .done

namespace Attempt

variable {α β : Type}

def bind (d : Attempt α) (f : α → Attempt β) : Attempt β :=
  Dialogue.bind d fun
    | .ok x => f x
    | .error e => .done (.error e)

def ofReply (explain : String → String) (d : Program (Except Service.Error α)) : Attempt α :=
  Dialogue.bind d fun
    | .ok x => .done (.ok x)
    | .error e => .done (.error (.registration (explain e.describe)))

end Attempt

structure Registrar : Type where
  retry : Service.Retry := .standard
  lookupRetry : Service.Retry := .lookup
  storeName : String

namespace Registrar

def unknownHost (r : Registrar) (e : String) : String :=
  "failed to find this host on the service: " ++ e ++ " (remove " ++ r.storeName ++
    " to register it again)"

def notRegistered (e : String) : String := "failed to register this host: " ++ e

def notFound (e : String) : String := "failed to find the registered host: " ++ e

def statusNotSet (status e : String) : String :=
  "failed to set host status to " ++ status ++ ": " ++ e

def find (r : Registrar) (explain : String → String) (id : String) : Attempt Record :=
  Attempt.ofReply explain (r.retry.run (call (.findHost id)))

/-- The host with the custom identifier of `spec`. Any failure leaves it to be created. -/
def lookUp (r : Registrar) (spec : Spec) : Program (Option Record) :=
  match spec.customIdentifier with
  | none => .done none
  | some identifier =>
    (r.lookupRetry.run (call (.findHostBy identifier))).bind fun reply => .done reply.toOption

def newId (r : Registrar) (spec : Spec) : Attempt String :=
  (r.lookUp spec).bind fun
    | some host => .done (.ok host.id)
    | none => Attempt.ofReply notRegistered (r.retry.run (call (.createHost spec)))

def resolve (r : Registrar) (spec : Spec) : Option String → Attempt Record
  | some id => r.find r.unknownHost id
  | none => Attempt.bind (r.newId spec) (r.find notFound)

def applyStatus (r : Registrar) (onStart : Option String) (host : Record) : Attempt Record :=
  match onStart with
  | none => .done (.ok host)
  | some status =>
    if status = host.status then .done (.ok host)
    else
      Attempt.bind (Attempt.ofReply (statusNotSet status)
        (r.retry.run (call (.updateHostStatus host.id status))))
        fun _ => .done (.ok { host with status := status })

def store (host : Record) : Attempt Record :=
  .ask (.save host.id) fun
    | .ok () => .done (.ok host)
    | .error reason => .done (.error (.idStorage reason))

def prepare (r : Registrar) (spec : Spec) (onStart : Option String) : Attempt Record :=
  .ask .load fun stored =>
    Attempt.bind (Attempt.bind (r.resolve spec stored) (r.applyStatus onStart)) store

end Registrar

def distinct (ks : List String) : List String := (ks.mergeSort nameLE).eraseDups

def resolveEach : List String → Program (List (String × Record))
  | [] => .done []
  | k :: ks => (call (.findHostBy k)).bind fun reply =>
    (resolveEach ks).bind fun found =>
      .done (match reply with
        | .ok host => (k, host) :: found
        | .error _ => found)

def resolveCustom (identifiers : List String) : Program (Table Record) :=
  (resolveEach (distinct identifiers)).bind fun found => .done (Table.ofList found)

/-- The host of an agent and the hosts of its custom identifiers, with what was collected about the
machine, or the causes why nothing was. -/
def prepare (r : Registrar) (collected : Except (List String) Spec) (onStart : Option String)
    (identifiers : List String) : Attempt (Record × Table Record) :=
  match collected with
  | .error causes =>
    .done (.error (.registration ("failed to collect host specs: " ++ ": ".intercalate causes)))
  | .ok spec => Attempt.bind (r.prepare spec onStart) fun host =>
    (resolveCustom identifiers).bind fun hosts => .done (.ok (host, hosts))

end HostMonitor.Host
