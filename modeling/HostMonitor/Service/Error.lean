namespace HostMonitor.Service

inductive Error : Type
  | client (status : Nat) (message : String)
  | notFound (message : String)
  | server (status : Nat) (message : String)
  | transport (reason : String)
  | undecodable (reason : String)
  deriving DecidableEq, Inhabited

namespace Error

def ofStatus (status : Nat) (message : String) : Error :=
  if status = 404 then .notFound message
  else if 400 ≤ status ∧ status ≤ 499 then .client status message
  else .server status message

def isClient : Error → Bool
  | .client .. | .notFound _ => true
  | _ => false

def isNotFound : Error → Bool
  | .notFound _ => true
  | _ => false

def isTransient (e : Error) : Bool := !e.isClient

def describe : Error → String
  | .client status message =>
    "API client error: status=" ++ toString status ++ ", message=" ++ message
  | .notFound message => "API: not found: " ++ message
  | .server status message =>
    "API server error: status=" ++ toString status ++ ", message=" ++ message
  | .transport reason => "API transport error: " ++ reason
  | .undecodable reason => "API JSON error: " ++ reason

theorem isClient_ofStatus (status : Nat) (message : String) :
    (ofStatus status message).isClient = true ↔ 400 ≤ status ∧ status ≤ 499 := by
  unfold ofStatus
  split
  · next h => simp [isClient, h]
  · split
    · next h => simpa [isClient] using h
    · next h => simpa [isClient] using h

end Error

end HostMonitor.Service
