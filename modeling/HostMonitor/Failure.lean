namespace HostMonitor

inductive Failure : Type
  | config (reason : String)
  | registration (reason : String)
  | idStorage (reason : String)
  | forcedTermination
  deriving DecidableEq, Inhabited

namespace Failure

def describe : Failure → String
  | .config reason => "Agent: invalid configuration: " ++ reason
  | .registration reason => "Agent: host registration failed: " ++ reason
  | .idStorage reason => "Agent: host id storage error: " ++ reason
  | .forcedTermination =>
    "Agent: received terminate instruction again while draining, forcing exit"

def isForcedTermination : Failure → Bool
  | .forcedTermination => true
  | _ => false

end Failure

end HostMonitor
