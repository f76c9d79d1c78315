import HostMonitor.Service.Call

namespace HostMonitor.Rehearsal

structure Line (α : Type) : Type where
  times : Option Nat
  content : α
  delay : Nat

def nextLine? {α : Type} : List (Line α) → Option (Line α × List (Line α))
  | [] => none
  | l :: ls =>
    match l.times with
    | none => some (l, l :: ls)
    | some 0 => nextLine? ls
    | some 1 => some (l, ls)
    | some (n + 2) => some (l, { l with times := some (n + 1) } :: ls)

def nextLineOrLast? {α : Type} (ls : List (Line α)) : Option (Line α × List (Line α)) :=
  match nextLine? ls with
  | some (l, []) => some (l, [{ l with times := none }])
  | r => r

inductive Verdict : Type
  | ok
  | status (n : Nat)
  | undecodable
  deriving DecidableEq

def Verdict.ofError : Service.Error → Verdict
  | .client s _ => .status s
  | .notFound _ => .status 404
  | .server s _ => .status s
  | _ => .undecodable

abbrev Prepared (α : Type) : Type := Line (Except Service.Error (Option α))

structure Script : Type where
  createHost : List (Prepared String)
  findHost : List (Prepared Host.Record)
  findHostBy : List (Prepared Host.Record)
  updateHost : List (Prepared Unit)
  updateHostStatus : List (Prepared Unit)
  postMetrics : List (Prepared Unit)
  reportChecks : List (Prepared Unit)

structure Response (α : Type) : Type where
  reply : Except Service.Error α
  verdict : Verdict
  delay : Nat

def respondWith {α : Type} (ls : List (Prepared α)) (default : Except Service.Error α) :
    Response α × List (Prepared α) :=
  match nextLine? ls with
  | none => (⟨default, .ok, 0⟩, ls)
  | some (l, ls) =>
    match l.content with
    | .error e => (⟨.error e, .ofError e, l.delay⟩, ls)
    | .ok none => (⟨default, .ok, l.delay⟩, ls)
    | .ok (some x) => (⟨.ok x, .ok, l.delay⟩, ls)

def standIn (id : String) : Host.Record := ⟨id, "web-01", "standby", none⟩

namespace Script

def respond (s : Script) : (c : Service.Call) → Response c.Answer × Script
  | .createHost _ =>
    let (r, ls) := respondWith s.createHost (.ok "created-1")
    (r, { s with createHost := ls })
  | .findHost id =>
    let (r, ls) := respondWith s.findHost (.ok (standIn id))
    (r, { s with findHost := ls })
  | .findHostBy k =>
    let (r, ls) := respondWith s.findHostBy (.error (.notFound ("custom identifier " ++ k)))
    (r, { s with findHostBy := ls })
  | .updateHost .. =>
    let (r, ls) := respondWith s.updateHost (.ok ())
    (r, { s with updateHost := ls })
  | .updateHostStatus .. =>
    let (r, ls) := respondWith s.updateHostStatus (.ok ())
    (r, { s with updateHostStatus := ls })
  | .postMetrics _ =>
    let (r, ls) := respondWith s.postMetrics (.ok ())
    (r, { s with postMetrics := ls })
  | .reportChecks .. =>
    let (r, ls) := respondWith s.reportChecks (.ok ())
    (r, { s with reportChecks := ls })

end Script

end HostMonitor.Rehearsal
