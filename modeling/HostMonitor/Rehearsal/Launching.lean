import HostMonitor.Agent.Local
import HostMonitor.Host.IdFile
import HostMonitor.Host.Registration
import HostMonitor.Launch
import HostMonitor.Rehearsal.Exchanging
import HostMonitor.Rehearsal.Running
import HostMonitor.Rehearsal.Storing

namespace HostMonitor.Rehearsal

open Agent (Caller Carrier Local)
open Files (Path Tree)

def machine : Host.Machine where
  name := some "web-01"
  kernel := ⟨some "Linux", some "6.1.0", some "Linux 12", some "12", "x86_64"⟩
  processors := [⟨"Processor", "Vendor", 2400⟩]
  usage := .ofNat 12
  memory := ⟨8000000000, 3000000000, 5000000000, 1000000000, 900000000⟩
  disks := [⟨"/dev/sda1", 500000000000, 200000000000⟩, ⟨"tmpfs", 4000000000, 4000000000⟩]
  load := ⟨.ofNat 1, .ofNat 2, .ofNat 3⟩
  networks := [⟨⟨"lo", none, ["127.0.0.1"], ["::1"]⟩, 1000, 1000⟩,
    ⟨⟨"eth0", some "02:00:00:00:00:01", ["10.0.0.1"], []⟩, 123456, 654321⟩]

structure Premises : Type where
  tree : Tree
  idPath : Path
  site : Site

def Premises.respond (p : Premises) (now : Nat) :
    (q : Host.Question) → q.Answer × Premises × Nat
  | .load => (Host.IdFile.load p.tree p.idPath, p, now)
  | .save id =>
    match Host.IdFile.save p.tree p.idPath id with
    | .ok t => (.ok (), { p with tree := t }, now)
    | .error e => (.error e.describe, p, now)
  | .call c =>
    let (reply, site) := p.site.respond c
    (reply, { p with site := site }, now)

structure Errand : Type where
  site : Site
  replies : List (Caller × Bool)

def Errand.carrier : Carrier Errand where
  call e caller c :=
    let (reply, site) := e.site.respond c
    ⟨site, e.replies ++ [(caller, reply.isOk)]⟩
  reply? e :=
    match e.replies with
    | [] => none
    | (caller, accepted) :: rest => some (caller, accepted, { e with replies := rest })

structure Launched : Type where
  code : Option Nat
  signalled : Bool
  errorLine : String
  requests : List Service.Request
  tree : Tree

def Launched.failed (reason : String) (requests : List Service.Request) (t : Tree) : Launched :=
  ⟨some Launch.failureCode, false, Launch.errorLine reason, requests, t⟩

def runLaunched (c : Config) (host : Host.Record) (now : Nat) (queue : Posting.Queue)
    (p : Premises) : Launched :=
  let around : Local Errand := .start c machine ⟨p.site, []⟩
  let scene := runAgent (Local.surroundings Errand.carrier) 0 now 1000 [(1, .terminate)]
    (around.agent now host queue) around
  let requests := scene.around.carrier.site.requests
  match scene.agent.phase with
  | .finished (.ok _) => ⟨some 0, true, "", requests, p.tree⟩
  | .finished (.error e) => { Launched.failed e.describe requests p.tree with signalled := true }
  | _ => ⟨none, true, "", requests, p.tree⟩

def home : String := "ROOT"

def idFile : Path := .ofText ("/" ++ home ++ "/id")

def furnished (path : String) (config storedId : Option String) : Tree :=
  let write (p : Path) (content : Option String) (t : Tree) : Tree :=
    match content with
    | some s => Shelf.placed t p (Text.bytes s)
    | none => t
  write idFile storedId (write (.ofText path) config (.empty [home]))

def launch (t : Tree) (args : List String) (authority : String) (treatments : List Treatment) :
    Launched :=
  let path := Launch.configPath args
  match Config.ofFile path (t.read (.ofText path)) with
  | .error e => .failed e.context [] t
  | .ok c =>
    let registrar : Host.Registrar := { storeName := c.idPath }
    let site : Site := ⟨authority, ⟨c.apiBase, c.apiKey⟩, treatments, []⟩
    let (r, p, now) := (Host.prepare registrar (c.spec machine) c.onStart []).play
      Premises.respond ⟨t, .ofText c.idPath, site⟩ 0
    match r with
    | .error e => .failed e.describe p.site.requests p.tree
    | .ok (host, _) =>
      match c.queue? with
      | some queue => runLaunched c host now queue p
      | none =>
        ⟨some Launch.panicCode, false, Posting.Queue.capacityMessage, p.site.requests, p.tree⟩

end HostMonitor.Rehearsal
