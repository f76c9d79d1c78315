import HostMonitor.Host.Record
import HostMonitor.Service.Product

namespace HostMonitor.Host

structure Processor : Type where
  model : String
  vendor : String
  megahertz : Nat

structure Kernel : Type where
  name : Option String
  release : Option String
  os : Option String
  version : Option String
  machine : String

structure Memory : Type where
  total : Nat
  used : Nat
  available : Nat
  swapTotal : Nat
  swapFree : Nat

structure Disk : Type where
  device : String
  size : Nat
  available : Nat

structure Load : Type where
  one : Binary64
  five : Binary64
  fifteen : Binary64

structure Network : Type where
  interface : Interface
  received : Nat
  transmitted : Nat

structure Machine : Type where
  name : Option String
  kernel : Kernel
  processors : List Processor
  usage : Binary64
  memory : Memory
  disks : List Disk
  load : Load
  networks : List Network

namespace Machine

open Json (Value encode)

def natural (n : Nat) : Value := ((Json.Whole.ofInt? n).map .whole).getD .null

def describeProcessor (p : Processor) : Value := .object [
  ("model_name", .string p.model), ("vendor_id", .string p.vendor), ("mhz", natural p.megahertz)]

def describeKernel (k : Kernel) : Value := .object [
  ("name", encode k.name), ("release", encode k.release), ("os", encode k.os),
  ("version", encode k.version), ("machine", .string k.machine)]

def detail (m : Machine) : Value := .object [
  ("agent-name", .string Service.productName), ("agent-version", .string Service.productVersion),
  ("kernel", describeKernel m.kernel), ("cpu", .array (m.processors.map describeProcessor)),
  ("memory", .object [("total", natural m.memory.total)])]

def isLoopback (name : String) : Bool := name == "lo"

def interfaces (m : Machine) : List Interface :=
  ((m.networks.map Network.interface).filter fun i => !isLoopback i.name).mergeSort
    fun a b => nameLE a.name b.name

def spec (m : Machine) (roles : List String) (displayName : Option String)
    (checks : List String) : Except (List String) Spec :=
  match m.name with
  | none => .error ["failed to obtain hostname"]
  | some name => .ok ⟨name, m.detail, m.interfaces, roles, checks, displayName, none⟩

end Machine

end HostMonitor.Host
