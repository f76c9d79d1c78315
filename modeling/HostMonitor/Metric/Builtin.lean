import HostMonitor.Host.Machine
import HostMonitor.Metric.Delta
import HostMonitor.Metric.Key

namespace HostMonitor.Metric

open Host (Machine)

inductive Builtin : Type
  | cpu
  | memory
  | filesystem (ignored : String → Bool)
  | load
  | interface (received transmitted : Counters)

namespace Builtin

def all (ignored : String → Bool) : List Builtin :=
  [.cpu, .memory, .filesystem ignored, .load, .interface ∅ ∅]

def name : Builtin → String
  | .cpu => "cpu"
  | .memory => "memory"
  | .filesystem _ => "filesystem"
  | .load => "loadavg"
  | .interface .. => "interface"

def ofDisk (ignored : String → Bool) (d : Host.Disk) : List (String × Binary64) :=
  match deviceKey? ignored d.device with
  | none => []
  | some key => [("filesystem." ++ key ++ ".size", .ofNat d.size),
      ("filesystem." ++ key ++ ".used", .ofNat (d.size - d.available))]

def ofNetworks (received transmitted : Counters) :
    List Host.Network → List (String × Binary64) × Counters × Counters
  | [] => ([], received, transmitted)
  | n :: ns =>
    let name := n.interface.name
    if Machine.isLoopback name then ofNetworks received transmitted ns
    else
      let (rx, received) := received.advance name n.received
      let (tx, transmitted) := transmitted.advance name n.transmitted
      let (rest, counters) := ofNetworks received transmitted ns
      (("interface." ++ key name ++ ".rxBytes.delta", .ofNat rx) ::
        ("interface." ++ key name ++ ".txBytes.delta", .ofNat tx) :: rest, counters)

def collect (m : Machine) : Builtin → Table Binary64 × Builtin
  | .cpu => (.ofList [("cpu.usage.percentage", m.usage)], .cpu)
  | .memory =>
    let r := m.memory
    (.ofList [("memory.total", .ofNat r.total), ("memory.used", .ofNat r.used),
      ("memory.available", .ofNat r.available), ("memory.swap_total", .ofNat r.swapTotal),
      ("memory.swap_free", .ofNat r.swapFree)], .memory)
  | .filesystem ignored => (.ofList (m.disks.flatMap (ofDisk ignored)), .filesystem ignored)
  | .load =>
    (.ofList [("loadavg1", m.load.one), ("loadavg5", m.load.five),
      ("loadavg15", m.load.fifteen)], .load)
  | .interface received transmitted =>
    let (values, received, transmitted) := ofNetworks received transmitted m.networks
    (.ofList values, .interface received transmitted)

end Builtin

end HostMonitor.Metric
