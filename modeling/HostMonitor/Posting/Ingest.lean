import HostMonitor.Host.Record
import HostMonitor.Metric.Sample

namespace HostMonitor.Posting

open HostMonitor.Metric (Sample Batch ValueSet Snapshot)

abbrev CustomHosts : Type := Table Host.Record

def owner? (hostId : String) (hosts : CustomHosts) : Option String → Option String
  | none => some hostId
  | some identifier => (hosts.get? identifier).map Host.Record.id

def samplesOfSet (hostId : String) (time : Int64) (set : ValueSet) : List Sample :=
  (sortEntries set.values.entries).filterMap fun (name, value) =>
    if value.isFinite then some ⟨hostId, name, time, value⟩ else none

/-- The batch of a snapshot. Values under an identifier without host are left out. -/
def batchOf (hostId : String) (hosts : CustomHosts) (snapshot : Snapshot) : Batch :=
  .ofSamples (snapshot.sets.flatMap fun set =>
    match owner? hostId hosts set.customIdentifier with
    | some id => samplesOfSet id (Int64.ofInt snapshot.created.seconds) set
    | none => [])

inductive Ingestor.Phase : Type
  | receiving
  | sending (b : Batch)
  | stopped
  deriving DecidableEq

structure Ingestor : Type where
  hostId : String
  hosts : CustomHosts
  phase : Ingestor.Phase

inductive Ingestor.Event : Type
  | snapshot (s : Snapshot)
  | producerGone
  | signal
  | accepted
  | refused

inductive Ingestor.Effect : Type
  | sends (b : Batch)
  | calledOff (b : Batch)

namespace Ingestor

def start (hostId : String) (hosts : CustomHosts) : Ingestor := ⟨hostId, hosts, .receiving⟩

def step (i : Ingestor) (e : Event) : Option (Ingestor × List Effect) :=
  match i.phase, e with
  | .receiving, .snapshot s =>
    let b := batchOf i.hostId i.hosts s
    if b.samples.isEmpty then some (i, []) else some ({ i with phase := .sending b }, [.sends b])
  | .receiving, .producerGone => some ({ i with phase := .stopped }, [])
  | .receiving, .signal => some ({ i with phase := .stopped }, [])
  | .sending _, .accepted => some ({ i with phase := .receiving }, [])
  | .sending _, .refused => some ({ i with phase := .stopped }, [])
  | .sending b, .signal => some ({ i with phase := .stopped }, [.calledOff b])
  | _, _ => none

end Ingestor

end HostMonitor.Posting
