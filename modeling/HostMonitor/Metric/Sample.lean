import HostMonitor.Json.Form

namespace HostMonitor.Metric

structure Sample : Type where
  hostId : String
  name : String
  time : Int64
  value : Binary64
  deriving DecidableEq, Inhabited

structure Batch : Type where
  samples : List Sample
  retries : UInt32
  deriving DecidableEq, Inhabited

namespace Batch

def ofSamples (samples : List Sample) : Batch := ⟨samples, 0⟩

def fail? (b : Batch) : Option Batch :=
  if b.retries.toNat + 1 < 0x1_0000_0000 then some { b with retries := b.retries + 1 } else none

def isExhausted (b : Batch) (limit : UInt32) : Bool := limit < b.retries

def overflowMessage : String := "attempt to add with overflow"

theorem samples_of_fail? {b b' : Batch} (h : b.fail? = some b') : b'.samples = b.samples := by
  unfold fail? at h
  split at h
  · cases h; rfl
  · cases h

theorem toNat_retries_of_fail? {b b' : Batch} (h : b.fail? = some b') :
    b'.retries.toNat = b.retries.toNat + 1 := by
  unfold fail? at h
  split at h
  · next lt =>
    cases h
    rw [UInt32.toNat_add]
    exact Nat.mod_eq_of_lt lt
  · cases h

theorem retries_of_fail?_eq_none {b : Batch} (h : b.fail? = none) :
    b.retries.toNat = 0xffff_ffff := by
  have bound := b.retries.toNat_lt
  unfold fail? at h
  split at h
  · cases h
  · omega

end Batch

structure ValueSet : Type where
  customIdentifier : Option String
  values : Table Binary64

structure Snapshot : Type where
  created : Instant
  sets : List ValueSet

open Json

instance : Form Sample where
  encode s := .object [("hostId", encode s.hostId), ("name", encode s.name),
    ("time", encode s.time), ("value", encode s.value)]
  decode? d := do
    let fs ← d.fields? ["hostId", "name", "time", "value"]
    return ⟨← fs.required "hostId", ← fs.required "name", ← fs.required "time",
      ← fs.required "value"⟩

instance : Form Batch where
  encode b := .object [("values", encode b.samples), ("retry_count", encode b.retries)]
  decode? d := do
    let fs ← d.fields? ["values", "retry_count"]
    return ⟨← fs.required "values", ← fs.required "retry_count"⟩

instance : Form ValueSet where
  encode s := .object [("custom_identifier", encode s.customIdentifier),
    ("values", encode s.values)]
  decode? d := do
    let fs ← d.fields? ["custom_identifier", "values"]
    return ⟨← fs.optional "custom_identifier", ← fs.required "values"⟩

instance : Form Snapshot where
  encode s := .object [("created", encode s.created), ("values", encode s.sets)]
  decode? d := do
    let fs ← d.fields? ["created", "values"]
    return ⟨← fs.required "created", ← fs.required "values"⟩

end HostMonitor.Metric
