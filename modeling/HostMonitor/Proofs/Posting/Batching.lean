import HostMonitor.Posting.Ingest
import HostMonitor.Proofs.Table
import Mathlib.Data.List.Forall2

namespace HostMonitor.Posting

open HostMonitor.Metric (Batch Sample Snapshot ValueSet)

inductive Belongs (hostId : String) (hosts : CustomHosts) : Option String → String → Prop
  | own : Belongs hostId hosts none hostId
  | custom : (identifier, host) ∈ hosts.entries → Belongs hostId hosts (some identifier) host.id

structure Stems (hostId : String) (hosts : CustomHosts) (created : Instant) (set : ValueSet)
    (s : Sample) : Prop where
  value : (s.name, s.value) ∈ set.values.entries
  finite : s.value.isFinite = true
  owner : Belongs hostId hosts set.customIdentifier s.hostId
  time : s.time.toInt = created.sinceEpoch / 1_000_000_000

structure Sampled (hostId : String) (hosts : CustomHosts) (created : Instant) (set : ValueSet)
    (samples : List Sample) : Prop where
  mem : ∀ s, s ∈ samples ↔ Stems hostId hosts created set s
  ascending : Text.Ascending (samples.map Sample.name)

def partOf (hostId : String) (hosts : CustomHosts) (created : Instant) (set : ValueSet) :
    List Sample :=
  match owner? hostId hosts set.customIdentifier with
  | some id => samplesOfSet id (Int64.ofInt created.seconds) set
  | none => []

variable {hostId id : String} {hosts hosts' : CustomHosts} {created : Instant}
  {set set' : ValueSet} {s : Sample} {samples samples' : List Sample} {identifier : Option String}

theorem owner?_eq_some_iff :
    owner? hostId hosts identifier = some id ↔ Belongs hostId hosts identifier id := by
  constructor
  · intro owned
    cases identifier with
    | none => cases owned; exact .own
    | some identifier =>
      obtain ⟨host, found, rfl⟩ := Option.map_eq_some_iff.mp owned
      exact .custom (Table.get?_eq_some_iff.mp found)
  · intro belongs
    cases belongs with
    | own => rfl
    | custom listed => exact Option.map_eq_some_iff.mpr ⟨_, Table.get?_of_mem listed, rfl⟩

theorem samples_batchOf (hostId : String) (hosts : CustomHosts) (snapshot : Snapshot) :
    (batchOf hostId hosts snapshot).samples =
      (snapshot.sets.map (partOf hostId hosts snapshot.created)).flatten := rfl

theorem mem_samplesOfSet {time : Int64} : s ∈ samplesOfSet id time set ↔
    (s.name, s.value) ∈ set.values.entries ∧ s.value.isFinite = true ∧ s.hostId = id ∧
      s.time = time := by
  simp only [samplesOfSet, List.mem_filterMap, (sortEntries_perm _).mem_iff,
    Option.ite_none_right_eq_some, Option.some.injEq]
  constructor
  · rintro ⟨⟨name, value⟩, listed, finite, rfl⟩
    exact ⟨listed, finite, rfl, rfl⟩
  · rintro ⟨listed, finite, rfl, rfl⟩
    exact ⟨(s.name, s.value), listed, finite, rfl⟩

theorem ascending_samplesOfSet {time : Int64} :
    Text.Ascending ((samplesOfSet id time set).map Sample.name) := by
  have sorted := List.pairwise_map.mp (ascending_sortEntries set.values.distinct)
  refine List.pairwise_map.mpr (sorted.filterMap _ ?_)
  rintro ⟨name, value⟩ ⟨name', value'⟩ less r hr q hq
  obtain ⟨-, made⟩ := Option.ite_none_right_eq_some.mp hr
  obtain ⟨-, made'⟩ := Option.ite_none_right_eq_some.mp hq
  cases made
  cases made'
  exact less

theorem sampled_partOf : Sampled hostId hosts created set (partOf hostId hosts created set) := by
  have second : (Int64.ofInt created.seconds).toInt = created.sinceEpoch / 1_000_000_000 := by
    obtain ⟨lower, upper⟩ := created.int64_bounds
    rw [← created.seconds_eq]
    exact Int64.toInt_ofInt_of_le lower upper
  unfold partOf
  split
  · next id owned =>
    refine ⟨fun s => ?_, ascending_samplesOfSet⟩
    rw [mem_samplesOfSet]
    constructor
    · rintro ⟨listed, finite, rfl, time⟩
      exact ⟨listed, finite, owner?_eq_some_iff.mp owned, time ▸ second⟩
    · rintro ⟨listed, finite, owner, time⟩
      have same := owned.symm.trans (owner?_eq_some_iff.mpr owner)
      have second := Int64.toInt_inj.mp (time.trans second.symm)
      exact ⟨listed, finite, (Option.some.inj same).symm, second⟩
  · next unowned =>
    refine ⟨fun s => iff_of_false List.not_mem_nil ?_, .nil⟩
    rintro ⟨-, -, owner, -⟩
    have owned := owner?_eq_some_iff.mpr owner
    rw [unowned] at owned
    cases owned

theorem Belongs.permuted (belongs : Belongs hostId hosts identifier id)
    (others : hosts.entries.Perm hosts'.entries) : Belongs hostId hosts' identifier id := by
  cases belongs with
  | own => exact .own
  | custom listed => exact .custom (others.mem_iff.mp listed)

structure Reordered (set set' : ValueSet) : Prop where
  identifier : set.customIdentifier = set'.customIdentifier
  values : set.values.entries.Perm set'.values.entries

theorem Reordered.symm (same : Reordered set set') : Reordered set' set :=
  ⟨same.identifier.symm, same.values.symm⟩

theorem Stems.permuted (stems : Stems hostId hosts created set s)
    (others : hosts.entries.Perm hosts'.entries) (same : Reordered set set') :
    Stems hostId hosts' created set' s where
  value := same.values.mem_iff.mp stems.value
  finite := stems.finite
  owner := same.identifier ▸ stems.owner.permuted others
  time := stems.time

namespace Sampled

theorem unique (sampled : Sampled hostId hosts created set samples)
    (sampled' : Sampled hostId hosts created set samples') : samples = samples' :=
  Text.eq_of_ascending sampled.ascending sampled'.ascending fun s =>
    (sampled.mem s).trans (sampled'.mem s).symm

theorem permuted (sampled : Sampled hostId hosts created set samples)
    (others : hosts.entries.Perm hosts'.entries) (same : Reordered set set') :
    Sampled hostId hosts' created set' samples := by
  refine ⟨fun s => (sampled.mem s).trans ⟨?_, ?_⟩, sampled.ascending⟩
  · exact fun stems => stems.permuted others same
  · exact fun stems => stems.permuted others.symm same.symm

open Classical in
theorem count (sampled : Sampled hostId hosts created set samples) :
    samples.count s = if Stems hostId hosts created set s then 1 else 0 := by
  rw [(Text.nodup_of_ascending sampled.ascending).count]
  simp only [sampled.mem]

end Sampled

variable {sets sets' : List ValueSet} {parts parts' : List (List Sample)}

theorem forall₂_partOf : List.Forall₂ (Sampled hostId hosts created) sets
    (sets.map (partOf hostId hosts created)) :=
  List.forall₂_map_right_iff.mpr (List.forall₂_same.mpr fun _ _ => sampled_partOf)

theorem parts_unique (sampled : List.Forall₂ (Sampled hostId hosts created) sets parts)
    (sampled' : List.Forall₂ (Sampled hostId hosts created) sets parts') : parts = parts' := by
  induction sampled generalizing parts' with
  | nil => cases sampled'; rfl
  | cons first _ ih =>
    cases sampled' with
    | cons first' rest' => rw [first.unique first', ih rest']

open Classical in
theorem count_flatten (sampled : List.Forall₂ (Sampled hostId hosts created) sets parts)
    (s : Sample) :
    parts.flatten.count s = sets.countP fun set => decide (Stems hostId hosts created set s) := by
  induction sampled with
  | nil => rfl
  | cons first _ ih =>
    rw [List.flatten_cons, List.count_append, first.count, ih, List.countP_cons, Nat.add_comm]
    simp

theorem parts_permuted (others : hosts.entries.Perm hosts'.entries)
    (same : List.Forall₂ Reordered sets sets')
    (sampled : List.Forall₂ (Sampled hostId hosts created) sets parts) :
    List.Forall₂ (Sampled hostId hosts' created) sets' parts := by
  induction same generalizing parts with
  | nil => cases sampled; exact .nil
  | cons first _ ih =>
    cases sampled with
    | cons part rest => exact .cons (part.permuted others first) (ih rest)

/-- The batch was not posted yet, and has the samples of each set in turn. -/
structure Translates (hostId : String) (hosts : CustomHosts) (snapshot : Snapshot) (b : Batch) :
    Prop where
  untried : b.retries = 0
  parts : ∃ parts, List.Forall₂ (Sampled hostId hosts snapshot.created) snapshot.sets parts ∧
    b.samples = parts.flatten

theorem translates_iff {snapshot : Snapshot} {b : Batch} :
    Translates hostId hosts snapshot b ↔ b = batchOf hostId hosts snapshot := by
  constructor
  · rintro ⟨untried, parts, sampled, whole⟩
    cases b with
    | mk samples retries =>
      cases untried
      cases whole
      rw [parts_unique sampled forall₂_partOf]
      rfl
  · rintro rfl
    exact ⟨rfl, _, forall₂_partOf, samples_batchOf ..⟩

open Classical in
/-- The batch of a snapshot is the one that translates it. A sample is in it once for every set that
it stems from, and the order in which tables are kept does not matter. -/
theorem batch_translates_snapshot (hostId : String) (hosts : CustomHosts) (snapshot : Snapshot) :
    (∀ b, Translates hostId hosts snapshot b ↔ b = batchOf hostId hosts snapshot) ∧
    (∀ s, (batchOf hostId hosts snapshot).samples.count s =
      snapshot.sets.countP fun set => decide (Stems hostId hosts snapshot.created set s)) ∧
    ∀ hosts' sets', hosts.entries.Perm hosts'.entries →
      List.Forall₂ Reordered snapshot.sets sets' →
      batchOf hostId hosts' ⟨snapshot.created, sets'⟩ = batchOf hostId hosts snapshot := by
  refine ⟨fun b => translates_iff, fun s => count_flatten forall₂_partOf s, ?_⟩
  intro hosts' sets' others same
  refine (translates_iff.mp ⟨rfl, _, ?_, samples_batchOf ..⟩).symm
  exact parts_permuted others same forall₂_partOf

def trialSets (own : Table Binary64) : List ValueSet :=
  [⟨none, own⟩, ⟨some "absent", .ofList [("load", .ofInt 3)]⟩,
    ⟨some "db", .ofList [("load", .ofInt 4)]⟩]

def trialValues : Table Binary64 :=
  .ofList [("é", .ofInt 1), ("nan", ⟨0x7ff8_0000_0000_0000⟩), ("load", .ofInt 2)]

def trialValues' : Table Binary64 :=
  .ofList [("load", .ofInt 2), ("nan", ⟨0x7ff8_0000_0000_0000⟩), ("é", .ofInt 1)]

def trialHosts : CustomHosts :=
  .ofList [("db", ⟨"d1", "", "", none⟩), ("web", ⟨"w1", "", "", none⟩)]

def trialHosts' : CustomHosts :=
  .ofList [("web", ⟨"w1", "", "", none⟩), ("db", ⟨"d1", "", "", none⟩)]

def trialInstant : Instant := ⟨-1, 500_000_000, by decide, by decide, by decide⟩

theorem samples_trial :
    (batchOf "h1" trialHosts ⟨trialInstant, trialSets trialValues⟩).samples =
      [⟨"h1", "load", -1, .ofInt 2⟩, ⟨"h1", "é", -1, .ofInt 1⟩, ⟨"d1", "load", -1, .ofInt 4⟩] := by
  have own : owner? "h1" trialHosts none = some "h1" := rfl
  have absent : owner? "h1" trialHosts (some "absent") = none := rfl
  have custom : owner? "h1" trialHosts (some "db") = some "d1" := rfl
  have sorted : sortEntries trialValues.entries =
      [("load", .ofInt 2), ("nan", ⟨0x7ff8_0000_0000_0000⟩), ("é", .ofInt 1)] := by
    have values : trialValues.entries =
        [("é", .ofInt 1), ("nan", ⟨0x7ff8_0000_0000_0000⟩), ("load", .ofInt 2)] := by decide +kernel
    have first : nameLE "é" "nan" = false := by decide +kernel
    have second : nameLE "nan" "load" = false := by decide +kernel
    simp [sortEntries, values, List.mergeSort, first, second]
  have single : sortEntries (Table.ofList [("load", Binary64.ofInt 4)]).entries =
      [("load", .ofInt 4)] := List.mergeSort_singleton _
  have finite : (Binary64.ofInt 1).isFinite = true ∧ (Binary64.ofInt 2).isFinite = true ∧
      (Binary64.ofInt 4).isFinite = true := by decide +kernel
  have infinite : Binary64.isFinite ⟨0x7ff8_0000_0000_0000⟩ = false := by decide +kernel
  simp [batchOf, Batch.ofSamples, trialSets, own, absent, custom, samplesOfSet, sorted, single,
    finite, infinite]
  rfl

theorem trial_batch_translated :
    trialHosts.entries.Perm trialHosts'.entries ∧
    List.Forall₂ Reordered (trialSets trialValues) (trialSets trialValues') ∧
    batchOf "h1" trialHosts' ⟨trialInstant, trialSets trialValues'⟩ =
      ⟨[⟨"h1", "load", -1, .ofInt 2⟩, ⟨"h1", "é", -1, .ofInt 1⟩, ⟨"d1", "load", -1, .ofInt 4⟩],
        0⟩ := by
  have others : trialHosts.entries.Perm trialHosts'.entries := .swap ..
  have reversed : trialValues.entries.Perm trialValues'.entries := by decide +kernel
  have same : List.Forall₂ Reordered (trialSets trialValues) (trialSets trialValues') :=
    .cons ⟨rfl, reversed⟩ (.cons ⟨rfl, .refl _⟩ (.cons ⟨rfl, .refl _⟩ .nil))
  obtain ⟨-, -, reordered⟩ := batch_translates_snapshot "h1" trialHosts
    ⟨trialInstant, trialSets trialValues⟩
  refine ⟨others, same, ?_⟩
  rw [reordered _ _ others same, ← samples_trial]
  rfl

end HostMonitor.Posting
