import HostMonitor.Proofs.Posting.Precedence
import HostMonitor.Proofs.Posting.Tracking
import HostMonitor.Proofs.Table
import Mathlib

namespace HostMonitor.Posting

open HostMonitor.Metric (Batch Finding Sample Snapshot)

structure Reading : Type where
  tick : Nat
  finding : Nat
  name : String
  deriving DecidableEq

namespace Pipeline

def value? (ticks : List Tick) (r : Reading) : Option (Instant × Option String × Binary64) := do
  let t ← ticks[r.tick]?
  let f ← t.findings[r.finding]?
  let values ← f.values
  let value ← values.get? r.name
  return (t.created, f.customIdentifier, value)

/-- The sample is of this value, and the value may be posted. -/
def Yields (hostId : String) (hosts : CustomHosts) (ticks : List Tick) (r : Reading) (s : Sample) :
    Prop :=
  ∃ created identifier, value? ticks r = some (created, identifier, s.value) ∧
    s.value.isFinite = true ∧ owner? hostId hosts identifier = some s.hostId ∧ s.name = r.name ∧
    s.time.toInt = created.seconds

section

variable (hostId : String) (hosts : CustomHosts)

def Tick.found (t : Tick) (n i : Nat) (f : Finding) : List (Reading × Sample) :=
  match f.values, owner? hostId hosts f.customIdentifier with
  | some values, some id =>
    (sortEntries values.entries).filterMap fun (name, value) =>
      if value.isFinite then
        some (⟨n, i, name⟩, ⟨id, name, Int64.ofInt t.created.seconds, value⟩)
      else none
  | _, _ => []

def Tick.readings (t : Tick) (n : Nat) : List (Reading × Sample) :=
  t.findings.zipIdx.flatMap fun (f, i) => t.found hostId hosts n i f

end

variable {hostId : String} {hosts : CustomHosts} {t : Tick} {n i : Nat} {f : Finding} {r : Reading}
  {s : Sample} {ticks : List Tick} {h : History} {p : Pipeline}

theorem Tick.samples_found : (t.found hostId hosts n i f).map Prod.snd =
    f.set?.toList.flatMap fun set => match owner? hostId hosts set.customIdentifier with
      | some id => samplesOfSet id (Int64.ofInt t.created.seconds) set
      | none => [] := by
  unfold Tick.found Finding.set?
  cases f.values with
  | none => rfl
  | some values =>
    cases owned : owner? hostId hosts f.customIdentifier with
    | none => simp [owned]
    | some id =>
      simp only [List.map_filterMap, Option.map_some, Option.toList_some, List.flatMap_cons, owned,
        List.flatMap_nil, List.append_nil, samplesOfSet]
      congr 1
      funext ⟨name, value⟩
      split <;> rfl

theorem Tick.samples_readings :
    (t.readings hostId hosts n).map Prod.snd = (batchOf hostId hosts t.snapshot).samples := by
  have sets : t.findings.filterMap Finding.set? = t.findings.flatMap fun f => f.set?.toList := by
    induction t.findings with
    | nil => rfl
    | cons f fs ih => cases set : f.set? <;> simp [set, ih]
  have indexed (g : Finding → List Sample) :
      t.findings.zipIdx.flatMap (fun x => g x.1) = t.findings.flatMap g := by
    rw [← List.flatMap_map, List.zipIdx_map_fst]
  simp only [Tick.readings, List.map_flatMap, Tick.samples_found, batchOf, Batch.ofSamples,
    Tick.snapshot, Snapshot.ofFindings, sets, List.flatMap_assoc]
  refine .trans ?_ (indexed _)
  rfl

theorem Tick.mem_found (hr : (r, s) ∈ t.found hostId hosts n i f) :
    ∃ values value id, f.values = some values ∧ (r.name, value) ∈ values.entries ∧
      owner? hostId hosts f.customIdentifier = some id ∧ value.isFinite = true ∧
      r = ⟨n, i, r.name⟩ ∧ s = ⟨id, r.name, Int64.ofInt t.created.seconds, value⟩ := by
  unfold Tick.found at hr
  split at hr
  · next values id some owned =>
    obtain ⟨⟨name, value⟩, mem, made⟩ := List.mem_filterMap.mp hr
    obtain ⟨finite, made⟩ := Option.ite_none_right_eq_some.mp made
    cases made
    exact ⟨values, value, id, some, (sortEntries_perm _).mem_iff.mp mem, owned, finite, rfl, rfl⟩
  · cases hr

theorem Tick.nodup_found : ((t.found hostId hosts n i f).map Prod.fst).Nodup := by
  unfold Tick.found
  split
  · next values id _ _ =>
    have distinct : (sortEntries values.entries).Pairwise fun a b => a.1 ≠ b.1 := by
      have sorted := ((sortEntries_perm values.entries).map Prod.fst).nodup_iff.mpr values.distinct
      exact List.pairwise_map.mp sorted
    rw [List.map_filterMap]
    refine distinct.filterMap _ ?_
    rintro ⟨name, value⟩ ⟨name', value'⟩ apart r hr q hq rfl
    simp only [Option.map_eq_some_iff, Option.ite_none_right_eq_some, Option.some.injEq] at hr hq
    obtain ⟨-, ⟨-, rfl⟩, rfl⟩ := hr
    obtain ⟨-, ⟨-, rfl⟩, same⟩ := hq
    exact apart (congrArg Reading.name same).symm
  · exact List.nodup_nil

theorem Tick.nodup_readings : ((t.readings hostId hosts n).map Prod.fst).Nodup := by
  rw [Tick.readings, List.map_flatMap, List.nodup_flatMap]
  refine ⟨fun x _ => Tick.nodup_found, ?_⟩
  have indices : t.findings.zipIdx.Pairwise fun a b => a.2 ≠ b.2 := by
    exact List.pairwise_map.mp (List.nodup_zipIdx_map_snd t.findings)
  refine indices.imp ?_
  rintro ⟨f, i⟩ ⟨g, j⟩ apart r hr hq
  obtain ⟨⟨q, s⟩, mem, rfl⟩ := List.mem_map.mp hr
  obtain ⟨⟨q', s'⟩, mem', rfl : q' = q⟩ := List.mem_map.mp hq
  obtain ⟨_, _, _, -, -, -, -, same, -⟩ := Tick.mem_found mem
  obtain ⟨_, _, _, -, -, -, -, same', -⟩ := Tick.mem_found mem'
  exact apart (congrArg Reading.finding (same.symm.trans same'))

theorem Tick.yields (found : ticks[n]? = some t) (hr : (r, s) ∈ t.readings hostId hosts n) :
    r.tick = n ∧ Yields hostId hosts ticks r s := by
  obtain ⟨⟨f, i⟩, mem, hr⟩ := List.mem_flatMap.mp hr
  obtain ⟨values, value, id, some, mem', owned, finite, same, rfl⟩ := Tick.mem_found hr
  rw [same]
  have listed : t.findings[i]? = Option.some f := List.mem_zipIdx_iff_getElem?.mp mem
  have bounds := t.created.int64_bounds
  refine ⟨rfl, t.created, f.customIdentifier, ?_, finite, owned, rfl, ?_⟩
  · simp [value?, found, listed, some, Table.get?_of_mem mem']
  · exact Int64.toInt_ofInt_of_le bounds.1 bounds.2

def traced (hostId : String) (hosts : CustomHosts) (sources : List (Tick × Nat)) (p : Parcel) :
    List (Reading × Sample) :=
  (sources[p.number]?.map fun (t, n) => t.readings hostId hosts n).getD []

/-- The accepted batches are those of the sources. -/
structure Sourced (hostId : String) (hosts : CustomHosts) (ticks : List Tick)
    (sources : List (Tick × Nat)) (l : Ledger) : Prop where
  ticks : sources.Sublist ticks.zipIdx
  batches : l.accepted.map Parcel.batch = sources.map fun x => batchOf hostId hosts x.1.snapshot
  balanced : l.Balanced

namespace Sourced

variable {sources : List (Tick × Nat)} {l : Ledger} {p q : Parcel}

theorem source (sourced : Sourced hostId hosts ticks sources l) (hp : p ∈ l.accepted) :
    ∃ t n, sources[p.number]? = some (t, n) ∧ ticks[n]? = some t ∧
      p.batch = batchOf hostId hosts t.snapshot ∧
      traced hostId hosts sources p = t.readings hostId hosts n := by
  have batch : (l.accepted.map Parcel.batch)[p.number]? = some p.batch := by
    rw [List.getElem?_map, sourced.balanced.getElem?_number hp, Option.map_some]
  rw [sourced.batches, List.getElem?_map] at batch
  obtain ⟨⟨t, n⟩, found, made⟩ := Option.map_eq_some_iff.mp batch
  have mem := sourced.ticks.subset (List.mem_of_getElem? found)
  exact ⟨t, n, found, List.mem_zipIdx_iff_getElem?.mp mem, made.symm, by simp [traced, found]⟩

theorem samples (sourced : Sourced hostId hosts ticks sources l) (hp : p ∈ l.accepted) :
    (traced hostId hosts sources p).map Prod.snd = p.batch.samples := by
  obtain ⟨t, n, -, -, batch, readings⟩ := sourced.source hp
  rw [readings, batch, Tick.samples_readings]

theorem yields (sourced : Sourced hostId hosts ticks sources l) (hp : p ∈ l.accepted)
    (hr : (r, s) ∈ traced hostId hosts sources p) : Yields hostId hosts ticks r s := by
  obtain ⟨t, n, -, found, -, readings⟩ := sourced.source hp
  rw [readings] at hr
  exact (Tick.yields found hr).2

theorem nodup (sourced : Sourced hostId hosts ticks sources l) (hp : p ∈ l.accepted) :
    ((traced hostId hosts sources p).map Prod.fst).Nodup := by
  obtain ⟨t, n, -, -, -, readings⟩ := sourced.source hp
  rw [readings]
  exact Tick.nodup_readings

theorem disjoint (sourced : Sourced hostId hosts ticks sources l) (hp : p ∈ l.accepted)
    (hq : q ∈ l.accepted) (apart : p.number ≠ q.number) :
    ((traced hostId hosts sources p).map Prod.fst).Disjoint
      ((traced hostId hosts sources q).map Prod.fst) := by
  obtain ⟨t, n, source, found, -, readings⟩ := sourced.source hp
  obtain ⟨t', n', source', found', -, readings'⟩ := sourced.source hq
  rw [readings, readings']
  intro r hr hr'
  obtain ⟨⟨r, s⟩, mem, rfl⟩ := List.mem_map.mp hr
  obtain ⟨⟨r', s'⟩, mem', rfl : r' = r⟩ := List.mem_map.mp hr'
  have same : n = n' := (Tick.yields found mem).1.symm.trans (Tick.yields found' mem').1
  -- A tick is the source of one batch at most.
  have numbers : (sources.map Prod.snd).Nodup :=
    (List.nodup_zipIdx_map_snd ticks).sublist (sourced.ticks.map Prod.snd)
  have number : (sources.map Prod.snd)[p.number]? = some n := by simp [source]
  have number' : (sources.map Prod.snd)[q.number]? = some n := by simp [source', same]
  have bound := (List.getElem?_eq_some_iff.mp number).1
  exact apart ((List.getElem?_inj bound numbers).mp (number.trans number'.symm))

end Sourced

theorem exists_sources {k : Scheduler.History} (tracked : Tracked hostId hosts h k p) :
    ∃ sources, Sourced hostId hosts h.ticks sources (.of k) := by
  have chain := (List.sublist_append_left k.accepted p.underway).trans tracked.chain
  rw [← List.zipIdx_map_fst 0 h.ticks, List.map_map] at chain
  obtain ⟨sources, sub, batches⟩ := List.sublist_map_iff.mp chain
  exact ⟨sources, sub, (Ledger.accepted_of k).trans batches, Ledger.balanced_of k⟩

/-- The posts of a run, with what each sample was read from. -/
structure Honest (hostId : String) (hosts : CustomHosts) (h : History) (p : Pipeline)
    (posts : List (List (Reading × Sample))) : Prop where
  samples : posts.map (List.map Prod.snd) = h.posts.map Scheduler.samplesOf
  filled : ∀ post ∈ posts, post ≠ []
  yields : ∀ post ∈ posts, ∀ x ∈ post, Yields hostId hosts h.ticks x.1 x.2
  fit : ∀ r created identifier value, value? h.ticks r = some (created, identifier, value) →
    owner? hostId hosts identifier = none ∨ value.isFinite = false →
      ∀ post ∈ posts, ∀ s, (r, s) ∉ post
  answered : h.posts.length = h.verdicts.length + p.scheduler.phase.posting?.toList.length
  once : (((posts.zip h.verdicts).filter Prod.snd).flatMap fun x => x.1.map Prod.fst).Nodup

theorem Yields.fit {posts : List (List (Reading × Sample))}
    (yields : ∀ post ∈ posts, ∀ x ∈ post, Yields hostId hosts ticks x.1 x.2)
    (read : value? ticks r = some (created, identifier, value))
    (unfit : owner? hostId hosts identifier = none ∨ value.isFinite = false)
    (hp : post ∈ posts) (s : Sample) : (r, s) ∉ post := by
  intro mem
  obtain ⟨_, _, found, finite, owned, -⟩ := yields post hp (r, s) mem
  cases read.symm.trans found
  rcases unfit with nobody | infinite
  · simp [nobody] at owned
  · simp [infinite] at finite

section

variable {interval began : Nat} {settings : Settings} {offset : Span} {capacity : Nat}
  {queue : Queue} {k : Scheduler.History} {sources : List (Tick × Nat)}

def tracedPosts (hostId : String) (hosts : CustomHosts) (sources : List (Tick × Nat))
    (k : Scheduler.History) (s : Scheduler) : List (List (Reading × Sample)) :=
  ((Ledger.of k).made s).map (List.flatMap (traced hostId hosts sources))

theorem Sourced.samples_posts (sourced : Sourced hostId hosts ticks sources (.of k))
    (fits : (Ledger.of k).Fits k p.scheduler)
    (posting : k.posted = k.replies.map Prod.fst ++ p.scheduler.phase.posting?.toList) :
    (tracedPosts hostId hosts sources k p.scheduler).map (List.map Prod.snd) =
      k.posted.map Scheduler.samplesOf := by
  have known := Ledger.known_of k
  have whole : k.posted.map Scheduler.samplesOf = (k.posted.map contents).map List.flatten := by
    simp [contents, Scheduler.samplesOf, List.flatMap_def]
  rw [whole, ← fits.contents_made posting, tracedPosts, List.map_map, List.map_map]
  refine List.map_congr_left fun ps made => ?_
  simp only [Function.comp_apply, Parcel.contents, List.map_flatMap, ← List.flatMap_def]
  refine List.flatMap_congr fun q hq => ?_
  exact sourced.samples (known.of_mem_made sourced.balanced made hq)

theorem Sourced.yields_posts (sourced : Sourced hostId hosts ticks sources (.of k))
    (s : Scheduler) : ∀ post ∈ tracedPosts hostId hosts sources k s, ∀ x ∈ post,
      Yields hostId hosts ticks x.1 x.2 := by
  intro post hpost x hx
  obtain ⟨ps, made, rfl⟩ := List.mem_map.mp hpost
  obtain ⟨q, hq, hx⟩ := List.mem_flatMap.mp hx
  exact sourced.yields ((Ledger.known_of k).of_mem_made sourced.balanced made hq) hx

theorem delivered_posts (fits : (Ledger.of k).Fits k p.scheduler) :
    (((tracedPosts hostId hosts sources k p.scheduler).zip (k.replies.map Prod.snd)).filter
      Prod.snd).flatMap (fun x => x.1.map Prod.fst) =
        (Ledger.of k).delivered.flatMap fun q => (traced hostId hosts sources q).map Prod.fst := by
  have verdicts : k.replies.map Prod.snd = (Ledger.of k).posts.map Prod.snd ++ [] := by
    have := congrArg (List.map Prod.snd) fits.posts
    simpa [Parcel.shown, shown, Function.comp_def] using this.symm
  rw [verdicts, tracedPosts, Ledger.made, List.map_append, List.map_map,
    List.zip_append (by simp), List.zip_map', List.zip_nil_right, List.append_nil, List.filter_map,
    List.flatMap_map, Ledger.delivered, List.flatMap_assoc]
  simp only [Function.comp_apply, List.map_flatMap]
  rfl

theorem Sourced.once (sourced : Sourced hostId hosts ticks sources (.of k)) :
    ((Ledger.of k).delivered.flatMap fun q =>
      (traced hostId hosts sources q).map Prod.fst).Nodup := by
  have accepted {q : Parcel} (hq : q ∈ (Ledger.of k).delivered) : q ∈ (Ledger.of k).accepted :=
    sourced.balanced.placed.symm.subset (by simp [Ledger.places, hq])
  have apart : (Ledger.of k).delivered.Pairwise fun q r => q.number ≠ r.number := by
    have places := List.pairwise_map.mp sourced.balanced.nodup
    simp only [Ledger.places, List.append_assoc] at places
    exact (List.pairwise_append.mp places).1
  rw [List.nodup_flatMap]
  refine ⟨fun q hq => sourced.nodup (accepted hq), ?_⟩
  refine List.Pairwise.imp_of_mem ?_ apart
  intro q r hq hr other
  exact sourced.disjoint (accepted hq) (accepted hr) other

theorem filled_posts (tracked : Tracked hostId hosts h k p)
    (run : Scheduler.Run (.start settings offset queue) k p.scheduler)
    (fits : (Ledger.of k).Fits k p.scheduler) (posted : cycle ∈ k.posted) :
    Scheduler.samplesOf cycle ≠ [] := by
  obtain ⟨ps, made, same⟩ : ∃ ps ∈ (Ledger.of k).made p.scheduler,
      Parcel.contents ps = contents cycle := by
    have mem := List.mem_map_of_mem (f := contents) posted
    rw [← fits.contents_made run.posting] at mem
    exact List.mem_map.mp mem
  have size := run.length_of_posted posted
  obtain ⟨b, bs, rfl⟩ : ∃ b bs, cycle = b :: bs := by
    cases cycle with
    | nil => simp at size
    | cons b bs => exact ⟨b, bs, rfl⟩
  obtain ⟨q, qs, rfl, samples, -⟩ := Parcel.contents_eq_cons same
  have known := (Ledger.known_of k).of_mem_made (Ledger.balanced_of k) made List.mem_cons_self
  have accepted : q.batch ∈ k.accepted := by
    rw [← Ledger.accepted_of]
    exact List.mem_map_of_mem known
  have filled := tracked.filled q.batch (List.mem_append_left _ accepted)
  simp [Scheduler.samplesOf, ← samples, filled]

def opening (interval began : Nat) (hostId : String) (hosts : CustomHosts) (settings : Settings)
    (offset : Span) (queue : Queue) : Pipeline :=
  start (.start interval began) (.start hostId hosts) (.start settings offset queue)

theorem only_honest_samples_posted (built : Queue.ofCapacity? capacity = some queue)
    (run : Run (opening interval began hostId hosts settings offset queue) h p) :
    ∃ posts, Honest hostId hosts h p posts := by
  obtain ⟨k, made, tracked⟩ := tracked_of_run rfl (Queue.empty_of_ofCapacity? built).2.1 run
  obtain ⟨sources, sourced⟩ := exists_sources tracked
  have fits := Ledger.fits_of_run built made
  have samples := sourced.samples_posts fits made.posting
  have yields := sourced.yields_posts p.scheduler
  refine ⟨tracedPosts hostId hosts sources k p.scheduler, ?_, ?_, yields, ?_, ?_, ?_⟩
  · rw [samples, tracked.posts]
  · rintro post hpost rfl
    have mem := List.mem_map_of_mem (f := List.map Prod.snd) hpost
    rw [samples] at mem
    obtain ⟨cycle, posted, none⟩ := List.mem_map.mp mem
    exact filled_posts tracked made fits posted none
  · exact fun r _ _ _ read unfit post hp => Yields.fit yields read unfit hp
  · rw [← tracked.posts, ← tracked.verdicts, made.posting]
    simp
  · rw [← tracked.verdicts, delivered_posts fits]
    exact sourced.once

end

def trial : Pipeline :=
  opening 1000 0 "agent" .empty ⟨.ofSeconds 30, .ofSeconds 60, 1, .ofSeconds 60⟩ (.ofSeconds 20)
    ⟨1, [], [], [], Nat.one_pos, Nat.zero_le 1⟩

def findings : List Finding :=
  [⟨none, some (.ofList [("load", ⟨1⟩), ("heat", ⟨0x7ff8_0000_0000_0000⟩), ("idle", ⟨9⟩)])⟩,
    ⟨some "database", some (.ofList [("rows", ⟨7⟩)])⟩, ⟨none, none⟩]

def script (uptime : Nat) (es : List Event) : List (Moment × Event) := es.map (⟨uptime, .epoch⟩, ·)

theorem honest_samples_of_a_trial : ∃ h p posts, Run trial h p ∧ h.verdicts = [false, true] ∧
    posts.map (List.map Prod.snd) =
      List.replicate 2 [⟨"agent", "idle", 0, ⟨9⟩⟩, ⟨"agent", "load", 0, ⟨1⟩⟩] ∧
    Honest "agent" .empty h p posts := by
  obtain ⟨h, p, run, seen⟩ := Run.of_play trial
    (script 1000 [.tick, .collected findings, .handOver, .receive, .schedule .take,
      .schedule .merge, .schedule .choose, .schedule .elapse, .schedule (.reply false),
      .schedule .giveBack, .schedule .giveBack, .schedule .take, .schedule .merge,
      .schedule .choose] ++
      script 61000 [.schedule .elapse, .schedule (.reply true)])
    (fun r => (r.1.verdicts, r.1.posts.map Scheduler.samplesOf))
    (a := ([false, true], List.replicate 2 [⟨"agent", "idle", 0, ⟨9⟩⟩, ⟨"agent", "load", 0, ⟨1⟩⟩]))
    (by cbv)
  obtain ⟨verdicts, samples⟩ := Prod.mk.inj seen
  have built : Queue.ofCapacity? 1 = some _ := rfl
  obtain ⟨posts, honest⟩ := only_honest_samples_posted built run
  exact ⟨h, p, posts, run, verdicts, honest.samples.trans samples, honest⟩

end Pipeline

end HostMonitor.Posting
