import HostMonitor.Check.Report
import HostMonitor.Host.Record
import HostMonitor.Json.Reader
import HostMonitor.Json.Writer
import HostMonitor.Metric.Sample
import HostMonitor.Proofs.Json.Form

namespace HostMonitor

open Json

theorem faithful_strings : Faithful (List String) fun _ => True :=
  (faithful_list faithful_string).all fun _ _ _ => trivial

theorem faithful_optionalString : Faithful (Option String) fun _ => True :=
  (faithful_option faithful_string rfl).all fun _ _ _ => trivial

namespace Metric

def Sample.Finite (s : Sample) : Prop := s.value.isFinite = true

def Batch.Finite (b : Batch) : Prop := ∀ s ∈ b.samples, s.Finite

def ValueSet.Finite (s : ValueSet) : Prop := ∀ e ∈ s.values.entries, e.2.isFinite = true

def Snapshot.Finite (s : Snapshot) : Prop := ∀ set ∈ s.sets, set.Finite

theorem Sample.faithful : Faithful Sample Finite where
  back s finite := by
    refine bind_of (fields?_toDocument rfl (by decide)) ?_
    refine bind_of (faithful_string.required trivial rfl) ?_
    refine bind_of (faithful_string.required trivial rfl) ?_
    refine bind_of (faithful_int64.required trivial rfl) ?_
    exact bind_of (faithful_binary64.required finite rfl) rfl
  fit d s read := by
    obtain ⟨fs, -, read⟩ := Option.bind_eq_some_iff.mp read
    obtain ⟨hostId, -, read⟩ := Option.bind_eq_some_iff.mp read
    obtain ⟨name, -, read⟩ := Option.bind_eq_some_iff.mp read
    obtain ⟨time, -, read⟩ := Option.bind_eq_some_iff.mp read
    obtain ⟨value, finite, read⟩ := Option.bind_eq_some_iff.mp read
    cases read
    exact faithful_binary64.fit_required finite

theorem Batch.faithful : Faithful Batch Finite where
  back b finite := by
    refine bind_of (fields?_toDocument rfl (by decide)) ?_
    refine bind_of ((faithful_list Sample.faithful).required finite rfl) ?_
    exact bind_of (faithful_uint32.required trivial rfl) rfl
  fit d b read := by
    obtain ⟨fs, -, read⟩ := Option.bind_eq_some_iff.mp read
    obtain ⟨samples, finite, read⟩ := Option.bind_eq_some_iff.mp read
    obtain ⟨retries, -, read⟩ := Option.bind_eq_some_iff.mp read
    cases read
    exact (faithful_list Sample.faithful).fit_required finite

theorem ValueSet.faithful : Faithful ValueSet Finite where
  back s finite := by
    refine bind_of (fields?_toDocument rfl (by decide)) ?_
    refine bind_of (faithful_optionalString.optional trivial rfl) ?_
    exact bind_of ((faithful_table faithful_binary64).required finite rfl) rfl
  fit d s read := by
    obtain ⟨fs, -, read⟩ := Option.bind_eq_some_iff.mp read
    obtain ⟨customIdentifier, -, read⟩ := Option.bind_eq_some_iff.mp read
    obtain ⟨values, finite, read⟩ := Option.bind_eq_some_iff.mp read
    cases read
    exact (faithful_table faithful_binary64).fit_required finite

def Snapshot.asWritten (s : Snapshot) : Snapshot := { s with created := s.created.asWritten }

theorem Snapshot.asWritten_of_regular {s : Snapshot} (regular : s.created.Regular) :
    s.asWritten = s := by
  rw [asWritten, Instant.asWritten_of_regular regular]

theorem Snapshot.encode_asWritten (s : Snapshot) : encode s.asWritten = encode s := by
  have same : encode s.created.asWritten = encode s.created :=
    congrArg Value.string (Rfc3339.render_asWritten s.created)
  show Value.object [("created", encode s.created.asWritten), ("values", encode s.sets)] = _
  rw [same]
  rfl

theorem Snapshot.faithful : Faithful Snapshot fun s => s.created.Regular ∧ s.Finite where
  back s := by
    rintro ⟨regular, finite⟩
    refine bind_of (fields?_toDocument rfl (by decide)) ?_
    refine bind_of (faithful_instant.required regular rfl) ?_
    exact bind_of ((faithful_list ValueSet.faithful).required finite rfl) rfl
  fit d s read := by
    obtain ⟨fs, -, read⟩ := Option.bind_eq_some_iff.mp read
    obtain ⟨created, regular, read⟩ := Option.bind_eq_some_iff.mp read
    obtain ⟨sets, finite, read⟩ := Option.bind_eq_some_iff.mp read
    cases read
    exact ⟨faithful_instant.fit_required regular,
      (faithful_list ValueSet.faithful).fit_required finite⟩

end Metric

namespace Check

theorem Status.faithful : Faithful Status fun _ => True :=
  ⟨fun s _ => Status.ofExactName?_name s, fun _ _ _ => trivial⟩

theorem decodeSecond?_encodeSecond (t : Instant) :
    decodeSecond? (encodeSecond t).toDocument = some t.floor := by
  obtain ⟨lower, upper⟩ := t.int64_bounds
  have seconds : (Int64.ofInt t.seconds).toInt = t.seconds := Int64.toInt_ofInt_of_le lower upper
  show Instant.of? (Int64.ofInt t.seconds).toInt 0 = _
  rw [seconds, Instant.of?_seconds_zero]

theorem floor_of_decodeSecond? {d : Document} {t : Instant} (read : decodeSecond? d = some t) :
    t.floor = t := by
  cases d with
  | whole n =>
    obtain ⟨inside, read⟩ := Option.dite_none_right_eq_some.mp read
    cases read
    rfl
  | _ => cases read

def Report.settled (r : Report) : Report := { r with occurredAt := r.occurredAt.floor }

theorem Report.back (r : Report) : decode? (encode r).toDocument = some r.settled := by
  refine bind_of (fields?_toDocument rfl (by decide)) ?_
  refine bind_of (faithful_string.required trivial rfl) ?_
  refine bind_of (Status.faithful.required trivial rfl) ?_
  refine bind_of (faithful_string.required trivial rfl) ?_
  exact bind_of (bind_of (get?_documents rfl) (decodeSecond?_encodeSecond r.occurredAt)) rfl

theorem Report.settled_of_read {d : Document} {r : Report} (read : decode? d = some r) :
    r.settled = r := by
  obtain ⟨fs, -, read⟩ := Option.bind_eq_some_iff.mp read
  obtain ⟨name, -, read⟩ := Option.bind_eq_some_iff.mp read
  obtain ⟨status, -, read⟩ := Option.bind_eq_some_iff.mp read
  obtain ⟨message, -, read⟩ := Option.bind_eq_some_iff.mp read
  obtain ⟨t, second, read⟩ := Option.bind_eq_some_iff.mp read
  obtain ⟨d, -, second⟩ := Option.bind_eq_some_iff.mp second
  cases read
  rw [settled, floor_of_decodeSecond? second]

end Check

namespace Host

theorem Record.faithful : Faithful Record fun _ => True where
  back h _ := by
    refine bind_of (fields?_toDocument rfl (by decide)) ?_
    refine bind_of (faithful_string.required trivial rfl) ?_
    refine bind_of (faithful_string.defaulted trivial rfl) ?_
    refine bind_of (faithful_string.defaulted trivial rfl) ?_
    exact bind_of (faithful_optionalString.defaulted trivial rfl) rfl
  fit _ _ _ := trivial

theorem Interface.faithful : Faithful Interface fun _ => True where
  back i _ := by
    refine bind_of (fields?_toDocument rfl (by decide)) ?_
    refine bind_of (faithful_string.required trivial rfl) ?_
    refine bind_of (faithful_optionalString.optional trivial rfl) ?_
    refine bind_of (faithful_strings.defaulted trivial rfl) ?_
    exact bind_of (faithful_strings.defaulted trivial rfl) rfl
  fit _ _ _ := trivial

theorem Spec.faithful : Faithful Spec fun s => s.detail.Proper where
  back s proper := by
    have interfaces := (faithful_list Interface.faithful).all fun _ _ _ => trivial
    refine bind_of (fields?_toDocument rfl (by decide)) ?_
    refine bind_of (faithful_string.required trivial rfl) ?_
    refine bind_of (faithful_value.required proper rfl) ?_
    refine bind_of (interfaces.required trivial rfl) ?_
    refine bind_of (faithful_strings.required trivial rfl) ?_
    refine bind_of (faithful_strings.required trivial rfl) ?_
    refine bind_of (faithful_optionalString.optional trivial rfl) ?_
    exact bind_of (faithful_optionalString.optional trivial rfl) rfl
  fit d s read := by
    obtain ⟨fs, -, read⟩ := Option.bind_eq_some_iff.mp read
    obtain ⟨name, -, read⟩ := Option.bind_eq_some_iff.mp read
    obtain ⟨detail, proper, read⟩ := Option.bind_eq_some_iff.mp read
    have same : s.detail = detail := by
      simp only [Option.bind_eq_bind, Option.bind_eq_some_iff, Option.pure_def, Option.some.injEq]
        at read
      obtain ⟨_, -, _, -, _, -, _, -, _, -, rfl⟩ := read
      rfl
    rw [same]
    exact faithful_value.fit_required proper

end Host

namespace Json

/-- What is read of a text is read again from the document that it is written as, which stays the
same from then on; and of all data that is `Fit`, as far as it is written, nothing is lost. -/
structure RoundTrips (α : Type) [Form α] (Fit : α → Prop) (written : α → α) : Prop where
  text : ∀ (t : String) (d : Document) (x : α), parse? t = some d → decode? d = some x →
    decode? (encode x).toDocument = some x ∧
    ∀ y : α, decode? (encode x).toDocument = some y →
      (encode y).toDocument = (encode x).toDocument
  data : ∀ x : α, Fit x → decode? (encode x).toDocument = some (written x)

theorem Faithful.roundTrips {α : Type} [Form α] {Fit : α → Prop} (faithful : Faithful α Fit) :
    RoundTrips α Fit id where
  text t d x _ read := by
    have back := faithful.back x (faithful.fit d x read)
    refine ⟨back, fun y again => ?_⟩
    rw [back] at again
    cases again
    rfl
  data x fit := faithful.back x fit

end Json

theorem Check.Report.roundTrips : RoundTrips Check.Report (fun _ => True) Check.Report.settled where
  text t d r _ read := by
    have back := r.back
    rw [settled_of_read read] at back
    refine ⟨back, fun s again => ?_⟩
    rw [back] at again
    cases again
    rfl
  data r _ := r.back

theorem Metric.Snapshot.roundTrips :
    RoundTrips Metric.Snapshot Metric.Snapshot.Finite Metric.Snapshot.asWritten where
  text := faithful.roundTrips.text
  data s finite := by
    rw [← encode_asWritten]
    exact faithful.back s.asWritten ⟨s.created.regular_asWritten, finite⟩

/-- The nine kinds of data that have a form. Tables and trees have no two members of one name. What
is lost is the part of a second at which a check was made, and that a snapshot was made at a leap
second where the calendar has none. -/
theorem wire_forms_round_trip :
    RoundTrips Metric.Sample Metric.Sample.Finite id ∧
    RoundTrips Metric.Batch Metric.Batch.Finite id ∧
    RoundTrips Metric.ValueSet Metric.ValueSet.Finite id ∧
    RoundTrips Metric.Snapshot Metric.Snapshot.Finite Metric.Snapshot.asWritten ∧
    (∀ s : Metric.Snapshot, s.created.Regular → s.asWritten = s) ∧
    RoundTrips Check.Status (fun _ => True) id ∧
    RoundTrips Check.Report (fun _ => True) Check.Report.settled ∧
    RoundTrips Host.Record (fun _ => True) id ∧
    RoundTrips Host.Interface (fun _ => True) id ∧
    RoundTrips Host.Spec (fun s => s.detail.Proper) id :=
  ⟨Metric.Sample.faithful.roundTrips, Metric.Batch.faithful.roundTrips,
    Metric.ValueSet.faithful.roundTrips, Metric.Snapshot.roundTrips,
    fun _ => Metric.Snapshot.asWritten_of_regular, Check.Status.faithful.roundTrips,
    Check.Report.roundTrips, Host.Record.faithful.roundTrips,
    Host.Interface.faithful.roundTrips, Host.Spec.faithful.roundTrips⟩

def unusualText : String :=
  "[\"2024-03-01T08:59:60.5+09:00\", [[null, \x7b\"load\": 2, \"load\": 3\x7d]]]"

theorem unusual_text_round_trips : ∃ d s, parse? unusualText = some d ∧
    (decode? d : Option Metric.Snapshot) = some s ∧
    decode? (encode s).toDocument = some s ∧
    s.created.nanos = 1_500_000_000 ∧
    s.sets.map (fun set => set.values.entries) = [[("load", .ofNat 3)]] := by
  have seen : (parse? unusualText >>= decode?).map (fun s : Metric.Snapshot =>
      (s.created.nanos, s.sets.map fun set => set.values.entries)) =
        some (1_500_000_000, [[("load", .ofNat 3)]]) := by
    decide +kernel
  obtain ⟨s, read, seen⟩ := Option.map_eq_some_iff.mp seen
  obtain ⟨d, parsed, read⟩ := Option.bind_eq_some_iff.mp read
  obtain ⟨-, -, -, snapshots, -⟩ := wire_forms_round_trip
  simp only [Prod.mk.injEq] at seen
  obtain ⟨nanos, sets⟩ := seen
  exact ⟨d, s, parsed, read, (snapshots.text unusualText d s parsed read).1, nanos, sets⟩

def strayInstant : Instant := ⟨30, 1_500_000_000, by decide, by decide, by decide⟩

def straySnapshot : Metric.Snapshot := ⟨strayInstant, []⟩

def nestedArrays : Nat → Value
  | 0 => .null
  | n + 1 => .array [nestedArrays n]

def deepSpec : Host.Spec := ⟨"web", nestedArrays depthLimit, [], [], [], none, none⟩

theorem proper_nestedArrays (n : Nat) : (nestedArrays n).Proper := by
  induction n with
  | zero => exact .null
  | succ n ih => exact .array (by simpa [nestedArrays] using ih)

theorem toList_render_nestedArrays (n : Nat) : (nestedArrays n).render.toList =
    List.replicate n '[' ++ "null".toList ++ List.replicate n ']' := by
  induction n with
  | zero => rfl
  | succ n ih =>
    rw [nestedArrays, Value.render, String.toList_append, String.toList_append,
      String.toList_intercalate]
    simp [Value.renderItems, ih, List.replicate_succ, List.intercalate]
    rw [← List.replicate_succ, List.replicate_succ']

theorem deepSpec_not_read :
    (parse? (encode deepSpec).render >>= decode? : Option Host.Spec) = none := by
  have written : (encode deepSpec).render = (Value.object [("name", .string "web"),
      ("meta", nestedArrays depthLimit), ("interfaces", .array []), ("roleFullnames", .array []),
      ("checks", .array []), ("displayName", .null), ("customIdentifier", .null)]).render := rfl
  -- The characters are put together without the text, which would have to be taken apart again.
  rw [parse?, written, Value.render, String.toList_append, String.toList_append,
    String.toList_intercalate]
  simp only [Value.renderMembers, Value.render, List.map_cons, List.map_nil, String.toList_append,
    toList_render_nestedArrays]
  exact Option.isNone_iff_eq_none.mp (by decide +kernel)

/-- A stray leap second comes back as the second in its place. What nests too deep comes back from
its tree, but not from its text. -/
theorem stray_second_comes_back_changed :
    straySnapshot.Finite ∧ decode? (encode straySnapshot).toDocument ≠ some straySnapshot ∧
      deepSpec.detail.Proper ∧ decode? (encode deepSpec).toDocument = some deepSpec ∧
      (parse? (encode deepSpec).render >>= decode? : Option Host.Spec) = none := by
  have finite : straySnapshot.Finite := by simp [Metric.Snapshot.Finite, straySnapshot]
  refine ⟨finite, ?_, ?_, ?_, ?_⟩
  · rw [Metric.Snapshot.roundTrips.data _ finite]
    simp [Metric.Snapshot.asWritten, Instant.asWritten, straySnapshot, strayInstant]
  · exact proper_nestedArrays _
  · exact Host.Spec.faithful.back deepSpec (proper_nestedArrays _)
  · exact deepSpec_not_read

end HostMonitor
