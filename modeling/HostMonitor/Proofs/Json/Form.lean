import HostMonitor.Json.Form
import HostMonitor.Proofs.Number.Binary64
import HostMonitor.Proofs.Table
import HostMonitor.Proofs.Time.Rfc3339

namespace HostMonitor.Json

variable {α : Type}

/-- The values of which `Fit` holds are read back from their own documents, and no others are read
from any document. -/
structure Faithful (α : Type) [Form α] (Fit : α → Prop) : Prop where
  back : ∀ x : α, Fit x → decode? (encode x).toDocument = some x
  fit : ∀ (d : Document) (x : α), decode? d = some x → Fit x

theorem Faithful.all [Form α] {Fit : α → Prop} (faithful : Faithful α Fit) (all : ∀ x, Fit x) :
    Faithful α fun _ => True :=
  ⟨fun x _ => faithful.back x (all x), fun _ _ _ => trivial⟩

/-- No object of the tree has two members of one name. -/
inductive Value.Proper : Value → Prop
  | null : Proper .null
  | bool : Proper (.bool b)
  | whole : Proper (.whole n)
  | real : Proper (.real x)
  | string : Proper (.string s)
  | array : (∀ x ∈ xs, Proper x) → Proper (.array xs)
  | object : (ms.map Prod.fst).Nodup → (∀ m ∈ ms, Proper m.2) → Proper (.object ms)

theorem values?_toDocuments {xs : List Value} (back : ∀ x ∈ xs, x.toDocument.value? = some x) :
    Document.values? (Value.toDocuments xs) = some xs := by
  induction xs with
  | nil => rfl
  | cons x xs ih =>
    rw [Value.toDocuments, Document.values?, back x List.mem_cons_self,
      ih fun y member => back y (List.mem_cons_of_mem x member)]
    rfl

theorem members?_toMembers {before ms : List (String × Value)}
    (distinct : ((before ++ ms).map Prod.fst).Nodup)
    (back : ∀ m ∈ ms, m.2.toDocument.value? = some m.2) :
    Document.members? before (Value.toMembers ms) = some (before ++ ms) := by
  induction ms generalizing before with
  | nil => rw [List.append_nil]; rfl
  | cons m ms ih =>
    obtain ⟨k, x⟩ := m
    have fresh := fresh_of_nodup distinct
    have whole : before ++ (k, x) :: ms = before ++ [(k, x)] ++ ms := by simp
    rw [whole] at distinct ⊢
    rw [Value.toMembers, Document.members?, back _ List.mem_cons_self]
    refine Eq.trans ?_ (ih distinct fun m member => back m (List.mem_cons_of_mem _ member))
    rw [← putEntry_of_new fresh]
    rfl

theorem Value.Proper.back {v : Value} (proper : v.Proper) : v.toDocument.value? = some v := by
  induction proper with
  | null | bool | whole | real | string => rfl
  | array _ ih => rw [Value.toDocument, Document.value?, values?_toDocuments ih]; rfl
  | object distinct _ ih =>
    rw [Value.toDocument, Document.value?, members?_toMembers (by simpa using distinct) ih]
    rfl

mutual

theorem proper_of_value? : ∀ {d : Document} {v : Value}, d.value? = some v → v.Proper
  | .null, _, rfl => .null
  | .bool _, _, rfl => .bool
  | .whole _, _, rfl => .whole
  | .real _, _, rfl => .real
  | .string _, _, rfl => .string
  | .array ds, _, read => by
    obtain ⟨xs, items, rfl⟩ := Option.map_eq_some_iff.mp read
    exact .array (proper_of_values? items)
  | .object ms, _, read => by
    obtain ⟨xs, members, rfl⟩ := Option.map_eq_some_iff.mp read
    obtain ⟨distinct, proper⟩ := proper_of_members? [] List.nodup_nil nofun members
    exact .object distinct proper
  | .unreadable, _, read => by cases read

theorem proper_of_values? : ∀ {ds : List Document} {xs : List Value},
    Document.values? ds = some xs → ∀ x ∈ xs, x.Proper
  | [], _, rfl => nofun
  | d :: ds, _, read => by
    simp only [Document.values?, Option.pure_def, Option.bind_eq_bind, Option.bind_eq_some_iff,
      Option.some.injEq] at read
    obtain ⟨x, first, xs, rest, rfl⟩ := read
    exact List.forall_mem_cons.mpr ⟨proper_of_value? first, proper_of_values? rest⟩

theorem proper_of_members? : ∀ (before : List (String × Value))
    {ds : List (Option String × Document)} {ms : List (String × Value)},
    (before.map Prod.fst).Nodup → (∀ m ∈ before, m.2.Proper) →
    Document.members? before ds = some ms → (ms.map Prod.fst).Nodup ∧ ∀ m ∈ ms, m.2.Proper
  | _, [], _, distinct, proper, rfl => ⟨distinct, proper⟩
  | _, (k, d) :: ds, _, distinct, proper, read => by
    simp only [Document.members?, Option.bind_eq_bind, Option.bind_eq_some_iff] at read
    obtain ⟨name, -, x, first, rest⟩ := read
    refine proper_of_members? _ (nodup_putEntry distinct) (fun m member => ?_) rest
    rcases mem_putEntry member with rfl | old
    · exact proper_of_value? first
    · exact proper m old

end

theorem faithful_value : Faithful Value Value.Proper :=
  ⟨fun _ proper => proper.back, fun _ _ => proper_of_value?⟩

theorem faithful_string : Faithful String fun _ => True := ⟨fun _ _ => rfl, fun _ _ _ => trivial⟩

theorem faithful_int64 : Faithful Int64 fun _ => True where
  back n _ := by
    have upper : (Whole.ofInt64 n).value < 0x8000_0000_0000_0000 := Int64.toInt_lt n
    exact (if_pos upper).trans (congrArg some (Int64.ofInt_toInt n))
  fit _ _ _ := trivial

theorem faithful_uint32 : Faithful UInt32 fun _ => True where
  back n _ := by
    have bounds : 0 ≤ (Whole.ofUInt32 n).value ∧ (Whole.ofUInt32 n).value < 0x1_0000_0000 :=
      ⟨Int.natCast_nonneg _, Int.ofNat_lt.mpr n.toNat_lt⟩
    exact (if_pos bounds).trans (congrArg some UInt32.ofNat_toNat)
  fit _ _ _ := trivial

theorem faithful_binary64 : Faithful Binary64 fun x => x.isFinite = true where
  back x finite := by
    have written : encode x = .real ⟨x, finite⟩ := by
      show ((Real.of? x).map Value.real).getD .null = _
      rw [Real.of?, dif_pos finite]
      rfl
    rw [written]
    rfl
  fit d x read := by
    cases d with
    | real y => cases read; exact y.finite
    | whole n => cases read; exact Binary64.isFinite_ofInt n.lower n.upper
    | _ => cases read

theorem faithful_instant : Faithful Instant Instant.Regular where
  back := Rfc3339.parse?_render
  fit d t read := by
    cases d with
    | string s => exact Rfc3339.regular_of_parse? read
    | _ => cases read

theorem faithful_option [Form α] {Fit : α → Prop} (faithful : Faithful α Fit)
    (solid : (decode? .null : Option α) = none) : Faithful (Option α) fun o => ∀ x ∈ o, Fit x where
  back o fit := by
    cases o with
    | none => rfl
    | some x =>
      have back := faithful.back x (fit x rfl)
      show (decode? (encode x).toDocument : Option (Option α)) = _
      cases written : (encode x).toDocument with
      | null => rw [written, solid] at back; cases back
      | _ => rw [written] at back; exact congrArg (Option.map some) back
  fit d o read := by
    rintro x rfl
    cases d with
    | null => cases read
    | _ =>
      obtain ⟨y, inner, same⟩ := Option.map_eq_some_iff.mp read
      cases same
      exact faithful.fit _ _ inner

theorem mapM_toDocuments [Form α] {Fit : α → Prop} (faithful : Faithful α Fit) {xs : List α}
    (fit : ∀ x ∈ xs, Fit x) : (Value.toDocuments (xs.map encode)).mapM decode? = some xs := by
  induction xs with
  | nil => rfl
  | cons x xs ih =>
    rw [List.map_cons, Value.toDocuments, List.mapM_cons,
      faithful.back x (fit x List.mem_cons_self),
      ih fun y member => fit y (List.mem_cons_of_mem x member)]
    rfl

theorem exists_of_mapM {β : Type} {f : α → Option β} {xs : List α} {ys : List β}
    (read : xs.mapM f = some ys) : ∀ y ∈ ys, ∃ x ∈ xs, f x = some y := by
  induction xs generalizing ys with
  | nil =>
    cases read
    nofun
  | cons x xs ih =>
    simp only [List.mapM_cons, Option.bind_eq_bind, Option.bind_eq_some_iff, Option.pure_def,
      Option.some.injEq] at read
    obtain ⟨y, first, ys, rest, rfl⟩ := read
    refine List.forall_mem_cons.mpr ⟨⟨x, List.mem_cons_self, first⟩, fun z member => ?_⟩
    obtain ⟨w, member, found⟩ := ih rest z member
    exact ⟨w, List.mem_cons_of_mem x member, found⟩

theorem faithful_list [Form α] {Fit : α → Prop} (faithful : Faithful α Fit) :
    Faithful (List α) fun xs => ∀ x ∈ xs, Fit x where
  back _ fit := mapM_toDocuments faithful fit
  fit d xs read x member := by
    cases d with
    | array ds =>
      obtain ⟨d, -, found⟩ := exists_of_mapM read x member
      exact faithful.fit d x found
    | _ => cases read

theorem mapM_toMembers [Form α] {Fit : α → Prop} (faithful : Faithful α Fit)
    {es : List (String × α)} (fit : ∀ e ∈ es, Fit e.2) :
    (Value.toMembers (es.map fun e => (e.1, encode e.2))).mapM decodeMember? = some es := by
  induction es with
  | nil => rfl
  | cons e es ih =>
    rw [List.map_cons, Value.toMembers, List.mapM_cons, decodeMember?,
      faithful.back e.2 (fit e List.mem_cons_self),
      ih fun e' member => fit e' (List.mem_cons_of_mem e member)]
    rfl

theorem faithful_table [Form α] {Fit : α → Prop} (faithful : Faithful α Fit) :
    Faithful (Table α) fun t => ∀ e ∈ t.entries, Fit e.2 where
  back t fit := by
    show (List.mapM decodeMember? (Value.toMembers (t.entries.map fun e => (e.1, encode e.2)))).map
      Table.ofList = some t
    rw [mapM_toMembers faithful fit, Option.map_some, Table.ofList_entries]
  fit d t read e member := by
    cases d with
    | object ms =>
      obtain ⟨es, found, rfl⟩ := Option.map_eq_some_iff.mp read
      obtain ⟨m, -, found⟩ := exists_of_mapM found e (Table.mem_ofList member)
      simp only [decodeMember?, Option.bind_eq_bind, Option.bind_eq_some_iff, Option.pure_def,
        Option.some.injEq] at found
      obtain ⟨name, -, x, read, rfl⟩ := found
      exact faithful.fit m.2 x read
    | _ => cases read

def documents (ms : List (String × Value)) : List (String × Document) :=
  ms.map fun m => (m.1, m.2.toDocument)

variable {name : String} {names : List String} {ms : List (String × Value)} {fs : Fields}

theorem mapM_names (ms : List (String × Value)) :
    (Value.toMembers ms).mapM (fun m => m.1.map (·, m.2)) = some (documents ms) := by
  induction ms with
  | nil => rfl
  | cons m ms ih => rw [Value.toMembers, List.mapM_cons, ih]; rfl

theorem map_fst_documents (ms : List (String × Value)) :
    (documents ms).map Prod.fst = ms.map Prod.fst := by
  rw [documents, List.map_map]
  rfl

theorem lookup_documents (name : String) (ms : List (String × Value)) :
    (documents ms).lookup name = (ms.lookup name).map Value.toDocument := by
  induction ms with
  | nil => rfl
  | cons m ms ih =>
    obtain ⟨k, x⟩ := m
    simp only [documents, List.map_cons, List.lookup_cons] at ih ⊢
    cases name == k with
    | true => rfl
    | false => exact ih

theorem fields?_toDocument (named : ms.map Prod.fst = names) (distinct : names.Nodup) :
    (Value.object ms).toDocument.fields? names = some ⟨true, documents ms⟩ := by
  have known : (documents ms).filter (fun m => names.contains m.1) = documents ms := by
    refine List.filter_eq_self.mpr fun m member => ?_
    rw [List.contains_iff_mem, ← named, ← map_fst_documents]
    exact List.mem_map_of_mem member
  have once : ((documents ms).map Prod.fst).Nodup := by rwa [map_fst_documents, named]
  rw [Value.toDocument, Document.fields?, mapM_names]
  simp only [Option.bind_eq_bind, Option.bind_some, known, once, if_true]
  rfl

def Value.without (name : String) : Value → Value
  | .object ms => .object (ms.filter fun m => m.1 ≠ name)
  | v => v

theorem fields?_without (unknown : name ∉ names) (v : Value) :
    (v.without name).toDocument.fields? names = v.toDocument.fields? names := by
  cases v with
  | object ms =>
    have known : (documents (ms.filter fun m => m.1 ≠ name)).filter (names.contains ·.1) =
        (documents ms).filter (names.contains ·.1) := by
      simp only [documents, List.filter_map, List.filter_filter]
      congr 1
      refine List.filter_congr fun m _ => ?_
      by_cases same : m.1 = name
      · simp [same, unknown]
      · simp [same]
    simp only [Value.without, Value.toDocument, Document.fields?, mapM_names, Option.bind_eq_bind,
      Option.bind_some, known]
  | _ => rfl

theorem get?_documents {v : Value} (found : ms.lookup name = some v) :
    Fields.get? ⟨true, documents ms⟩ name = some v.toDocument := by
  rw [Fields.get?, lookup_documents, found]
  rfl

section Reading

variable [Form α] {Fit : α → Prop} (faithful : Faithful α Fit) {x : α}

include faithful

theorem Faithful.required (fit : Fit x) (found : ms.lookup name = some (encode x)) :
    Fields.required ⟨true, documents ms⟩ name = some x := by
  rw [Fields.required, get?_documents found]
  exact faithful.back x fit

theorem Faithful.defaulted {d : α} (fit : Fit x) (found : ms.lookup name = some (encode x)) :
    Fields.defaulted ⟨true, documents ms⟩ name d = some x := by
  rw [Fields.defaulted, get?_documents found]
  exact faithful.back x fit

theorem Faithful.fit_required (read : fs.required name = some x) : Fit x := by
  obtain ⟨d, -, read⟩ := Option.bind_eq_some_iff.mp read
  exact faithful.fit d x read

end Reading

theorem optional_of_found [Form α] {d : Document} (found : fs.get? name = some d) :
    fs.optional name = (decode? d : Option (Option α)) := by
  rw [Fields.optional, found]
  cases d <;> rfl

theorem Faithful.optional [Form α] {Fit : Option α → Prop} (faithful : Faithful (Option α) Fit)
    {o : Option α} (fit : Fit o) (found : ms.lookup name = some (encode o)) :
    Fields.optional ⟨true, documents ms⟩ name = some o := by
  rw [optional_of_found (get?_documents found)]
  exact faithful.back o fit

end HostMonitor.Json
