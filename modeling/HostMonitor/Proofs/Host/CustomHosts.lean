import HostMonitor.Proofs.Host.Registration
import HostMonitor.Proofs.Table

namespace HostMonitor.Host

open Dialogue (Turn)
open Service (Call)

abbrev Replies : Type := String → Except Service.Error Record

def lookups (replies : Replies) (ks : List String) : Log :=
  ks.map fun k => Turn.asked (.call (.findHostBy k)) (replies k)

def resolved? (k : String) (reply : Except Service.Error Record) : Option (String × Record) :=
  reply.toOption.map fun host => (k, host)

def foundBy (replies : Replies) (ks : List String) : List (String × Record) :=
  ks.filterMap fun k => resolved? k (replies k)

variable {replies replies' : Replies} {j k : String} {ks identifiers identifiers' : List String}
  {host : Record} {found : List (String × Record)} {hosts hosts' : Table Record} {log log' : Log}
  {reply : Except Service.Error Record}

theorem resolved?_eq_some_iff : resolved? k reply = some (j, host) ↔ k = j ∧ reply = .ok host := by
  cases reply <;> simp [resolved?, Except.toOption]

theorem lookups_cons : lookups replies (k :: ks) =
    Turn.asked (.call (.findHostBy k)) (replies k) :: lookups replies ks := rfl

theorem foundBy_cons :
    foundBy replies (k :: ks) = (resolved? k (replies k)).toList ++ foundBy replies ks := by
  cases made : resolved? k (replies k) <;> simp [foundBy, made]

theorem lookups_congr (same : ∀ k ∈ ks, replies k = replies' k) :
    lookups replies ks = lookups replies' ks :=
  List.map_congr_left fun k mem => by rw [same k mem]

theorem foundBy_congr (same : ∀ k ∈ ks, replies k = replies' k) :
    foundBy replies ks = foundBy replies' ks := by
  induction ks with
  | nil => rfl
  | cons k ks ih =>
    obtain ⟨first, rest⟩ := List.forall_mem_cons.mp same
    rw [foundBy_cons, foundBy_cons, first, ih rest]

theorem replied_lookups {reply : (Call.findHostBy k).Reply} :
    (lookups replies ks).Replied (.findHostBy k) reply ↔ k ∈ ks ∧ replies k = reply := by
  constructor
  · intro replied
    obtain ⟨j, mem, same⟩ := List.mem_map.mp replied
    cases same
    exact ⟨mem, rfl⟩
  · rintro ⟨mem, rfl⟩
    exact List.mem_map_of_mem mem

theorem mem_foundBy : (k, host) ∈ foundBy replies ks ↔ k ∈ ks ∧ replies k = .ok host := by
  simp only [foundBy, List.mem_filterMap, resolved?_eq_some_iff]
  constructor
  · rintro ⟨_, mem, rfl, answered⟩
    exact ⟨mem, answered⟩
  · rintro ⟨mem, answered⟩
    exact ⟨k, mem, rfl, answered⟩

theorem nodup_foundBy (distinct : ks.Nodup) : ((foundBy replies ks).map Prod.fst).Nodup := by
  refine List.pairwise_map.mpr (List.Pairwise.filterMap _ ?_ distinct)
  rintro i i' other ⟨j, host⟩ made ⟨j', host'⟩ made'
  obtain ⟨rfl, -⟩ := resolved?_eq_some_iff.mp made
  obtain ⟨rfl, -⟩ := resolved?_eq_some_iff.mp made'
  exact other

theorem leads_resolveEach_cons : (resolveEach (k :: ks)).Leads log found ↔
    ∃ (reply : Except Service.Error Record) (rest : Log) (later : List (String × Record)),
      log = Turn.asked (.call (.findHostBy k)) reply :: rest ∧
      (resolveEach ks).Leads rest later ∧ found = (resolved? k reply).toList ++ later := by
  simp only [resolveEach, call, Dialogue.bind, Dialogue.leads_ask, Dialogue.leads_bind,
    Dialogue.leads_done]
  constructor
  · rintro ⟨reply, _, rfl, later, rest, _, rfl, leads, rfl, rfl⟩
    refine ⟨reply, rest, later, by rw [List.append_nil], leads, ?_⟩
    cases reply <;> rfl
  · rintro ⟨reply, rest, later, rfl, leads, rfl⟩
    refine ⟨reply, rest, rfl, later, rest, [], (List.append_nil _).symm, leads, rfl, ?_⟩
    cases reply <;> rfl

theorem leads_lookups : (resolveEach ks).Leads (lookups replies ks) (foundBy replies ks) := by
  induction ks with
  | nil => exact .done
  | cons k ks ih => exact leads_resolveEach_cons.mpr ⟨replies k, _, _, rfl, ih, foundBy_cons⟩

theorem exists_replies (distinct : ks.Nodup) (leads : (resolveEach ks).Leads log found) :
    ∃ replies, log = lookups replies ks ∧ found = foundBy replies ks := by
  induction ks generalizing log found with
  | nil =>
    obtain ⟨rfl, rfl⟩ := Dialogue.leads_done.mp leads
    exact ⟨fun _ => .error (.notFound ""), rfl, rfl⟩
  | cons k ks ih =>
    obtain ⟨fresh, distinct⟩ := List.nodup_cons.mp distinct
    obtain ⟨reply, _, _, rfl, later, rfl⟩ := leads_resolveEach_cons.mp leads
    obtain ⟨replies, rfl, rfl⟩ := ih distinct later
    -- The first identifier is none of the others, whose replies are kept.
    let replies' : Replies := fun j => if j = k then reply else replies j
    have first : replies' k = reply := if_pos rfl
    have others (j : String) (mem : j ∈ ks) : replies j = replies' j :=
      (if_neg fun (same : j = k) => fresh (same ▸ mem)).symm
    exact ⟨replies', by rw [lookups_cons, first, lookups_congr others],
      by rw [foundBy_cons, first, foundBy_congr others]⟩

theorem mem_distinct : k ∈ distinct identifiers ↔ k ∈ identifiers :=
  List.mem_eraseDups.trans (List.mergeSort_perm _ _).mem_iff

theorem ascending_distinct : Text.Ascending (distinct identifiers) := by
  have trans (a b c : String) (le : nameLE a b = true) (le' : nameLE b c = true) :
      nameLE a c = true := nameLE_trans le le'
  exact ascending_eraseDups (List.pairwise_mergeSort trans nameLE_total identifiers)

theorem nodup_distinct : (distinct identifiers).Nodup := ascending_distinct.nodup

/-- The set of the identifiers is looked up, and the table has the hosts that are found. -/
structure Resolves (identifiers : List String) (replies : Replies) (log : Log)
    (hosts : Table Record) : Prop where
  asked : ∃ ks, Text.Ascending ks ∧ (∀ k, k ∈ ks ↔ k ∈ identifiers) ∧ log = lookups replies ks
  found : ∀ k host, hosts.get? k = some host ↔ k ∈ identifiers ∧ replies k = .ok host

theorem leads_resolveCustom : (resolveCustom identifiers).Leads log hosts ↔
    ∃ found, (resolveEach (distinct identifiers)).Leads log found ∧ hosts = Table.ofList found := by
  simp only [resolveCustom, Dialogue.leads_bind, Dialogue.leads_done]
  constructor
  · rintro ⟨found, log, _, rfl, leads, rfl, rfl⟩
    exact ⟨found, by rwa [List.append_nil], rfl⟩
  · rintro ⟨found, leads, rfl⟩
    exact ⟨found, log, [], (List.append_nil _).symm, leads, rfl, rfl⟩

namespace Resolves

theorem of_replies (identifiers : List String) (replies : Replies) :
    Resolves identifiers replies (lookups replies (distinct identifiers))
      (Table.ofList (foundBy replies (distinct identifiers))) where
  asked := ⟨_, ascending_distinct, fun k => mem_distinct, rfl⟩
  found k host := by
    rw [Table.get?_ofList (nodup_foundBy nodup_distinct), mem_foundBy, mem_distinct]

theorem of_leads (leads : (resolveCustom identifiers).Leads log hosts) :
    ∃ replies, Resolves identifiers replies log hosts := by
  obtain ⟨found, each, rfl⟩ := leads_resolveCustom.mp leads
  obtain ⟨replies, rfl, rfl⟩ := exists_replies nodup_distinct each
  exact ⟨replies, of_replies identifiers replies⟩

theorem get?_eq (resolves : Resolves identifiers replies log hosts) :
    hosts.get? k = some host ↔ log.Replied (.findHostBy k) (.ok host) := by
  obtain ⟨ks, -, members, rfl⟩ := resolves.asked
  rw [resolves.found, ← members, replied_lookups]
  exact .rfl

end Resolves

theorem leads_prepare {r : Registrar} {spec : Spec} {onStart : Option String}
    (leads : (prepare r (.ok spec) onStart identifiers).Leads log (.ok (host, hosts))) :
    ∃ log₁ log₂, log = log₁ ++ log₂ ∧ (r.prepare spec onStart).Leads log₁ (.ok host) ∧
      (resolveCustom identifiers).Leads log₂ hosts := by
  obtain ⟨result, log₁, rest, rfl, registered, next⟩ := Dialogue.leads_bind.mp leads
  cases result with
  | error e => cases (Dialogue.leads_done.mp next).2
  | ok host' =>
    obtain ⟨_, log₂, _, rfl, resolved, last⟩ := Dialogue.leads_bind.mp next
    obtain ⟨rfl, same⟩ := Dialogue.leads_done.mp last
    cases same
    exact ⟨log₁, log₂, by rw [List.append_nil], registered, resolved⟩

/-- The identifiers are resolved as a set, whatever the replies. In two runs in which an identifier
gets the same reply it has the same entry, however the lookups of others end. -/
theorem custom_hosts_resolved_separately (identifiers : List String) :
    (∀ replies, ∃ log hosts, (resolveCustom identifiers).Leads log hosts ∧
      Resolves identifiers replies log hosts) ∧
    (∀ log hosts, (resolveCustom identifiers).Leads log hosts →
      ∃ replies, Resolves identifiers replies log hosts) ∧
    (∀ identifiers', (∀ k, k ∈ identifiers' ↔ k ∈ identifiers) →
      resolveCustom identifiers' = resolveCustom identifiers) ∧
    (∀ (log log' : Log) hosts hosts' k, (resolveCustom identifiers).Leads log hosts →
      (resolveCustom identifiers).Leads log' hosts' →
      (∀ reply, log.Replied (.findHostBy k) reply ↔ log'.Replied (.findHostBy k) reply) →
      hosts.get? k = hosts'.get? k) ∧
    ∀ r spec onStart log host hosts,
      (prepare r (.ok spec) onStart identifiers).Leads log (.ok (host, hosts)) →
      ∃ log₁ log₂, log = log₁ ++ log₂ ∧ (r.prepare spec onStart).Leads log₁ (.ok host) ∧
        (resolveCustom identifiers).Leads log₂ hosts := by
  refine ⟨fun replies => ⟨_, _, leads_resolveCustom.mpr ⟨_, leads_lookups, rfl⟩, .of_replies ..⟩,
    fun log hosts => Resolves.of_leads, fun identifiers' same => ?_, ?_,
    fun r spec onStart log host hosts => leads_prepare⟩
  · have sets : distinct identifiers' = distinct identifiers := by
      refine ascending_distinct.ext ascending_distinct fun k => ?_
      rw [mem_distinct, mem_distinct, same]
    rw [resolveCustom, sets, resolveCustom]
  · intro log log' hosts hosts' k leads leads' same
    obtain ⟨_, resolves⟩ := Resolves.of_leads leads
    obtain ⟨_, resolves'⟩ := Resolves.of_leads leads'
    exact Option.ext fun host => by rw [resolves.get?_eq, resolves'.get?_eq, same]

def Replies.trial (e : Service.Error) : Replies := fun k =>
  if k = "db" then .ok Record.trial else .error e

theorem trial_custom_hosts_resolved :
    (∃ replies, Resolves ["web", "db", "db"] replies
      (lookups (.trial (.notFound "")) ["db", "web"]) (.ofList [("db", Record.trial)])) ∧
    resolveCustom ["db", "web"] = resolveCustom ["web", "db", "db"] ∧
    ∀ e hosts, (resolveCustom ["db", "web"]).Leads (lookups (.trial e) ["db", "web"]) hosts →
      hosts.get? "db" = some Record.trial := by
  have ascending : Text.Ascending ["db", "web"] := by
    unfold Text.Ascending
    decide +kernel
  have names : distinct ["web", "db", "db"] = ["db", "web"] :=
    ascending_distinct.ext ascending fun k => by simp [mem_distinct, or_comm]
  have leads : (resolveCustom ["web", "db", "db"]).Leads
      (lookups (.trial (.notFound "")) ["db", "web"]) (.ofList [("db", Record.trial)]) := by
    rw [leads_resolveCustom, names]
    exact ⟨_, leads_lookups, rfl⟩
  obtain ⟨-, resolved, permuted, separately, -⟩ :=
    custom_hosts_resolved_separately ["web", "db", "db"]
  have same := permuted ["db", "web"] fun k => by simp [or_comm]
  refine ⟨resolved _ _ leads, same, fun e hosts fails => ?_⟩
  rw [separately _ _ _ _ "db" (same ▸ fails) leads fun reply => ?_]
  · rfl
  · rw [replied_lookups, replied_lookups]
    rfl

end HostMonitor.Host
