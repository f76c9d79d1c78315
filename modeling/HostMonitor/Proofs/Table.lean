import HostMonitor.Proofs.Text.Order

namespace HostMonitor

variable {α : Type} {k : String} {x : α} {es : List (String × α)}

theorem putEntry_of_new (fresh : k ∉ es.map Prod.fst) : putEntry k x es = es ++ [(k, x)] := by
  induction es with
  | nil => rfl
  | cons e es ih =>
    simp only [List.map_cons, List.mem_cons, not_or] at fresh
    rw [putEntry, if_neg (Ne.symm fresh.1), ih fresh.2, List.cons_append]

theorem fresh_of_nodup {before : List (String × α)}
    (distinct : ((before ++ (k, x) :: es).map Prod.fst).Nodup) : k ∉ before.map Prod.fst := by
  rw [List.map_append] at distinct
  intro member
  exact (List.nodup_append.mp distinct).2.2 k member k List.mem_cons_self rfl

theorem mem_putEntry {e : String × α} (member : e ∈ putEntry k x es) : e = (k, x) ∨ e ∈ es := by
  induction es with
  | nil => exact .inl (List.mem_singleton.mp member)
  | cons e' es ih =>
    rw [putEntry] at member
    split at member
    · rcases List.mem_cons.mp member with same | old
      · exact .inl same
      · exact .inr (List.mem_cons_of_mem _ old)
    · rcases List.mem_cons.mp member with same | old
      · exact .inr (same ▸ List.mem_cons_self)
      · exact (ih old).imp_right (List.mem_cons_of_mem _)

theorem nodup_putEntry (distinct : (es.map Prod.fst).Nodup) :
    ((putEntry k x es).map Prod.fst).Nodup :=
  (Table.insert ⟨es, distinct⟩ k x).distinct

theorem lookup_cons (k' : String) :
    List.lookup k' ((k, x) :: es) = if k' = k then some x else es.lookup k' := by
  rw [List.lookup_cons]
  by_cases same : k' = k
  · rw [if_pos same, beq_iff_eq.mpr same]
  · rw [if_neg same, beq_eq_false_iff_ne.mpr same]

theorem lookup_putEntry (k' : String) :
    (putEntry k x es).lookup k' = if k' = k then some x else es.lookup k' := by
  induction es with
  | nil => exact lookup_cons k'
  | cons e es ih =>
    by_cases here : e.1 = k
    · rw [putEntry, if_pos here, lookup_cons, lookup_cons, here]
      by_cases same : k' = k <;> simp [same]
    · rw [putEntry, if_neg here, lookup_cons, lookup_cons, ih]
      by_cases same : k' = k
      · rw [if_pos same, if_pos same, if_neg fun old => here (old.symm.trans same)]
      · rw [if_neg same, if_neg same]

namespace Table

variable {t : Table α}

theorem get?_insert (t : Table α) (k k' : String) (x : α) :
    (t.insert k x).get? k' = if k' = k then some x else t.get? k' :=
  lookup_putEntry k'

theorem ofList_entries (t : Table α) : ofList t.entries = t := by
  have grown (es : List (String × α)) (s : Table α)
      (distinct : ((s.entries ++ es).map Prod.fst).Nodup) :
      (es.foldl (fun t e => t.insert e.1 e.2) s).entries = s.entries ++ es := by
    induction es generalizing s with
    | nil => rw [List.append_nil]; rfl
    | cons e es ih =>
      have inserted : (s.insert e.1 e.2).entries = s.entries ++ [e] :=
        putEntry_of_new (fresh_of_nodup distinct)
      have whole : s.entries ++ e :: es = s.entries ++ [e] ++ es := by simp
      rw [whole] at distinct ⊢
      rw [List.foldl_cons, ih _ (inserted ▸ distinct), inserted]
  exact ext (grown t.entries ∅ t.distinct)

theorem mem_ofList {e : String × α} (member : e ∈ (ofList es).entries) : e ∈ es := by
  have kept (es : List (String × α)) (s : Table α)
      (member : e ∈ (es.foldl (fun t e => t.insert e.1 e.2) s).entries) :
      e ∈ s.entries ∨ e ∈ es := by
    induction es generalizing s with
    | nil => exact .inl member
    | cons e' es ih =>
      rcases ih _ member with old | new
      · rcases mem_putEntry old with rfl | old
        · exact .inr List.mem_cons_self
        · exact .inl old
      · exact .inr (List.mem_cons_of_mem e' new)
  exact (kept es ∅ member).resolve_left List.not_mem_nil

theorem get?_of_mem (member : (k, x) ∈ t.entries) : t.get? k = some x := by
  have distinct := t.distinct
  unfold get?
  generalize t.entries = es at member distinct
  induction es with
  | nil => cases member
  | cons e es ih =>
    simp only [List.map_cons, List.nodup_cons] at distinct
    rcases List.mem_cons.mp member with rfl | member
    · exact List.lookup_cons_self
    · have other : (k == e.1) = false :=
        beq_eq_false_iff_ne.mpr fun same => distinct.1 (same ▸ List.mem_map_of_mem member)
      rw [List.lookup_cons, other]
      exact ih member distinct.2

theorem get?_eq_some_iff : t.get? k = some x ↔ (k, x) ∈ t.entries := by
  constructor
  · intro found
    obtain ⟨before, after, whole, -⟩ := List.lookup_eq_some_iff.mp found
    rw [whole]
    exact List.mem_append_right _ List.mem_cons_self
  · exact get?_of_mem

theorem get?_ofList (distinct : (es.map Prod.fst).Nodup) :
    (ofList es).get? k = some x ↔ (k, x) ∈ es := by
  have whole : ofList es = ⟨es, distinct⟩ := ofList_entries ⟨es, distinct⟩
  rw [whole, get?_eq_some_iff]

end Table

theorem sortEntries_perm (es : List (String × α)) : (sortEntries es).Perm es :=
  List.mergeSort_perm _ _

theorem ascending_sortEntries (distinct : (es.map Prod.fst).Nodup) :
    Text.Ascending ((sortEntries es).map Prod.fst) := by
  have trans (a b c : String × α) (le : nameLE a.1 b.1 = true) (le' : nameLE b.1 c.1 = true) :
      nameLE a.1 c.1 = true := nameLE_trans le le'
  have total (a b : String × α) : (nameLE a.1 b.1 || nameLE b.1 a.1) = true := nameLE_total _ _
  have sorted : (sortEntries es).Pairwise fun a b => nameLE a.1 b.1 = true :=
    List.pairwise_mergeSort trans total es
  exact ascending_of_nameLE (List.pairwise_map.mpr sorted)
    (((sortEntries_perm es).map Prod.fst).nodup_iff.mpr distinct)

end HostMonitor
