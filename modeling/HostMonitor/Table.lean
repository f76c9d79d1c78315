namespace HostMonitor

def putEntry {α : Type} (k : String) (x : α) : List (String × α) → List (String × α)
  | [] => [(k, x)]
  | (k', x') :: es => if k' = k then (k, x) :: es else (k', x') :: putEntry k x es

theorem keys_putEntry {α : Type} (k : String) (x : α) (es : List (String × α)) :
    (putEntry k x es).map Prod.fst =
      if k ∈ es.map Prod.fst then es.map Prod.fst else es.map Prod.fst ++ [k] := by
  induction es with
  | nil => simp [putEntry]
  | cons e es ih =>
    obtain ⟨k', x'⟩ := e
    by_cases h : k' = k
    · simp [putEntry, h]
    · have h' : k ≠ k' := fun e => h e.symm
      by_cases hk : k ∈ es.map Prod.fst
      · simp only [putEntry, h, if_false, List.map_cons, ih, hk, if_true, List.mem_cons, h',
          false_or]
      · simp only [putEntry, h, if_false, List.map_cons, ih, hk, List.mem_cons, h', or_self,
          List.cons_append]

structure Table (α : Type) : Type where
  entries : List (String × α)
  distinct : (entries.map Prod.fst).Nodup

namespace Table

variable {α β : Type}

def empty : Table α := ⟨[], List.nodup_nil⟩

instance : EmptyCollection (Table α) := ⟨empty⟩

instance : Inhabited (Table α) := ⟨empty⟩

def names (t : Table α) : List String := t.entries.map Prod.fst

def get? (t : Table α) (k : String) : Option α := t.entries.lookup k

def insert (t : Table α) (k : String) (x : α) : Table α where
  entries := putEntry k x t.entries
  distinct := by
    rw [keys_putEntry]
    split
    · exact t.distinct
    · next h =>
      refine List.nodup_append.2 ⟨t.distinct, by simp, ?_⟩
      intro a ha b hb e
      exact h (List.mem_singleton.1 hb ▸ e ▸ ha)

def ofList (es : List (String × α)) : Table α := es.foldl (fun t e => t.insert e.1 e.2) empty

@[ext] theorem ext {s t : Table α} (h : s.entries = t.entries) : s = t := by
  cases s; cases t; cases h; rfl

end Table

/-- The order of names by their UTF-8 bytes, which is the order of their code points. -/
def nameLE (a b : String) : Bool := !decide (b < a)

def sortEntries {α : Type} (es : List (String × α)) : List (String × α) :=
  es.mergeSort fun a b => nameLE a.1 b.1

end HostMonitor
