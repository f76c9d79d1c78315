import HostMonitor.Metric.Delta
import HostMonitor.Proofs.Table
import Mathlib

namespace HostMonitor.Metric

def countersOf (name : String) (os : List (String × Nat)) : List Nat :=
  (os.filter fun o => o.1 = name).map Prod.snd

def answersTo (name : String) (os : List (String × Nat)) (ds : List Nat) : List Nat :=
  ((os.zip ds).filter fun x => x.1.1 = name).map Prod.snd

def rises : List Nat → List Int
  | c :: c' :: cs => max ((c' : Int) - c) 0 :: rises (c' :: cs)
  | _ => []

/-- What is found for the counters of one name. -/
structure Telescopes (cs ds : List Nat) : Prop where
  length : ds.length = cs.length
  first : ∀ d ∈ ds.head?, d = 0
  next : ∀ (i c c' : Nat), cs[i]? = some c → cs[i + 1]? = some c' →
    ∃ d, ds[i + 1]? = some d ∧ (c ≤ c' → c + d = c') ∧ (c' < c → d = 0)
  bounded : ∀ (i c d : Nat), cs[i]? = some c → ds[i]? = some d → d ≤ c
  sum : (ds.sum : Int) = (rises cs).sum
  least : ∀ a b, cs.head? = some a → cs.getLast? = some b → (b : Int) - a ≤ ds.sum
  exact_iff : ∀ a b, cs.head? = some a → cs.getLast? = some b →
    ((ds.sum : Int) = b - a ↔ cs.IsChain (· ≤ ·))

def growths (last : Option Nat) : List Nat → List Nat
  | [] => []
  | c :: cs => (c - last.getD c) :: growths (some c) cs

variable {last : Option Nat} {a b c d i : Nat} {cs : List Nat} {name : String}
  {os : List (String × Nat)}

theorem answersTo_deltas (seen : Counters) :
    answersTo name os (seen.deltas os) = growths (seen.get? name) (countersOf name os) := by
  induction os generalizing seen with
  | nil => rfl
  | cons o os ih =>
    have rest := ih (seen.insert o.1 o.2)
    rw [Table.get?_insert] at rest
    by_cases same : o.1 = name
    · subst same
      rw [if_pos rfl] at rest
      simpa [answersTo, countersOf, Counters.deltas, Counters.advance, growths] using rest
    · rw [if_neg (Ne.symm same)] at rest
      simpa [answersTo, countersOf, Counters.deltas, Counters.advance, same] using rest

theorem length_deltas (seen : Counters) : (seen.deltas os).length = os.length := by
  induction os generalizing seen with
  | nil => rfl
  | cons o os ih => exact congrArg (· + 1) (ih _)

theorem answersTo_own (own : ∀ o ∈ os, o.1 = name) {ds : List Nat} (all : ds.length = os.length) :
    answersTo name os ds = ds := by
  have every : (os.zip ds).filter (fun x => x.1.1 = name) = os.zip ds :=
    List.filter_eq_self.mpr fun x hx => by simpa using own x.1 (List.of_mem_zip hx).1
  rw [answersTo, every, List.map_snd_zip (Nat.le_of_eq all)]

theorem answersTo_deltas_filter (seen : Counters) :
    answersTo name os (seen.deltas os) = seen.deltas (os.filter fun o => o.1 = name) := by
  have own : ∀ o ∈ os.filter fun o => o.1 = name, o.1 = name := fun o ho => by
    simpa using (List.mem_filter.mp ho).2
  rw [← answersTo_own own (length_deltas seen), answersTo_deltas, answersTo_deltas, countersOf,
    countersOf, List.filter_filter]
  simp

theorem length_growths : (growths last cs).length = cs.length := by
  induction cs generalizing last with
  | nil => rfl
  | cons c cs ih => exact congrArg (· + 1) ih

theorem getElem?_growths_succ (here : cs[i]? = some a) (next : cs[i + 1]? = some b) :
    (growths last cs)[i + 1]? = some (b - a) := by
  induction cs generalizing i last with
  | nil => cases here
  | cons c cs ih =>
    cases i with
    | succ i => exact ih here next
    | zero =>
      obtain ⟨cs, rfl⟩ : ∃ rest, cs = b :: rest := by
        cases cs with
        | nil => cases next
        | cons c' rest => exact ⟨rest, by cases next; rfl⟩
      cases here
      rfl

theorem le_of_getElem?_growths (here : cs[i]? = some c) (found : (growths last cs)[i]? = some d) :
    d ≤ c := by
  induction cs generalizing i last with
  | nil => cases here
  | cons c' cs ih =>
    cases i with
    | succ i => exact ih here found
    | zero =>
      cases here
      cases found
      exact Nat.sub_le _ _

theorem sum_growths : ((growths (some c) cs).sum : Int) = (rises (c :: cs)).sum := by
  induction cs generalizing c with
  | nil => rfl
  | cons c' cs ih =>
    have rise : ((c' - c : Nat) : Int) = max ((c' : Int) - c) 0 := by omega
    rw [growths, rises, List.sum_cons, List.sum_cons, Nat.cast_add, ih, Option.getD_some, rise]

theorem getLast?_le_add_sum (ends : (c :: cs).getLast? = some b) :
    b ≤ c + (growths (some c) cs).sum := by
  induction cs generalizing c with
  | nil => simp_all [growths]
  | cons c' cs ih =>
    have below := ih (by simpa using ends)
    rw [growths, List.sum_cons, Option.getD_some]
    omega

theorem add_sum_eq_iff (ends : (c :: cs).getLast? = some b) :
    c + (growths (some c) cs).sum = b ↔ (c :: cs).IsChain (· ≤ ·) := by
  induction cs generalizing c with
  | nil => simp_all [growths]
  | cons c' cs ih =>
    have ends' : (c' :: cs).getLast? = some b := by simpa using ends
    have below := getLast?_le_add_sum ends'
    rw [growths, List.sum_cons, Option.getD_some, List.isChain_cons_cons, ← ih ends']
    omega

theorem telescopes_growths : Telescopes cs (growths none cs) where
  length := length_growths
  first := by
    cases cs with
    | nil => nofun
    | cons c cs => simp [growths]
  next i c c' here next := by
    refine ⟨c' - c, getElem?_growths_succ here next, ?_, ?_⟩ <;> omega
  bounded _ _ _ := le_of_getElem?_growths
  sum := by
    cases cs with
    | nil => rfl
    | cons c cs => simpa [growths] using sum_growths
  least a b starts ends := by
    cases cs with
    | nil => cases starts
    | cons c cs =>
      cases starts
      have below := getLast?_le_add_sum ends
      simp only [growths, Option.getD_none, Nat.sub_self, List.sum_cons, Nat.zero_add]
      omega
  exact_iff a b starts ends := by
    cases cs with
    | nil => cases starts
    | cons c cs =>
      cases starts
      rw [← add_sum_eq_iff ends]
      simp only [growths, Option.getD_none, Nat.sub_self, List.sum_cons, Nat.zero_add]
      omega

/-- However the observations of several names are mixed, what is found for one of them is what its
own counters give, and telescopes. -/
theorem deltas_telescope (name : String) (os : List (String × Nat)) :
    (Counters.deltas ∅ os).length = os.length ∧
    answersTo name os (Counters.deltas ∅ os) =
      Counters.deltas ∅ (os.filter fun o => o.1 = name) ∧
    Telescopes (countersOf name os) (answersTo name os (Counters.deltas ∅ os)) := by
  refine ⟨length_deltas ∅, answersTo_deltas_filter ∅, ?_⟩
  rw [answersTo_deltas]
  exact telescopes_growths

example : Counters.deltas ∅
    [("eth0", 1000), ("eth1", 7), ("eth0", 1500), ("eth0", 10), ("eth1", 9), ("eth0", 30)] =
      [0, 0, 500, 0, 2, 20] := by
  decide

end HostMonitor.Metric
