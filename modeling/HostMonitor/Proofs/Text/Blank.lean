import HostMonitor.Text.Blank
import Mathlib.Data.List.TakeWhile

namespace HostMonitor.Text

structure Bare (cs : List Char) : Prop where
  first : ∀ c ∈ cs.head?, isBlank c = false
  last : ∀ c ∈ cs.getLast?, isBlank c = false

structure Trims (s t : String) : Prop where
  bare : Bare t.toList
  around : ∃ before after, s.toList = before ++ t.toList ++ after ∧
    ∀ c ∈ before ++ after, isBlank c = true

variable {cs before after : List Char} {s t : String}

theorem dropWhile_blank (blank : ∀ c ∈ before, isBlank c = true) :
    (before ++ cs).dropWhile isBlank = cs.dropWhile isBlank :=
  List.dropWhile_append_of_pos blank

theorem dropWhile_of_head? (first : ∀ c ∈ cs.head?, isBlank c = false) :
    cs.dropWhile isBlank = cs := by
  cases cs with
  | nil => rfl
  | cons c cs => rw [List.dropWhile_cons_of_neg (by simp [first c rfl])]

theorem trimmed_around (bare : Bare cs) (blank : ∀ c ∈ before ++ after, isBlank c = true) :
    trimmed (before ++ cs ++ after) = cs := by
  have front (c) (hc : c ∈ before) : isBlank c = true := blank c (List.mem_append_left _ hc)
  have back (c) (hc : c ∈ after) : isBlank c = true := blank c (List.mem_append_right _ hc)
  rw [trimmed, dropLeading, List.append_assoc, dropWhile_blank front, dropTrailing]
  cases cs with
  | nil =>
    have all : after.dropWhile isBlank = [] := List.dropWhile_eq_nil_iff.mpr back
    simp [all]
  | cons c cs =>
    have leading : ∀ d ∈ (c :: cs ++ after).head?, isBlank d = false := bare.first
    have trailing : ∀ d ∈ (c :: cs).reverse.head?, isBlank d = false := by
      rw [List.head?_reverse]
      exact bare.last
    rw [dropWhile_of_head? leading, List.reverse_append,
      dropWhile_blank fun d hd => back d (List.mem_reverse.mp hd), dropWhile_of_head? trailing,
      List.reverse_reverse]

theorem trimmed_of_bare (bare : Bare cs) : trimmed cs = cs := by
  calc trimmed cs = trimmed ([] ++ cs ++ []) := by rw [List.nil_append, List.append_nil]
    _ = cs := trimmed_around bare nofun

theorem exists_dropWhile (cs : List Char) :
    ∃ before, cs = before ++ cs.dropWhile isBlank ∧ ∀ c ∈ before, isBlank c = true :=
  ⟨cs.takeWhile isBlank, List.takeWhile_append_dropWhile.symm, fun _ => List.mem_takeWhile_imp⟩

theorem exists_dropTrailing (cs : List Char) :
    ∃ after, cs = dropTrailing cs ++ after ∧ ∀ c ∈ after, isBlank c = true := by
  obtain ⟨after, rest, back⟩ := exists_dropWhile cs.reverse
  refine ⟨after.reverse, ?_, fun c hc => back c (List.mem_reverse.mp hc)⟩
  have reversed := congrArg List.reverse rest
  rwa [List.reverse_reverse, List.reverse_append] at reversed

theorem exists_trimmed (cs : List Char) : ∃ before after,
    cs = before ++ trimmed cs ++ after ∧ ∀ c ∈ before ++ after, isBlank c = true := by
  obtain ⟨before, whole, front⟩ := exists_dropWhile cs
  obtain ⟨after, rest, back⟩ := exists_dropTrailing (dropLeading cs)
  refine ⟨before, after, ?_, ?_⟩
  · rw [List.append_assoc]
    exact whole.trans (congrArg (before ++ ·) rest)
  · intro c hc
    exact (List.mem_append.mp hc).elim (front c) (back c)

theorem bare_trimmed (cs : List Char) : Bare (trimmed cs) where
  first c hc := by
    -- What is dropped at the end leaves the first character where it is, if it leaves any.
    obtain ⟨after, rest, -⟩ := exists_dropTrailing (dropLeading cs)
    have leads : (dropLeading cs).head? = some c := by
      rw [rest, ← trimmed, List.head?_append, Option.mem_def.mp hc]
      rfl
    exact head?_dropLeading leads
  last c hc := by
    rw [trimmed, dropTrailing, List.getLast?_reverse] at hc
    exact head?_dropLeading hc

theorem trims_iff : Trims s t ↔ t = trim s := by
  constructor
  · rintro ⟨bare, before, after, whole, blank⟩
    rw [trim, whole, trimmed_around bare blank, String.ofList_toList]
  · rintro rfl
    constructor
    · simpa [trim] using bare_trimmed s.toList
    · simpa [trim] using exists_trimmed s.toList

end HostMonitor.Text
