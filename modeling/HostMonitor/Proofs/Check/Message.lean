import HostMonitor.Check.Message
import HostMonitor.Proofs.Text.Blank

namespace HostMonitor.Check

open Text (Bare Trims bare_trimmed trim trims_iff trimmed trimmed_of_bare)

variable {cs : List Char} {s t : String}

theorem toList_message (s : String) : (message s).toList = clip (trimmed s.toList) :=
  String.toList_ofList

theorem toList_trim (s : String) : (trim s).toList = trimmed s.toList := String.toList_ofList

theorem clip_of_lt (long : messageLimit < cs.length) :
    clip cs = cs.take messageLimit ++ ellipsis :=
  if_pos long

theorem bare_clip (bare : Bare cs) : Bare (clip cs) := by
  by_cases long : messageLimit < cs.length
  · rw [clip_of_lt long]
    obtain ⟨c, rest, rfl⟩ := List.exists_cons_of_length_pos (Nat.zero_lt_of_lt long)
    constructor
    · exact bare.first
    · rw [List.getLast?_append]
      exact fun d hd => by cases hd; rfl
  · rwa [clip_of_length_le (Nat.le_of_not_lt long)]

/-- A clipped text is longer than the limit, but it is clipped just where it was. -/
theorem clip_clip (cs : List Char) : clip (clip cs) = clip cs := by
  by_cases long : messageLimit < cs.length
  · have kept : (cs.take messageLimit).length = messageLimit :=
      List.length_take_of_le (Nat.le_of_lt long)
    have longer : messageLimit < (cs.take messageLimit ++ ellipsis).length := by
      rw [List.length_append, kept]
      exact Nat.lt_add_of_pos_right (by decide)
    rw [clip_of_lt long, clip_of_lt longer, List.take_left' kept]
  · have short := clip_of_length_le (Nat.le_of_not_lt long)
    rw [short, short]

theorem message_message (s : String) : message (message s) = message s := by
  have bare : Bare (message s).toList := by
    rw [toList_message]
    exact bare_clip (bare_trimmed _)
  rw [message, trimmed_of_bare bare, toList_message, clip_clip]
  rfl

theorem message_eq (s : String) : message s =
    if (trim s).length ≤ 1024 then trim s else .ofList ((trim s).toList.take 1024) ++ "..." := by
  have length : (trimmed s.toList).length = (trim s).length := by
    rw [← toList_trim, String.length_toList]
  rw [← String.toList_inj, toList_message]
  split
  · next short => rw [clip_of_length_le (length ▸ short), toList_trim]
  · next long =>
    rw [clip_of_lt (length ▸ Nat.lt_of_not_le long), String.toList_append, String.toList_ofList,
      toList_trim]
    rfl

def cutAt (t : String) (n : Nat) : String :=
  let cut := t.startPos.nextn n
  if cut = t.endPos then t else (t.sliceTo cut).copy ++ "..."

theorem cutAt_eq (t : String) (n : Nat) :
    cutAt t n = if t.length ≤ n then t else .ofList (t.toList.take n) ++ "..." := by
  have splits := (String.splits_startPos t).nextn n
  rw [String.empty_append] at splits
  have ends : t.startPos.nextn n = t.endPos ↔ t.length ≤ n := by
    rw [splits.eq_endPos_iff, ← String.toList_inj, String.toList_ofList, String.toList_empty,
      List.drop_eq_nil_iff, String.length_toList]
  simp only [cutAt, ends, splits.copy_sliceTo_eq]

/-- The message is the output without the white space around it, or the start of that up to a
character. It begins with no white space, and made into a message again it stays as it is. -/
theorem message_clips_safely (s : String) : ∃ t, (∀ u, Trims s u ↔ u = t) ∧
    message s = (if t.length ≤ 1024 then t else .ofList (t.toList.take 1024) ++ "...") ∧
    message s = cutAt t 1024 ∧ (message s).length ≤ 1027 ∧
    (∀ c ∈ (message s).toList.head?, Text.isBlank c = false) ∧
    message (message s) = message s := by
  refine ⟨trim s, fun u => trims_iff, message_eq s, ?_, ?_, ?_, message_message s⟩
  · rw [cutAt_eq, message_eq]
  · rw [← String.length_toList, toList_message]
    exact length_clip_le _
  · rw [toList_message]
    exact (bare_clip (bare_trimmed _)).first

example : message " \t fine\u2003ü \n" = "fine\u2003ü" := by decide +kernel

end HostMonitor.Check
