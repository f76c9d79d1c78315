import HostMonitor.Text.Blank

namespace HostMonitor.Check

def messageLimit : Nat := 1024

def ellipsis : List Char := ['.', '.', '.']

def clip (cs : List Char) : List Char :=
  if messageLimit < cs.length then cs.take messageLimit ++ ellipsis else cs

def message (output : String) : String := String.ofList (clip (Text.trimmed output.toList))

theorem clip_of_length_le {cs : List Char} (h : cs.length ≤ messageLimit) : clip cs = cs := by
  simp [clip, Nat.not_lt.2 h]

theorem length_clip_le (cs : List Char) : (clip cs).length ≤ messageLimit + 3 := by
  unfold clip
  split
  · simp only [List.length_append, List.length_take, ellipsis, List.length_cons, List.length_nil]
    omega
  · omega

end HostMonitor.Check
