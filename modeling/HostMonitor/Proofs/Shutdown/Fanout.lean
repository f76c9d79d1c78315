import HostMonitor.Shutdown.Fanout

namespace HostMonitor.Shutdown.Fanout

variable {f : Fanout} {i j : Nat}

def holds (f : Fanout) (i : Nat) : Bool := f.consumers[i]?.any Consumer.pending

theorem receive_fst : (f.receive i).1 =
    if f.holds i then .signal
    else if f.live && decide (i < f.consumers.length) then .empty else .closed := by
  unfold receive holds
  cases found : f.consumers[i]? with
  | none => simp [List.getElem?_eq_none_iff.mp found]
  | some c =>
    obtain ⟨lt, -⟩ := List.getElem?_eq_some_iff.mp found
    simp only [Consumer.receive, Option.any_some, lt, decide_true, Bool.and_true]
    split <;> rfl

theorem holds_of_signal (heard : (f.receive i).1 = .signal) : f.holds i = true := by
  rw [receive_fst] at heard
  split at heard
  · assumption
  · split at heard <;> cases heard

theorem receive_closed (closed : f.live = false) : (f.receive i).1 ≠ .empty := by
  rw [receive_fst]
  split
  · nofun
  · simp [closed]

@[simp] theorem live_receive : (f.receive i).2.live = f.live := by
  unfold receive
  split <;> rfl

@[simp] theorem length_receive :
    (f.receive i).2.consumers.length = f.consumers.length := by
  unfold receive
  split
  · exact List.length_set
  · rfl

theorem holds_receive_self : (f.receive i).2.holds i = false := by
  unfold receive holds
  cases found : f.consumers[i]? with
  | none => simp [found]
  | some c =>
    obtain ⟨lt, -⟩ := List.getElem?_eq_some_iff.mp found
    simp only [Consumer.receive, List.getElem?_set_self lt, Option.any_some]
    split
    · rfl
    · next quiet => simpa using quiet

theorem holds_receive_of_ne (h : i ≠ j) : (f.receive i).2.holds j = f.holds j := by
  unfold receive
  split
  · simp [holds, List.getElem?_set_ne h]
  · rfl

@[simp] theorem length_broadcast : f.broadcast.1.consumers.length = f.consumers.length := by
  simp [broadcast]

end HostMonitor.Shutdown.Fanout
