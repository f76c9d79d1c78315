import HostMonitor.Proofs.Machine
import HostMonitor.Proofs.Shutdown.Fanout

namespace HostMonitor.Shutdown.Fanout

inductive Event : Type
  | register
  | broadcast
  | receive (i : Nat)
  | leave (i : Nat)
  | drop
  deriving DecidableEq

inductive Effect : Type
  | registered (i : Nat)
  | reached (n : Nat)
  | heard (r : Reception)
  deriving DecidableEq

def attends (f : Fanout) (i : Nat) : Bool := f.consumers[i]?.any Consumer.present

def pending (f : Fanout) (i : Nat) : Nat := (f.holds i).toNat

def step (_ : Moment) (f : Fanout) : Event → Option (Fanout × List Effect)
  | .register => if f.live then some (f.register.1, [.registered f.register.2]) else none
  | .broadcast => if f.live then some (f.broadcast.1, [.reached f.broadcast.2]) else none
  | .receive i =>
    if f.attends i then some ((f.receive i).2, [.heard (f.receive i).1]) else none
  | .leave i => if f.attends i then some (f.leave i, []) else none
  | .drop => if f.live then some (f.close, []) else none

inductive Move (f : Fanout) : Event → List Effect → Fanout → Prop
  | register : f.live = true → Move f .register [.registered f.register.2] f.register.1
  | broadcast : f.live = true → Move f .broadcast [.reached f.broadcast.2] f.broadcast.1
  | receive : f.attends i = true →
      Move f (.receive i) [.heard (f.receive i).1] (f.receive i).2
  | leave : f.attends i = true → Move f (.leave i) [] (f.leave i)
  | drop : f.live = true → Move f .drop [] f.close

abbrev Transition : Type := Machine.Transition Fanout Event Effect

abbrev History : Type := Machine.History Fanout Event Effect

abbrev Run : Fanout → History → Fanout → Prop := Machine.Run step

variable {f g : Fanout} {i j : Nat} {e : Event} {effects : List Effect} {h k : History}
  {x y : Transition} {now : Moment}

theorem move_of_step (made : f.step now e = some (g, effects)) : Move f e effects g := by
  cases e with
  | register =>
    obtain ⟨live, made⟩ := Option.ite_none_right_eq_some.mp made
    cases made
    exact .register live
  | broadcast =>
    obtain ⟨live, made⟩ := Option.ite_none_right_eq_some.mp made
    cases made
    exact .broadcast live
  | receive i =>
    obtain ⟨here, made⟩ := Option.ite_none_right_eq_some.mp made
    cases made
    exact .receive here
  | leave i =>
    obtain ⟨here, made⟩ := Option.ite_none_right_eq_some.mp made
    cases made
    exact .leave here
  | drop =>
    obtain ⟨live, made⟩ := Option.ite_none_right_eq_some.mp made
    cases made
    exact .drop live

theorem Run.keeps {P : History → Fanout → Prop} (run : Run f h g) (start : P [] f)
    (keep : ∀ {h now f e effects g}, P h f → Move f e effects g →
      P (h ++ [⟨f, now, e, effects, g⟩]) g) : P h g :=
  run.invariant start fun _ held made => keep held (move_of_step made)

theorem holds_of_length_le (beyond : f.consumers.length ≤ i) : f.holds i = false := by
  rw [holds, List.getElem?_eq_none beyond]
  rfl

theorem attends_of_length_le (beyond : f.consumers.length ≤ i) : f.attends i = false := by
  rw [attends, List.getElem?_eq_none beyond]
  rfl

theorem lt_of_attends (here : f.attends i = true) : i < f.consumers.length := by
  rcases Nat.lt_or_ge i f.consumers.length with before | beyond
  · exact before
  · rw [attends_of_length_le beyond] at here
    cases here

@[simp] theorem length_register :
    f.register.1.consumers.length = f.consumers.length + 1 := by
  simp [register]

@[simp] theorem length_leave : (f.leave j).consumers.length = f.consumers.length := by
  simp [leave]

@[simp] theorem holds_register : f.register.1.holds i = f.holds i := by
  simp only [holds, register, List.getElem?_append]
  split
  · rfl
  · next beyond =>
    rw [List.getElem?_eq_none (Nat.le_of_not_lt beyond)]
    cases i - f.consumers.length <;> rfl

@[simp] theorem attends_register :
    f.register.1.attends i = (f.attends i || decide (i = f.consumers.length)) := by
  simp only [attends, register, List.getElem?_append]
  split
  · next before => simp [Nat.ne_of_lt before]
  · next beyond =>
    rw [List.getElem?_eq_none (Nat.le_of_not_lt beyond)]
    rcases Nat.eq_or_lt_of_le (Nat.le_of_not_lt beyond) with rfl | after
    · simp [Consumer.fresh]
    · have : i - f.consumers.length ≠ 0 := by omega
      simp [this, Nat.ne_of_gt after]

@[simp] theorem holds_broadcast : f.broadcast.1.holds i = (f.holds i || f.attends i) := by
  cases found : f.consumers[i]? <;> simp [holds, attends, broadcast, Consumer.hand, found]

@[simp] theorem attends_broadcast : f.broadcast.1.attends i = f.attends i := by
  cases found : f.consumers[i]? <;> simp [attends, broadcast, Consumer.hand, found]

@[simp] theorem attends_receive : (f.receive j).2.attends i = f.attends i := by
  unfold receive attends
  cases found : f.consumers[j]? with
  | none => rfl
  | some c =>
    have kept : (c.receive f.live).2.present = c.present := by
      unfold Consumer.receive
      split <;> rfl
    by_cases same : j = i
    · subst same
      obtain ⟨lt, -⟩ := List.getElem?_eq_some_iff.mp found
      simp [found, List.getElem?_set_self lt, kept]
    · simp [List.getElem?_set_ne same]

theorem holds_receive : (f.receive j).2.holds i = (f.holds i && decide (j ≠ i)) := by
  by_cases same : j = i
  · subst same
    simp [holds_receive_self]
  · simp [holds_receive_of_ne same, same]

@[simp] theorem holds_leave : (f.leave j).holds i = (f.holds i && decide (j ≠ i)) := by
  by_cases same : j = i
  · subst same
    cases found : f.consumers[j]? <;> simp [holds, leave, found, Consumer.leave]
  · simp [holds, leave, List.getElem?_modify_ne, same]

@[simp] theorem attends_leave : (f.leave j).attends i = (f.attends i && decide (j ≠ i)) := by
  by_cases same : j = i
  · subst same
    cases found : f.consumers[j]? <;> simp [attends, leave, found, Consumer.leave]
  · simp [attends, leave, List.getElem?_modify_ne, same]

@[simp] theorem holds_close : f.close.holds i = f.holds i := rfl

@[simp] theorem attends_close : f.close.attends i = f.attends i := rfl

@[simp] theorem length_close : f.close.consumers.length = f.consumers.length := rfl

inductive Concern : Type
  | broadcast
  | drop
  | receive
  deriving DecidableEq

def Effect.heard? : Effect → Option Reception
  | .heard r => some r
  | _ => none

def Event.concern? (i : Nat) : Event → Option Concern
  | .broadcast => some .broadcast
  | .drop => some .drop
  | .receive j => if j = i then some .receive else none
  | _ => none

namespace Transition

def knows (x : Transition) (i : Nat) : Bool := i < x.source.consumers.length

def heard (x : Transition) (i : Nat) : List Reception :=
  if x.event = .receive i then x.effects.filterMap Effect.heard? else []

def concern? (x : Transition) (i : Nat) : Option Concern :=
  if knows x i then x.event.concern? i else none

end Transition

namespace History

def registrations (h : History) : Nat := h.countP fun x => x.event = .register

def present (h : History) : List Nat :=
  (List.range (registrations h)).filter fun i => h.all fun x => x.event ≠ .leave i

def heard (h : History) (i : Nat) : List Reception := h.flatMap (Transition.heard · i)

def received (h : History) (i : Nat) : Nat := (heard h i).count .signal

def concerns (h : History) (i : Nat) : List Concern := h.filterMap (Transition.concern? · i)

def broadcasts (h : History) (i : Nat) : Nat := (concerns h i).count .broadcast

@[simp] theorem heard_append : heard (h ++ k) i = heard h i ++ heard k i := List.flatMap_append

@[simp] theorem heard_singleton : heard [x] i = Transition.heard x i := by simp [heard]

@[simp] theorem registrations_append :
    registrations (h ++ k) = registrations h + registrations k := by
  simp [registrations]

@[simp] theorem concerns_append :
    concerns (h ++ k) i = concerns h i ++ concerns k i := List.filterMap_append

@[simp] theorem concerns_singleton :
    concerns [x] i = (Transition.concern? x i).toList := by
  cases concern : Transition.concern? x i <;> simp [concerns, concern]

end History

theorem Run.live_iff (run : Run f h g) :
    g.live = true ↔ f.live = true ∧ ∀ x ∈ h, x.event ≠ .drop := by
  refine run.keeps (P := fun h g => g.live = true ↔ f.live = true ∧ ∀ x ∈ h, x.event ≠ .drop)
    (by simp) fun ih move => ?_
  cases move with
  | drop => simp [close]
  | receive => simpa [or_imp, forall_and] using ih
  | _ => simpa [or_imp, forall_and, register, broadcast, leave] using ih

theorem Run.length_eq (run : Run f h g) :
    g.consumers.length = f.consumers.length + h.registrations := by
  refine run.keeps (P := fun h g => g.consumers.length = f.consumers.length + h.registrations)
    rfl fun ih move => ?_
  cases move with
  | register => simp [ih, History.registrations, Nat.add_assoc]
  | _ => simp [ih, History.registrations, close]

theorem Move.attended (move : Move f (.leave i) effects g) : f.attends i = true := by
  cases move
  assumption

theorem Move.length_le (move : Move f e effects g) :
    f.consumers.length ≤ g.consumers.length := by
  cases move <;> simp

theorem Run.lt_of_left (run : Run f h g) (hx : x ∈ h) (left : x.event = .leave i) :
    i < g.consumers.length := by
  obtain ⟨h₁, h₂, rfl⟩ := List.append_of_mem hx
  obtain ⟨before, made, -⟩ := run.parts
  have move := move_of_step made
  rw [left] at move
  have here := lt_of_attends move.attended
  have earlier := Run.length_eq before
  have total := run.length_eq
  rw [History.registrations_append] at total
  omega

theorem History.mem_present :
    i ∈ present h ↔ i < registrations h ∧ ∀ x ∈ h, x.event ≠ .leave i := by
  simp [present]

theorem Run.attends_iff (run : Run start h f) : f.attends i = true ↔ i ∈ h.present := by
  refine run.invariant (P := fun h f => f.attends i = true ↔ i ∈ History.present h)
    (by simp [History.mem_present, start, attends, History.registrations])
    fun {h f now e effects g} run ih made => ?_
  have length : f.consumers.length = History.registrations h :=
    (Run.length_eq run).trans (Nat.zero_add _)
  rw [History.mem_present] at ih ⊢
  cases move_of_step made with
  | register =>
    -- The new consumer had no chance to leave yet.
    have unknown : i = f.consumers.length → ∀ x ∈ h, x.event ≠ .leave i := fun same x hx left =>
      absurd (Run.lt_of_left run hx left) (by omega)
    simp only [attends_register, Bool.or_eq_true, decide_eq_true_eq, ih, length] at unknown ⊢
    simp only [History.registrations_append, List.mem_append, List.mem_singleton, or_imp,
      forall_and, forall_eq, ne_eq, reduceCtorEq, not_false_eq_true, and_true]
    simp only [History.registrations, List.countP_singleton, decide_true, if_true]
    constructor
    · rintro (⟨before, kept⟩ | rfl)
      · exact ⟨by omega, kept⟩
      · exact ⟨by omega, unknown rfl⟩
    · rintro ⟨before, kept⟩
      rcases Nat.lt_succ_iff_lt_or_eq.mp before with before | same
      · exact .inl ⟨before, kept⟩
      · exact .inr same
  | leave =>
    simp [ih, or_imp, forall_and, History.registrations, and_assoc]
  | _ => simp [ih, or_imp, forall_and, History.registrations]

theorem length_filter_range (l : List α) (p : α → Bool) :
    ((List.range l.length).filter fun i => l[i]?.any p).length = l.countP p := by
  have places : (List.range l.length).map (l[·]?) = l.map some := by
    refine List.ext_getElem? fun i => ?_
    rcases Nat.lt_or_ge i l.length with lt | ge
    · simp [lt]
    · simp [ge]
  calc
    _ = ((List.range l.length).map (l[·]?)).countP (Option.any p) := by
      rw [← List.countP_eq_length_filter, List.countP_map]
      rfl
    _ = l.countP p := by
      rw [places, List.countP_map]
      rfl

theorem Run.reached (run : Run start h f) : f.broadcast.2 = h.present.length := by
  have length : f.consumers.length = h.registrations :=
    run.length_eq.trans (Nat.zero_add _)
  have same : h.present = (List.range f.consumers.length).filter f.attends := by
    rw [length]
    refine List.filter_congr fun i known => ?_
    rw [Bool.eq_iff_iff, run.attends_iff, History.mem_present]
    simp [List.mem_range.mp known]
  rw [same]
  exact (length_filter_range f.consumers Consumer.present).symm

theorem Move.holds_eq (move : Move f e effects g) : g.holds i =
    ((f.holds i || decide (e = .broadcast) && f.attends i) && decide (e ≠ .receive i) &&
      decide (e ≠ .leave i)) := by
  cases move <;> simp [holds_receive]

theorem Run.waits (run : Run f h g) (pending : f.holds i = true)
    (kept : ∀ x ∈ h, x.event ≠ .receive i ∧ x.event ≠ .leave i) : g.holds i = true := by
  refine run.keeps (P := fun h g => (∀ x ∈ h, x.event ≠ .receive i ∧ x.event ≠ .leave i) →
    g.holds i = true) (fun _ => pending) (fun {h now f e effects g} ih move kept => ?_) kept
  have before := ih fun x hx => kept x (by simp [hx])
  obtain ⟨asked, left⟩ := kept ⟨f, now, e, effects, g⟩ (by simp)
  rw [move.holds_eq, before]
  simp [asked, left]

theorem Run.still (run : Run f h g) (nothing : f.holds i = false)
    (quiet : ∀ x ∈ h, x.event ≠ .broadcast) : g.holds i = false := by
  refine run.keeps (P := fun h g => (∀ x ∈ h, x.event ≠ .broadcast) → g.holds i = false)
    (fun _ => nothing) (fun {h now f e effects g} ih move quiet => ?_) quiet
  have before := ih fun x hx => quiet x (by simp [hx])
  have other := quiet ⟨f, now, e, effects, g⟩ (by simp)
  rw [move.holds_eq, before]
  simp [other]

theorem Transition.heard_receive : Transition.heard ⟨f, now, .receive j, [.heard r], g⟩ i =
    if j = i then [r] else [] := by
  simp [Transition.heard, Effect.heard?]

theorem receive_eq_signal (here : f.attends i = true) :
    (f.receive i).1 = if f.holds i then .signal else if f.live then .empty else .closed := by
  rw [receive_fst, decide_eq_true (lt_of_attends here), Bool.and_true]

theorem Move.asked (move : Move f (.receive i) effects g) :
    f.attends i = true ∧ effects = [.heard (f.receive i).1] := by
  cases move
  exact ⟨‹_›, rfl⟩

theorem Transition.heard_of_asked (made : x.Made step) (asked : x.event = .receive i) :
    x.source.attends i = true ∧ Transition.heard x i =
      [if x.source.holds i then .signal else if x.source.live then .empty else .closed] := by
  have move := move_of_step made
  rw [asked] at move
  obtain ⟨here, effects⟩ := move.asked
  refine ⟨here, ?_⟩
  rw [heard, if_pos asked, effects, ← receive_eq_signal here]
  rfl

theorem Transition.holds_of_receipt (made : x.Made step)
    (receipt : Transition.heard x i = [.signal]) :
    x.source.holds i = true ∧ x.target.holds i = false := by
  by_cases asked : x.event = .receive i
  · have holds := (move_of_step made).holds_eq (i := i)
    rw [asked] at holds
    refine ⟨?_, by simpa using holds⟩
    rw [(heard_of_asked made asked).2] at receipt
    cases pending : x.source.holds i with
    | true => rfl
    | false => cases live : x.source.live <;> simp [pending, live] at receipt
  · simp [heard, asked] at receipt

theorem Run.attends_of_holds (run : Run start h f) (pending : f.holds i = true) :
    f.attends i = true := by
  refine run.keeps (P := fun _ f => f.holds i = true → f.attends i = true)
    nofun (fun {h now f e effects g} ih move pending => ?_) pending
  rw [move.holds_eq] at pending
  cases move with
  | broadcast => simpa [or_iff_right_of_imp ih] using pending
  | _ => simp_all

/-- After the drop a consumer gets what is pending first, if it is, and then only sees the end. -/
def Final (pending : Bool) (rs : List Reception) : Prop :=
  rs = [] ∨ ∃ n, rs = (if pending then .signal else .closed) :: List.replicate n .closed

theorem Run.final (run : Run f h g) (dropped : f.live = false) :
    Final (f.holds i) (h.heard i) := by
  -- Until the consumer asks, what is pending stays so; afterwards nothing is.
  have kept : g.live = false ∧
      ((h.heard i = [] ∧ (g.attends i = true → g.holds i = f.holds i)) ∨
        ∃ n, h.heard i = (if f.holds i then .signal else .closed) :: List.replicate n .closed ∧
          g.holds i = false) := by
    refine run.keeps (P := fun h g => g.live = false ∧
      ((History.heard h i = [] ∧ (g.attends i = true → g.holds i = f.holds i)) ∨
        ∃ n, History.heard h i = (if f.holds i then .signal else .closed) ::
          List.replicate n .closed ∧ g.holds i = false))
      ⟨dropped, .inl ⟨rfl, fun _ => rfl⟩⟩ fun {h now g e effects f'} ⟨dead, ih⟩ move => ?_
    cases move with
    | register live | broadcast live | drop live => simp [dead] at live
    | @leave j here =>
      refine ⟨dead, ?_⟩
      rcases ih with ⟨nothing, same⟩ | ⟨n, heard, none⟩
      · refine .inl ⟨by simp [nothing, Transition.heard], fun here => ?_⟩
        simp only [attends_leave, Bool.and_eq_true] at here
        rw [holds_leave, here.2, Bool.and_true]
        exact same here.1
      · exact .inr ⟨n, by simp [heard, Transition.heard], by simp [none]⟩
    | @receive j here =>
      refine ⟨live_receive.trans dead, ?_⟩
      by_cases same : j = i
      · subst same
        rw [History.heard_append, History.heard_singleton, Transition.heard_receive, if_pos rfl,
          receive_eq_signal here, dead, holds_receive_self]
        rcases ih with ⟨nothing, same⟩ | ⟨n, heard, none⟩
        · exact .inr ⟨0, by simp [nothing, same here], rfl⟩
        · exact .inr ⟨n + 1, by simp [heard, none, List.replicate_succ'], rfl⟩
      · rw [History.heard_append, History.heard_singleton, Transition.heard_receive, if_neg same,
          List.append_nil, attends_receive, holds_receive_of_ne same]
        exact ih
  rcases kept.2 with ⟨nothing, -⟩ | ⟨n, heard, -⟩
  · exact .inl nothing
  · exact .inr ⟨n, heard⟩

/-- A consumer that knows of nothing but its own concerns. -/
structure Ear : Type where
  pending : Bool
  live : Bool
  heard : List Reception

namespace Ear

def fresh : Ear := ⟨false, true, []⟩

def mind (r : Ear) : Concern → Ear
  | .broadcast => { r with pending := true }
  | .drop => { r with live := false }
  | .receive => { r with
      pending := false
      heard := r.heard ++ [if r.pending then .signal else if r.live then .empty else .closed] }

def of (cs : List Concern) : Ear := cs.foldl mind fresh

@[simp] theorem of_append {cs : List Concern} {c : Concern} : of (cs ++ [c]) = (of cs).mind c := by
  simp [of]

theorem received_foldl_le (cs : List Concern) (r : Ear) :
    (cs.foldl mind r).heard.count .signal + (cs.foldl mind r).pending.toNat ≤
      r.heard.count .signal + r.pending.toNat + cs.count .broadcast := by
  induction cs generalizing r with
  | nil => exact Nat.le_refl _
  | cons c cs ih =>
    refine Nat.le_trans (ih _) ?_
    cases c with
    | broadcast =>
      simp only [mind, List.count_cons_self, Bool.toNat_true]
      omega
    | drop => simp [mind]
    | receive =>
      obtain ⟨pending, live, heard⟩ := r
      cases pending <;> cases live <;> simp [mind]

/-- The consumer at this place has heard what it would hear by itself. -/
structure Fits (r : Ear) (h : History) (f : Fanout) (i : Nat) : Prop where
  heard : r.heard = h.heard i
  live : r.live = f.live
  pending : f.attends i = true → r.pending = f.holds i

theorem Fits.move {r : Ear} (fits : r.Fits h f i) (known : i < f.consumers.length)
    (move : Move f e effects g) :
    ((e.concern? i).toList.foldl mind r).Fits (h ++ [⟨f, now, e, effects, g⟩]) g i := by
  obtain ⟨heard, live, pending⟩ := fits
  have holds := move.holds_eq (i := i)
  cases move with
  | register running =>
    refine ⟨by simpa [Transition.heard, Event.concern?, mind] using heard, live, fun here => ?_⟩
    rw [attends_register, decide_eq_false (Nat.ne_of_lt known), Bool.or_false] at here
    exact (pending here).trans holds_register.symm
  | broadcast running =>
    refine ⟨by simpa [Transition.heard, Event.concern?, mind] using heard, live, fun here => ?_⟩
    rw [attends_broadcast] at here
    rw [holds_broadcast, here, Bool.or_true]
    rfl
  | @receive j here =>
    by_cases same : j = i
    · subst same
      have mine : (Event.receive j).concern? j = some .receive := if_pos rfl
      rw [mine]
      refine ⟨?_, live.trans live_receive.symm, fun _ => holds_receive_self.symm⟩
      simp only [Option.toList_some, List.foldl_cons, List.foldl_nil, mind,
        History.heard_append, History.heard_singleton, heard, pending here, live]
      rw [Transition.heard_receive, if_pos rfl, receive_eq_signal here]
    · have other : (Event.receive j).concern? i = none := if_neg same
      rw [other]
      refine ⟨?_, live.trans live_receive.symm, fun here => ?_⟩
      · simpa [Transition.heard_receive, same] using heard
      · rw [attends_receive] at here
        exact (pending here).trans (holds_receive_of_ne same).symm
  | @leave j here =>
    refine ⟨by simpa [Transition.heard, Event.concern?, mind] using heard, live, fun here => ?_⟩
    simp only [attends_leave, Bool.and_eq_true] at here
    rw [holds_leave, here.2, Bool.and_true]
    exact pending here.1
  | drop running =>
    exact ⟨by simpa [Transition.heard, Event.concern?, mind] using heard, rfl, pending⟩

theorem unconcerned (run : Run start h f) (unknown : f.consumers.length ≤ i) :
    h.concerns i = [] ∧ h.heard i = [] := by
  refine run.keeps (P := fun h f => f.consumers.length ≤ i → History.concerns h i = [] ∧
    History.heard h i = []) (fun _ => ⟨rfl, rfl⟩) (fun {h now f e effects g} ih move unknown => ?_)
    unknown
  have before : f.consumers.length ≤ i := Nat.le_trans move.length_le unknown
  obtain ⟨concerns, heard⟩ := ih before
  have none : Transition.concern? ⟨f, now, e, effects, g⟩ i = none :=
    if_neg (by simpa [Transition.knows] using before)
  have silent : Transition.heard ⟨f, now, e, effects, g⟩ i = [] := by
    refine if_neg fun asked => ?_
    cases move with
    | @receive j here =>
      cases asked
      exact Nat.not_lt_of_le before (lt_of_attends here)
    | _ => cases asked
  simp [concerns, heard, none, silent]

theorem fits_of_run (run : Run start h f) (known : i < f.consumers.length) :
    (of (h.concerns i)).Fits h f i := by
  refine run.invariant (P := fun h f => i < f.consumers.length →
    (of (History.concerns h i)).Fits h f i) nofun
    (fun {h f now e effects g} run ih made known => ?_) known
  have move := move_of_step made
  rcases Nat.lt_or_ge i f.consumers.length with before | unknown
  · have concern : Transition.concern? ⟨f, now, e, effects, g⟩ i = e.concern? i :=
      if_pos (decide_eq_true before)
    rw [History.concerns_append, History.concerns_singleton, concern, of, List.foldl_append]
    exact (ih before).move before move
  · -- The consumer has just been registered.
    obtain ⟨concerns, heard⟩ := unconcerned run unknown
    have none : Transition.concern? ⟨f, now, e, effects, g⟩ i = none :=
      if_neg (by simpa [Transition.knows] using unknown)
    rw [History.concerns_append, History.concerns_singleton, none, concerns]
    cases move with
    | register running =>
      refine ⟨by simp [heard, Transition.heard, of, fresh], running.symm, fun _ => ?_⟩
      rw [holds_register, holds_of_length_le unknown]
      rfl
    | _ => simp_all; omega

theorem heard_of_run (run : Run start h f) : (of (h.concerns i)).heard = h.heard i := by
  rcases Nat.lt_or_ge i f.consumers.length with known | unknown
  · exact (fits_of_run run known).heard
  · obtain ⟨concerns, heard⟩ := unconcerned run unknown
    rw [concerns, heard]
    rfl

end Ear

theorem Run.received_le (run : Run start h f) :
    h.received i + f.pending i ≤ h.broadcasts i := by
  have pending : f.pending i ≤ (Ear.of (h.concerns i)).pending.toNat := by
    cases holds : f.holds i with
    | false => simp [pending, holds]
    | true =>
      have here := run.attends_of_holds holds
      have fits := Ear.fits_of_run run (lt_of_attends here)
      simp [pending, holds, fits.pending here]
  have bound := Ear.received_foldl_le (h.concerns i) .fresh
  rw [History.received, ← Ear.heard_of_run run]
  exact Nat.le_trans (Nat.add_le_add_left pending _)
    (by simpa [Ear.of, Ear.fresh, History.broadcasts] using bound)

/-- The fan-out has kept to its duty in this history: a broadcast is made at once and leaves exactly
one signal pending for each consumer that is there; a consumer gets what is pending when it asks, no
more signals than were broadcast, and none twice; and what it hears is decided by its own concerns
alone. -/
structure FannedOut (h : History) (f : Fanout) : Prop where
  live : f.live = true ↔ ∀ x ∈ h, x.event ≠ .drop
  broadcast : f.live = true → ∀ now, ∃ g, f.step now .broadcast =
    some (g, [.reached h.present.length]) ∧ ∀ i ∈ h.present, g.pending i = 1
  receive : ∀ i ∈ h.present, ∀ now, ∃ g, f.step now (.receive i) = some (g, [.heard
    (if f.pending i = 1 then .signal else if f.live then .empty else .closed)])
  bounded : ∀ i, h.received i + f.pending i ≤ h.broadcasts i
  renewed : ∀ h₁ x h₂ y h₃ i, h = h₁ ++ x :: h₂ ++ y :: h₃ → Transition.heard x i = [.signal] →
    Transition.heard y i = [.signal] → ∃ z ∈ h₂, z.event = .broadcast
  delivered : ∀ h₁ x h₂ y h₃ i, h = h₁ ++ x :: h₂ ++ y :: h₃ → x.event = .broadcast →
    i ∈ History.present h₁ → (∀ z ∈ h₂, z.event ≠ .receive i) → y.event = .receive i →
    Transition.heard y i = [.signal]
  independent : ∀ {k g}, Run start k g → ∀ i j, h.concerns i = k.concerns j →
    h.heard i = k.heard j
  final : ∀ h₁ x h₂ i, h = h₁ ++ x :: h₂ → x.event = .drop →
    Final (x.target.holds i) (History.heard h₂ i)

theorem signals_fanned_out (run : Run start h f) : FannedOut h f := by
  constructor
  case live => simpa [start] using run.live_iff
  case broadcast =>
    intro live now
    refine ⟨f.broadcast.1, ?_, fun i present => ?_⟩
    · rw [← run.reached]
      exact if_pos live
    · rw [pending, holds_broadcast, run.attends_iff.mpr present, Bool.or_true]
      rfl
  case receive =>
    intro i present now
    have here := run.attends_iff.mpr present
    refine ⟨(f.receive i).2, (if_pos here).trans ?_⟩
    rw [receive_eq_signal here, pending]
    cases f.holds i <;> rfl
  case bounded => exact fun i => run.received_le
  case renewed =>
    intro h₁ x h₂ y h₃ i split first second
    rw [split] at run
    obtain ⟨run, last, -⟩ := run.parts
    obtain ⟨-, made, between⟩ := run.parts
    -- The first receipt left nothing pending, and nothing would have come since.
    refine Decidable.byContradiction fun none => ?_
    have quiet : ∀ z ∈ h₂, z.event ≠ .broadcast := fun z hz sent => none ⟨z, hz, sent⟩
    have nothing := Run.still between (Transition.holds_of_receipt made first).2 quiet
    simp [(Transition.holds_of_receipt last second).1] at nothing
  case delivered =>
    intro h₁ x h₂ y h₃ i split sent present unasked asked
    rw [split] at run
    obtain ⟨run, last, -⟩ := run.parts
    obtain ⟨here, heard⟩ := Transition.heard_of_asked last asked
    have stayed : ∀ z ∈ h₂, z.event ≠ .leave i := fun z hz =>
      (History.mem_present.mp ((Run.attends_iff run).mp here)).2 z (by simp [hz])
    obtain ⟨before, made, between⟩ := run.parts
    have holds := (move_of_step made).holds_eq (i := i)
    rw [sent, (Run.attends_iff before).mpr present] at holds
    have waits := Run.waits (i := i) between (by simpa using holds) fun z hz =>
      ⟨unasked z hz, stayed z hz⟩
    rw [heard, waits]
    rfl
  case independent =>
    intro k g other i j same
    rw [← Ear.heard_of_run run, ← Ear.heard_of_run other, same]
  case final =>
    intro h₁ x h₂ i split dropped
    rw [split] at run
    obtain ⟨-, made, after⟩ := run.parts
    refine Run.final after ?_
    have move := move_of_step made
    rw [dropped] at move
    generalize x.target = g, x.effects = effects at move
    cases move
    rfl

theorem signals_of_a_trial_fanned_out : ∃ h f, Run start h f ∧ h.present = [0, 2] ∧
    h.heard 0 = [.signal, .empty, .signal, .closed] ∧ h.heard 2 = [.signal, .closed] ∧
    FannedOut h f := by
  obtain ⟨h, f, run, seen⟩ := Machine.Run.of_play step start ([.register, .register, .register,
    .leave 1, .broadcast, .receive 0, .receive 0, .broadcast, .broadcast, .drop, .receive 0,
    .receive 0, .receive 2, .receive 2].map fun e => (default, e))
    (fun r => (History.present r.1, History.heard r.1 0, History.heard r.1 2)) rfl
  simp only [Prod.mk.injEq] at seen
  exact ⟨h, f, run, seen.1, seen.2.1, seen.2.2, signals_fanned_out run⟩

end HostMonitor.Shutdown.Fanout
