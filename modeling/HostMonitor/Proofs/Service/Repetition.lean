import HostMonitor.Proofs.Dialogue
import HostMonitor.Service.Retry

namespace HostMonitor.Service.Retry

open Dialogue (Log Turn)

variable {Q : Type} {A : Q → Type} {α : Type}

/-- The operation is performed once for each of the replies, in their order, with a rest between
one time and the next. -/
inductive Performed (spacing : Span) (op : Dialogue Q A (Except Error α)) :
    List (Except Error α) → Log Q A → Prop
  | once : op.Leads log r → Performed spacing op [r] log
  | again : op.Leads log r → Performed spacing op rs rest →
      Performed spacing op (r :: rs) (log ++ .rested spacing :: rest)

/-- The replies are those of a repetition with as many attempts at most, and `x` is the last one:
it is final or there are no attempts left, and none before it is final. -/
inductive Complete : Nat → List (Except Error α) → Except Error α → Prop
  | final : isFinal x = true → Complete (limit + 1) [x] x
  | exhausted : Complete 1 [x] x
  | further : isFinal r = false → Complete limit rs x → Complete (limit + 1) (r :: rs) x

def limit (p : Retry) : Nat := max p.attempts.toNat 1

/-- When the replies are `r 1`, `r 2` and so on, the call with the number `k` is the last one: its
reply is the first that is final, or there are no attempts left. -/
structure StopsAt (limit : Nat) (r : Nat → Except Error α) (k : Nat) : Prop where
  one_le : 1 ≤ k
  le_limit : k ≤ limit
  before : ∀ i, 1 ≤ i → i < k → isFinal (r i) = false
  last : isFinal (r k) = true ∨ k = limit

def replies (r : Nat → Except Error α) : Nat → List (Except Error α)
  | 0 => []
  | n + 1 => r 1 :: replies (fun i => r (i + 1)) n

def scripted (r : Nat → Except Error α) (n now : Nat) (_ : Q) : Except Error α × Nat × Nat :=
  (r n, n + 1, now)

variable {p : Retry} {spacing : Span} {op : Dialogue Q A (Except Error α)} {log : Log Q A}
  {r : Nat → Except Error α} {rs : List (Except Error α)} {x : Except Error α} {k n : Nat}

theorem leads_repeated {further : Nat} : (repeated spacing op further).Leads log x ↔
    ∃ rs, Performed spacing op rs log ∧ Complete (further + 1) rs x := by
  -- On the repetitions that are left.
  induction further generalizing log with
  | zero =>
    constructor
    · intro leads
      exact ⟨[x], .once leads, .exhausted⟩
    · rintro ⟨rs, performed, complete⟩
      cases complete with
      | final | exhausted =>
        cases performed with
        | once leads => exact leads
        | again _ rest => nomatch rest
      | further _ complete => nomatch complete
  | succ further ih =>
    rw [repeated, Dialogue.leads_bind]
    constructor
    · rintro ⟨r, log₁, log₂, rfl, leads, next⟩
      split at next
      · next final =>
        obtain ⟨rfl, rfl⟩ := Dialogue.leads_done.mp next
        exact ⟨[x], by simpa using .once leads, .final final⟩
      · next refused =>
        obtain ⟨rest, rfl, later⟩ := Dialogue.leads_rest.mp next
        obtain ⟨rs, performed, complete⟩ := ih.mp later
        exact ⟨r :: rs, .again leads performed, .further (Bool.not_eq_true _ ▸ refused) complete⟩
    · rintro ⟨rs, performed, complete⟩
      cases complete with
      | final final =>
        cases performed with
        | once leads => exact ⟨x, log, [], by simp, leads, by simp [final]⟩
        | again _ rest => nomatch rest
      | further refused complete =>
        cases performed with
        | once => nomatch complete
        | again leads performed =>
          refine ⟨_, _, _, rfl, leads, ?_⟩
          rw [if_neg (by simp [refused])]
          exact (ih.mpr ⟨_, performed, complete⟩).rest

theorem leads_run : (p.run op).Leads log x ↔
    ∃ rs, Performed p.spacing op rs log ∧ Complete p.limit rs x := by
  rw [run, leads_repeated]
  have positive : p.attempts.toNat - 1 + 1 = p.limit := by unfold limit; omega
  rw [positive]

theorem Performed.unique {rs' : List (Except Error α)} {log' : Log Q A}
    (performed : Performed spacing op rs log) (performed' : Performed spacing op rs' log')
    (same : log = log') : rs = rs' := by
  induction performed generalizing rs' log' with
  | @once log x leads =>
    cases performed' with
    | once leads' =>
      obtain ⟨-, rfl, -⟩ := leads.unique leads' (congrArg (· ++ []) same)
      rfl
    | again leads' =>
      obtain ⟨-, -, more⟩ := leads.unique leads' ((List.append_nil log).trans same)
      cases more
  | again leads _ ih =>
    cases performed' with
    | once leads' =>
      obtain ⟨-, -, more⟩ := leads.unique leads' (same.trans (List.append_nil log').symm)
      cases more
    | again leads' performed' =>
      obtain ⟨-, rfl, next⟩ := leads.unique leads' same
      rw [ih performed' (List.cons.inj next).2]

theorem Complete.getLast?_eq (complete : Complete n rs x) : rs.getLast? = some x := by
  induction complete with
  | final | exhausted => rfl
  | further _ complete ih =>
    cases complete with
    | final | exhausted => rfl
    | further => exact ih

theorem stopsAt_one {limit : Nat} :
    StopsAt limit r 1 ↔ 1 ≤ limit ∧ (isFinal (r 1) = true ∨ limit = 1) := by
  constructor
  · intro stops
    exact ⟨stops.le_limit, stops.last.imp_right Eq.symm⟩
  · rintro ⟨some, last⟩
    exact ⟨Nat.le_refl 1, some, fun i _ _ => by omega, last.imp_right Eq.symm⟩

theorem stopsAt_further {limit : Nat} : StopsAt (limit + 1) r (k + 2) ↔
    isFinal (r 1) = false ∧ StopsAt limit (fun i => r (i + 1)) (k + 1) := by
  constructor
  · intro stops
    refine ⟨stops.before 1 (Nat.le_refl 1) (by omega), by omega, ?_, ?_, ?_⟩
    · have := stops.le_limit
      omega
    · intro i _ lt
      exact stops.before (i + 1) (by omega) (by omega)
    · exact stops.last.imp_right fun last => by omega
  · rintro ⟨refused, stops⟩
    refine ⟨by omega, ?_, ?_, ?_⟩
    · have := stops.le_limit
      omega
    · intro i some lt
      rcases Nat.exists_eq_add_of_le' some with ⟨i, rfl⟩
      cases i with
      | zero => exact refused
      | succ i => exact stops.before (i + 1) (by omega) (by omega)
    · exact stops.last.imp_right fun last => by omega

theorem StopsAt.le {limit j : Nat} (stops : StopsAt limit r k) (stops' : StopsAt limit r j) :
    k ≤ j := by
  refine Nat.le_of_not_lt fun later => ?_
  rcases stops'.last with final | rfl
  · have refused := stops.before j stops'.one_le later
    rw [final] at refused
    cases refused
  · exact absurd stops.le_limit (Nat.not_le_of_lt later)

theorem StopsAt.eq {limit j : Nat} (stops : StopsAt limit r k) (stops' : StopsAt limit r j) :
    k = j :=
  Nat.le_antisymm (stops.le stops') (stops'.le stops)

theorem exists_stopsAt {limit : Nat} (r : Nat → Except Error α) (some : 1 ≤ limit) :
    ∃ k, StopsAt limit r k := by
  induction limit generalizing r with
  | zero => cases some
  | succ limit ih =>
    by_cases last : isFinal (r 1) = true ∨ limit + 1 = 1
    · exact ⟨1, stopsAt_one.mpr ⟨some, last⟩⟩
    · obtain ⟨refused, more⟩ := not_or.mp last
      obtain ⟨k, stops⟩ := ih (fun i => r (i + 1)) (by omega)
      obtain ⟨k, rfl⟩ := Nat.exists_eq_add_of_le' stops.one_le
      exact ⟨k + 2, stopsAt_further.mpr ⟨Bool.not_eq_true _ ▸ refused, stops⟩⟩

theorem complete_replies_iff {limit : Nat} :
    Complete limit (replies r n) x ↔ StopsAt limit r n ∧ x = r n := by
  induction n generalizing r limit with
  | zero => exact iff_of_false nofun fun stops => absurd stops.1.one_le (by omega)
  | succ n ih =>
    cases n with
    | zero =>
      rw [stopsAt_one]
      constructor
      · intro complete
        cases complete with
        | final final => exact ⟨⟨by omega, .inl final⟩, rfl⟩
        | exhausted => exact ⟨⟨by omega, .inr rfl⟩, rfl⟩
        | further _ complete => nomatch complete
      · rintro ⟨⟨some, final | rfl⟩, rfl⟩
        · obtain ⟨limit, rfl⟩ := Nat.exists_eq_add_of_le' some
          exact .final final
        · exact .exhausted
    | succ n =>
      constructor
      · intro complete
        cases complete with
        | further refused complete =>
          obtain ⟨stops, last⟩ := ih.mp complete
          exact ⟨stopsAt_further.mpr ⟨refused, stops⟩, last⟩
      · rintro ⟨stops, last⟩
        obtain ⟨limit, rfl⟩ := Nat.exists_eq_add_of_le' (Nat.le_trans stops.one_le stops.le_limit)
        obtain ⟨refused, stops⟩ := stopsAt_further.mp stops
        exact .further refused (ih.mpr ⟨stops, last⟩)

theorem play_repeated {q : Q} {m now further : Nat}
    (stops : StopsAt (further + 1) (fun i => r (i + m)) k) :
    (repeated spacing (.ask q .done) further).play (scripted r) (1 + m) now =
      (r (k + m), k + m + 1, now + (k - 1) * spacing.millis) := by
  induction further generalizing m now k with
  | zero =>
    obtain rfl : k = 1 := Nat.le_antisymm stops.le_limit stops.one_le
    simp [repeated, Dialogue.play, scripted]
  | succ further ih =>
    obtain ⟨k, rfl⟩ := Nat.exists_eq_add_of_le' stops.one_le
    cases k with
    | zero =>
      have final := (stopsAt_one.mp stops).2.resolve_right (by omega)
      simp [repeated, Dialogue.bind, Dialogue.play, scripted, final]
    | succ k =>
      obtain ⟨refused, stops⟩ := stopsAt_further.mp stops
      have shift : (fun i => r (i + 1 + m)) = fun i => r (i + (m + 1)) := by
        funext i
        rw [Nat.add_assoc, Nat.add_comm 1 m]
      rw [shift] at stops
      calc (repeated spacing (.ask q .done) (further + 1)).play (scripted r) (1 + m) now
        _ = (repeated spacing (.ask q .done) further).play (scripted r) (1 + (m + 1))
            (now + spacing.millis) := by
          simp [repeated, Dialogue.bind, Dialogue.play, scripted, refused, Nat.add_assoc]
        _ = _ := by
          rw [ih stops]
          simp only [Nat.add_sub_cancel, Nat.add_one_mul, Prod.mk.injEq]
          refine ⟨?_, by omega, by omega⟩
          rw [Nat.add_comm m 1, ← Nat.add_assoc]

theorem play_run {q : Q} {now : Nat} (stops : StopsAt p.limit r k) :
    (p.run (.ask q .done)).play (scripted r) 1 now =
      (r k, k + 1, now + (k - 1) * p.spacing.millis) := by
  have positive : p.attempts.toNat - 1 + 1 = p.limit := by unfold limit; omega
  rw [← positive] at stops
  exact play_repeated (m := 0) stops

theorem isFinal_ofStatus {status : Nat} {message : String} :
    isFinal (.error (.ofStatus status message) : Except Error α) = true ↔
      400 ≤ status ∧ status ≤ 499 :=
  Error.isClient_ofStatus status message

/-- Whatever the replies `r 1`, `r 2` and so on are, there is one call at which to stop: the first
one with a final reply, or the last attempt. An operation that replies so is performed up to that
one, with a rest between one time and the next, and its reply is the result. -/
theorem stops_at_first_final_reply (p : Retry) (r : Nat → Except Error α) :
    (∃ k, StopsAt p.limit r k ∧ (∀ j, StopsAt p.limit r j → j = k) ∧
      (∀ {Q : Type} {A : Q → Type} (op : Dialogue Q A (Except Error α)) log n x,
        Performed p.spacing op (replies r n) log → ((p.run op).Leads log x ↔ n = k ∧ x = r k)) ∧
      ∀ {Q : Type} (q : Q) now, (p.run (.ask q .done)).play (scripted r) 1 now =
        (r k, k + 1, now + (k - 1) * p.spacing.millis)) ∧
    (∀ {Q : Type} {A : Q → Type} (op : Dialogue Q A (Except Error α)) log x,
      (p.run op).Leads log x → ∃ rs, Performed p.spacing op rs log ∧ rs.getLast? = some x) ∧
    (∀ x, isFinal (.ok x : Except Error α) = true) ∧
    (∀ status message, isFinal (.error (.ofStatus status message) : Except Error α) = true ↔
      400 ≤ status ∧ status ≤ 499) ∧
    ∀ reason, isFinal (.error (.transport reason) : Except Error α) = false ∧
      isFinal (.error (.undecodable reason) : Except Error α) = false := by
  refine ⟨?_, ?_, fun _ => rfl, fun _ _ => isFinal_ofStatus, fun _ => ⟨rfl, rfl⟩⟩
  · obtain ⟨k, stops⟩ := exists_stopsAt r (Nat.le_max_right p.attempts.toNat 1)
    refine ⟨k, stops, fun j stops' => stops'.eq stops, ?_, fun q now => play_run stops⟩
    intro Q A op log n x performed
    constructor
    · intro leads
      obtain ⟨rs, performed', complete⟩ := leads_run.mp leads
      obtain rfl := performed.unique performed' rfl
      obtain ⟨stops', last⟩ := complete_replies_iff.mp complete
      obtain rfl := stops'.eq stops
      exact ⟨rfl, last⟩
    · rintro ⟨rfl, last⟩
      exact leads_run.mpr ⟨_, performed, complete_replies_iff.mpr ⟨stops, last⟩⟩
  · intro Q A op log x leads
    obtain ⟨rs, performed, complete⟩ := leads_run.mp leads
    exact ⟨rs, performed, complete.getLast?_eq⟩

def trialReply : Nat → Except Error String
  | 1 => .error (.ofStatus 503 "busy")
  | _ => .ok "h1"

def trialQuestion : Dialogue Unit (fun _ => Except Error String) (Except Error String) :=
  .ask () .done

def trialLog : Log Unit fun _ => Except Error String :=
  [.asked () (trialReply 1), .rested (.ofSeconds 2), .asked () (trialReply 2)]

theorem trial_stops_at_success :
    Performed lookup.spacing trialQuestion (replies trialReply 2) trialLog ∧
      StopsAt lookup.limit trialReply 2 ∧
      (lookup.run trialQuestion).Leads trialLog (.ok "h1") := by
  have answered (n : Nat) : trialQuestion.Leads [.asked () (trialReply n)] (trialReply n) :=
    .ask .done
  have performed : Performed lookup.spacing trialQuestion (replies trialReply 2) trialLog :=
    .again (answered 1) (.once (answered 2))
  have stops : StopsAt lookup.limit trialReply 2 := by
    refine ⟨by decide, by decide, ?_, .inl rfl⟩
    intro i some lt
    obtain rfl : i = 1 := by omega
    rfl
  obtain ⟨⟨k, -, only, runs, -⟩, -⟩ := stops_at_first_final_reply lookup trialReply
  obtain rfl := only 2 stops
  exact ⟨performed, stops, (runs _ _ _ _ performed).mpr ⟨rfl, rfl⟩⟩

end HostMonitor.Service.Retry
