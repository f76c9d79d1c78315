import HostMonitor.Host.Registration
import HostMonitor.Proofs.Dialogue

/-!
The protocol of a registration: which calls are made, with what, and what is stored. It is read off
the log of the registration, whatever the service and the store answer. A registration has four
parts, which identify the host, find it, give it its status and store its id; each goes on from the
result of the one before, and makes calls that the others do not.
-/

namespace HostMonitor.Host

open Dialogue (Turn)
open Service (Call Retry)

abbrev Log : Type := Dialogue.Log Question Question.Answer

namespace Log

variable (log : Log) (c : Call)

def Replied (reply : c.Reply) : Prop := Turn.asked (.call c) reply ∈ log

def Called : Prop := ∃ reply, log.Replied c reply

def Accepted (x : c.Answer) : Prop := log.Replied c (.ok x)

def Saved (id : String) (answer : Except String Unit) : Prop := Turn.asked (.save id) answer ∈ log

variable {log c} {k : Log} {reply : c.Reply} {x : c.Answer} {id : String}
  {answer : Except String Unit}

theorem Replied.called (replied : log.Replied c reply) : log.Called c := ⟨reply, replied⟩

theorem Accepted.called (accepted : log.Accepted c x) : log.Called c := ⟨_, accepted⟩

@[simp] theorem not_called_nil : ¬ Called [] c := by simp [Called, Replied]

@[simp] theorem not_accepted_nil : ¬ Accepted [] c x := by simp [Accepted, Replied]

@[simp] theorem replied_append :
    Replied (log ++ k) c reply ↔ log.Replied c reply ∨ k.Replied c reply := List.mem_append

@[simp] theorem called_append : Called (log ++ k) c ↔ log.Called c ∨ k.Called c := by
  simp [Called, exists_or]

@[simp] theorem accepted_append : Accepted (log ++ k) c x ↔ log.Accepted c x ∨ k.Accepted c x :=
  List.mem_append

@[simp] theorem saved_append :
    Saved (log ++ k) id answer ↔ log.Saved id answer ∨ k.Saved id answer := by
  simp [Saved]

def Only (log : Log) (P : Call → Prop) : Prop :=
  ∀ q a, Turn.asked q a ∈ log → ∃ c, q = .call c ∧ P c

theorem only_nil {P : Call → Prop} : Only [] P := nofun

namespace Only

variable {P Q : Call → Prop}

theorem called (only : log.Only P) (called : log.Called c) : P c := by
  obtain ⟨reply, mem⟩ := called
  obtain ⟨_, same, such⟩ := only (.call c) reply mem
  cases same
  exact such

theorem not_saved (only : log.Only P) : ¬ log.Saved id answer := by
  intro saved
  obtain ⟨_, same, -⟩ := only (.save id) answer saved
  cases same

theorem mono (only : log.Only P) (weaker : ∀ c, P c → Q c) : log.Only Q := by
  intro q a mem
  obtain ⟨c, same, such⟩ := only q a mem
  exact ⟨c, same, weaker c such⟩

theorem append (only : log.Only P) (next : k.Only P) : Only (log ++ k) P := fun q a mem =>
  (List.mem_append.mp mem).elim (only q a) (next q a)

end Only

end Log

variable {log : Log} {c : Call} {reply : c.Reply} {r : Registrar} {spec : Spec}
  {stored onStart : Option String}

/-- A call was made, as often as needed, and this is the reply that counts. -/
structure Settled (c : Call) (log : Log) (reply : c.Reply) : Prop where
  first : ∃ a rest, log = Turn.asked (.call c) a :: rest
  only : ∀ q a, Turn.asked q a ∈ log → q = .call c
  replied : log.Replied c reply
  accepted : ∀ x, log.Accepted c x → reply = .ok x

namespace Settled

theorem once : Settled c [Turn.asked (.call c) reply] reply where
  first := ⟨reply, [], rfl⟩
  only q a mem := by
    cases List.mem_singleton.mp mem
    rfl
  replied := List.mem_singleton.mpr rfl
  accepted x mem := by
    cases List.mem_singleton.mp mem
    rfl

theorem again {refusal : c.Reply} (settled : Settled c log reply)
    (further : Retry.isFinal refusal = false) :
    Settled c (Turn.asked (.call c) refusal :: Turn.rested spacing :: log) reply where
  first := ⟨refusal, _, rfl⟩
  only q a mem := by
    rcases List.mem_cons.mp mem with first | mem
    · cases first
      rfl
    · exact settled.only q a ((List.mem_cons.mp mem).resolve_left nofun)
  replied := List.mem_cons_of_mem _ (List.mem_cons_of_mem _ settled.replied)
  accepted x mem := by
    rcases List.mem_cons.mp mem with first | mem
    · cases first
      cases further
    · exact settled.accepted x ((List.mem_cons.mp mem).resolve_left nofun)

theorem of_run {p : Retry} (leads : (p.run (call c)).Leads log reply) : Settled c log reply := by
  unfold Retry.run at leads
  generalize p.attempts.toNat - 1 = further at leads
  induction further generalizing log with
  | zero =>
    obtain ⟨_, rest, rfl, ended⟩ := Dialogue.leads_ask.mp leads
    obtain ⟨rfl, rfl⟩ := Dialogue.leads_done.mp ended
    exact once
  | succ further ih =>
    obtain ⟨first, log₁, log₂, rfl, asked, next⟩ := Dialogue.leads_bind.mp leads
    obtain ⟨_, rest, rfl, ended⟩ := Dialogue.leads_ask.mp asked
    obtain ⟨rfl, rfl⟩ := Dialogue.leads_done.mp ended
    split at next
    · obtain ⟨rfl, rfl⟩ := Dialogue.leads_done.mp next
      exact once
    · next refused =>
      obtain ⟨rest, rfl, later⟩ := Dialogue.leads_rest.mp next
      exact (ih later).again (Bool.not_eq_true _ ▸ refused)

theorem only_such {P : Call → Prop} (settled : Settled c log reply) (such : P c) :
    log.Only P := fun q a mem => ⟨c, settled.only q a mem, such⟩

theorem called_iff {d : Call} (settled : Settled c log reply) : log.Called d ↔ d = c := by
  constructor
  · rintro ⟨a, mem⟩
    cases settled.only (.call d) a mem
    rfl
  · rintro rfl
    exact ⟨reply, settled.replied⟩

theorem accepted_iff {x : c.Answer} (settled : Settled c log reply) :
    log.Accepted c x ↔ reply = .ok x := by
  constructor
  · exact settled.accepted x
  · rintro rfl
    exact settled.replied

end Settled

def outcome {α : Type} (explain : String → String) (reply : Except Service.Error α) :
    Except Failure α :=
  reply.mapError fun e => .registration (explain e.describe)

theorem outcome_eq_ok {α : Type} {explain : String → String} {reply : Except Service.Error α}
    {x : α} : outcome explain reply = .ok x ↔ reply = .ok x := by
  cases reply with
  | ok y =>
    show Except.ok y = Except.ok x ↔ _
    rw [Except.ok.injEq, Except.ok.injEq]
  | error e => exact iff_of_false nofun nofun

theorem registration_of_outcome {α : Type} {explain : String → String}
    {reply : Except Service.Error α} {e : Failure} (failed : outcome explain reply = .error e) :
    ∃ m, e = .registration m := by
  cases reply with
  | ok x => cases failed
  | error e => cases failed; exact ⟨_, rfl⟩

theorem leads_ofReply {α : Type} {explain : String → String}
    {d : Program (Except Service.Error α)} {result : Except Failure α} :
    (Attempt.ofReply explain d).Leads log result ↔
      ∃ reply, d.Leads log reply ∧ result = outcome explain reply := by
  simp only [Attempt.ofReply, Dialogue.leads_bind]
  constructor
  · rintro ⟨reply, log₁, log₂, rfl, leads, last⟩
    cases reply <;> obtain ⟨rfl, rfl⟩ := Dialogue.leads_done.mp last <;>
      exact ⟨_, by simpa using leads, rfl⟩
  · rintro ⟨reply, leads, rfl⟩
    refine ⟨reply, log, [], (List.append_nil _).symm, leads, ?_⟩
    cases reply <;> exact .done

/-- How the id of the host is obtained: it is stored, or belongs to the host that was looked up, or
to one that was created. -/
structure Identified (spec : Spec) (stored : Option String) (log : Log)
    (result : Except Failure String) : Prop where
  only : log.Only fun c => (∃ k, c = .findHostBy k) ∨ c = .createHost spec
  silent : stored ≠ none → log = []
  lookedUp : ∀ k, log.Called (.findHostBy k) ↔ stored = none ∧ spec.customIdentifier = some k
  created : ∀ s, log.Called (.createHost s) ↔
    stored = none ∧ s = spec ∧ ∀ k (host : Record), ¬ log.Accepted (.findHostBy k) host
  ok : ∀ id, result = .ok id ↔ stored = some id ∨
    (∃ k, ∃ host : Record, log.Accepted (.findHostBy k) host ∧ host.id = id) ∨
      log.Accepted (.createHost spec) id
  failed : ∀ e, result = .error e → ∃ m, e = .registration m

structure LookedUp (spec : Spec) (log : Log) (found : Option Record) : Prop where
  only : log.Only fun c => ∃ k, c = .findHostBy k
  called : ∀ k, log.Called (.findHostBy k) ↔ spec.customIdentifier = some k
  accepted : ∀ host : Record, (∃ k, log.Accepted (.findHostBy k) host) ↔ found = some host

structure Found (id : Except Failure String) (log : Log) (result : Except Failure Record) :
    Prop where
  first : ∀ i, id = .ok i → ∃ a rest, log = Turn.asked (.call (.findHost i)) a :: rest
  only : log.Only fun c => ∃ i, c = .findHost i
  called : ∀ i, log.Called (.findHost i) ↔ id = .ok i
  accepted : ∀ i (host : Record), log.Accepted (.findHost i) host ↔ id = .ok i ∧ result = .ok host
  ok : ∀ host, result = .ok host → ∃ i, id = .ok i
  failed : ∀ e, result = .error e → id = .error e ∨ ∃ m, e = .registration m

structure StatusSet (onStart : Option String) (found : Except Failure Record) (log : Log)
    (result : Except Failure Record) : Prop where
  only : log.Only fun c => ∃ i s, c = .updateHostStatus i s
  called : ∀ i s, log.Called (.updateHostStatus i s) ↔
    onStart = some s ∧ ∃ host, found = .ok host ∧ host.id = i ∧ s ≠ host.status
  ok : ∀ host, result = .ok host ↔
    (∃ h, found = .ok h ∧ host = { h with status := onStart.getD h.status }) ∧
      ∀ i s, log.Called (.updateHostStatus i s) → log.Accepted (.updateHostStatus i s) ()
  failed : ∀ e, result = .error e → found = .error e ∨ ∃ m, e = .registration m

inductive Stored : Except Failure Record → Log → Except Failure Record → Prop
  | kept : Stored (.ok host) [Turn.asked (.save host.id) (.ok ())] (.ok host)
  | lost : Stored (.ok host) [Turn.asked (.save host.id) (.error reason)]
      (.error (.idStorage reason))
  | skipped : Stored (.error e) [] (.error e)

theorem LookedUp.of_lookUp {found : Option Record} (leads : (r.lookUp spec).Leads log found) :
    LookedUp spec log found := by
  unfold Registrar.lookUp at leads
  split at leads
  · next absent =>
    obtain ⟨rfl, rfl⟩ := Dialogue.leads_done.mp leads
    refine ⟨Log.only_nil, by simp [absent], fun host => ⟨?_, nofun⟩⟩
    rintro ⟨k, accepted⟩
    exact absurd accepted Log.not_accepted_nil
  · next identifier given =>
    obtain ⟨reply, log₁, log₂, rfl, asked, last⟩ := Dialogue.leads_bind.mp leads
    obtain ⟨rfl, rfl⟩ := Dialogue.leads_done.mp last
    have settled := Settled.of_run asked
    rw [List.append_nil]
    constructor
    case only => exact settled.only_such ⟨identifier, rfl⟩
    case called =>
      intro k
      rw [settled.called_iff, given]
      simp [eq_comm]
    case accepted =>
      intro host
      constructor
      · rintro ⟨k, accepted⟩
        cases settled.called_iff.mp accepted.called
        cases settled.accepted_iff.mp accepted
        rfl
      · intro found
        refine ⟨identifier, settled.accepted_iff.mpr ?_⟩
        cases reply with
        | ok h => cases found; rfl
        | error e => cases found

namespace Identified

theorem known {id : String} : Identified spec (some id) [] (.ok id) := by
  constructor
  case only => exact Log.only_nil
  case silent => exact fun _ => rfl
  case lookedUp | created => simp
  case ok =>
    intro i
    constructor
    · rintro ⟨⟩
      exact .inl rfl
    · rintro (⟨⟨⟩⟩ | ⟨k, host, accepted, -⟩ | created)
      · rfl
      · exact absurd accepted Log.not_accepted_nil
      · exact absurd created Log.not_accepted_nil
  case failed => nofun

theorem of_newId {result : Except Failure String} (leads : (r.newId spec).Leads log result) :
    Identified spec none log result := by
  obtain ⟨found, log₁, log₂, rfl, first, next⟩ := Dialogue.leads_bind.mp leads
  -- A host that was looked up is not created; else it is created right afterwards.
  have lookedUp := LookedUp.of_lookUp first
  cases found with
  | some host =>
    obtain ⟨rfl, rfl⟩ := Dialogue.leads_done.mp next
    obtain ⟨k, accepted⟩ := (lookedUp.accepted host).mpr rfl
    rw [List.append_nil]
    constructor
    case only => exact lookedUp.only.mono fun c => .inl
    case silent => nofun
    case lookedUp => simpa using lookedUp.called
    case created =>
      intro s
      constructor
      · intro called
        obtain ⟨_, ⟨⟩⟩ := lookedUp.only.called called
      · rintro ⟨-, -, none⟩
        exact absurd accepted (none k host)
    case ok =>
      intro id
      constructor
      · rintro ⟨⟩
        exact .inr (.inl ⟨k, host, accepted, rfl⟩)
      · rintro (⟨⟨⟩⟩ | ⟨k, other, also, rfl⟩ | created)
        · cases (lookedUp.accepted other).mp ⟨k, also⟩
          rfl
        · obtain ⟨_, ⟨⟩⟩ := lookedUp.only.called created.called
    case failed => nofun
  | none =>
    obtain ⟨reply, asked, rfl⟩ := leads_ofReply.mp next
    have settled := Settled.of_run asked
    have absent (k : String) (host : Record) :
        ¬ Log.Accepted (log₁ ++ log₂) (.findHostBy k) host := by
      rintro accepted
      rcases Log.accepted_append.mp accepted with accepted | accepted
      · cases (lookedUp.accepted host).mp ⟨k, accepted⟩
      · cases settled.called_iff.mp accepted.called
    have unseen (s : Spec) : ¬ Log.Called log₁ (.createHost s) := by
      intro called
      obtain ⟨_, ⟨⟩⟩ := lookedUp.only.called called
    constructor
    case only =>
      exact (lookedUp.only.mono fun c => .inl).append (settled.only_such (.inr rfl))
    case silent => nofun
    case lookedUp =>
      intro k
      rw [Log.called_append, lookedUp.called, settled.called_iff]
      simp
    case created =>
      intro s
      rw [Log.called_append, settled.called_iff]
      constructor
      · rintro (called | ⟨⟨⟩⟩)
        · exact absurd called (unseen s)
        · exact ⟨rfl, rfl, absent⟩
      · rintro ⟨-, rfl, -⟩
        exact .inr rfl
    case ok =>
      intro id
      rw [outcome_eq_ok]
      constructor
      · rintro rfl
        exact .inr (.inr (Log.accepted_append.mpr (.inr settled.replied)))
      · rintro (⟨⟨⟩⟩ | ⟨k, host, accepted, -⟩ | created)
        · exact absurd accepted (absent k host)
        · refine settled.accepted_iff.mp ((Log.accepted_append.mp created).resolve_left ?_)
          exact fun before => unseen spec before.called
    case failed => exact fun e => registration_of_outcome

end Identified

theorem Found.of_find {explain : String → String} {id : String} {result : Except Failure Record}
    (leads : (r.find explain id).Leads log result) : Found (.ok id) log result := by
  obtain ⟨reply, asked, rfl⟩ := leads_ofReply.mp leads
  have settled := Settled.of_run asked
  constructor
  case first =>
    rintro _ ⟨⟩
    exact settled.first
  case only => exact settled.only_such ⟨id, rfl⟩
  case called =>
    intro i
    rw [settled.called_iff]
    simp [eq_comm]
  case accepted =>
    intro i host
    constructor
    · intro accepted
      cases settled.called_iff.mp accepted.called
      cases settled.accepted_iff.mp accepted
      exact ⟨rfl, rfl⟩
    · rintro ⟨same, ok⟩
      cases same
      exact settled.accepted_iff.mpr (outcome_eq_ok.mp ok)
  case ok => exact fun _ _ => ⟨id, rfl⟩
  case failed => exact fun e failed => .inr (registration_of_outcome failed)

theorem Found.skipped {e : Failure} : Found (.error e) [] (.error e) := by
  constructor
  case first => nofun
  case only => exact Log.only_nil
  case called => simp
  case accepted => exact fun i host => iff_of_false Log.not_accepted_nil nofun
  case ok => nofun
  case failed =>
    rintro _ ⟨⟩
    exact .inl rfl

namespace StatusSet

variable {host : Record} {result : Except Failure Record}

theorem skipped {e : Failure} : StatusSet onStart (.error e) [] (.error e) := by
  constructor
  case only => exact Log.only_nil
  case failed =>
    rintro _ ⟨⟩
    exact .inl rfl
  all_goals simp

theorem unchanged (same : ∀ s, onStart = some s → s = host.status) :
    StatusSet onStart (.ok host) [] (.ok host) := by
  have kept : { host with status := onStart.getD host.status } = host := by
    cases onStart with
    | none => rfl
    | some s => cases same s rfl; rfl
  constructor
  case only => exact Log.only_nil
  case called =>
    intro i s
    simp only [Log.not_called_nil, false_iff]
    rintro ⟨start, _, ⟨⟩, -, other⟩
    exact other (same s start)
  case ok =>
    intro h
    simp [kept, eq_comm]
  case failed => nofun

theorem changed {status : String} {reply : Except Service.Error Unit} (explain : String → String)
    (settled : Settled (.updateHostStatus host.id status) log reply)
    (other : status ≠ host.status) :
    StatusSet (some status) (.ok host) log
      ((outcome explain reply).map fun _ => { host with status := status }) := by
  constructor
  case only => exact settled.only_such ⟨_, _, rfl⟩
  case called =>
    intro i s
    rw [settled.called_iff]
    constructor
    · rintro ⟨⟩
      exact ⟨rfl, host, rfl, rfl, other⟩
    · rintro ⟨⟨⟩, _, ⟨⟩, rfl, -⟩
      rfl
  case ok =>
    intro h
    cases reply with
    | ok x =>
      constructor
      · rintro ⟨⟩
        refine ⟨⟨host, rfl, rfl⟩, fun i s called => ?_⟩
        cases settled.called_iff.mp called
        exact settled.accepted_iff.mpr rfl
      · rintro ⟨⟨_, ⟨⟩, rfl⟩, -⟩
        rfl
    | error e =>
      constructor
      · nofun
      · rintro ⟨-, all⟩
        cases settled.accepted_iff.mp (all _ _ (settled.called_iff.mpr rfl))
  case failed =>
    intro e failed
    cases reply with
    | ok x => cases failed
    | error e => cases failed; exact .inr ⟨_, rfl⟩

theorem of_applyStatus (leads : (r.applyStatus onStart host).Leads log result) :
    StatusSet onStart (.ok host) log result := by
  unfold Registrar.applyStatus at leads
  split at leads
  · obtain ⟨rfl, rfl⟩ := Dialogue.leads_done.mp leads
    exact unchanged nofun
  · split at leads
    · next same =>
      obtain ⟨rfl, rfl⟩ := Dialogue.leads_done.mp leads
      exact unchanged fun s start => by cases start; exact same
    · next status other =>
      obtain ⟨x, log₁, log₂, rfl, asked, last⟩ := Dialogue.leads_bind.mp leads
      obtain ⟨reply, called, rfl⟩ := leads_ofReply.mp asked
      have set := changed (Registrar.statusNotSet status) (Settled.of_run called) other
      rw [← List.append_nil log₁] at set
      cases reply <;> obtain ⟨rfl, rfl⟩ := Dialogue.leads_done.mp last <;> exact set

end StatusSet

theorem Stored.of_store {host : Record} {result : Except Failure Record}
    (leads : (Registrar.store host).Leads log result) : Stored (.ok host) log result := by
  obtain ⟨answer, rest, rfl, last⟩ := Dialogue.leads_ask.mp leads
  cases answer <;> obtain ⟨rfl, rfl⟩ := Dialogue.leads_done.mp last
  · exact .lost
  · exact .kept

theorem Stored.skips {e : Failure} {result : Except Failure Record}
    (leads : (Dialogue.done (.error e) : Attempt Record).Leads log result) :
    Stored (.error e) log result := by
  obtain ⟨rfl, rfl⟩ := Dialogue.leads_done.mp leads
  exact .skipped

namespace Stored

variable {set result : Except Failure Record}

theorem only (stored : Stored set log result) (q : Question) (a : q.Answer)
    (mem : Turn.asked q a ∈ log) : ∃ i, q = .save i := by
  cases stored with
  | kept | lost => cases List.mem_singleton.mp mem; exact ⟨_, rfl⟩
  | skipped => cases mem

theorem not_called (stored : Stored set log result) : ¬ log.Called c := by
  rintro ⟨reply, replied⟩
  obtain ⟨_, ⟨⟩⟩ := stored.only (.call c) reply replied

theorem failed {e : Failure} (stored : Stored set log result) (failed : result = .error e) :
    (set = .error e ∧ log = []) ∨ ∃ m i, e = .idStorage m ∧ log.Saved i (.error m) := by
  cases stored with
  | kept => cases failed
  | lost => cases failed; exact .inr ⟨_, _, rfl, List.mem_singleton.mpr rfl⟩
  | skipped => exact .inl ⟨failed, rfl⟩

theorem eq_of_saved {i : String} {a : Except String Unit} (stored : Stored set log result)
    (saved : log.Saved i a) : log = [Turn.asked (.save i) a] := by
  cases stored with
  | kept | lost => cases List.mem_singleton.mp saved; rfl
  | skipped => cases saved

theorem saved_iff {i : String} (stored : Stored set log result) :
    (∃ a, log.Saved i a) ↔ ∃ host, set = .ok host ∧ host.id = i := by
  cases stored with
  | kept | lost =>
    constructor
    · rintro ⟨a, mem⟩
      cases List.mem_singleton.mp mem
      exact ⟨_, rfl, rfl⟩
    · rintro ⟨_, ⟨⟩, rfl⟩
      exact ⟨_, List.mem_singleton.mpr rfl⟩
  | skipped =>
    constructor
    · rintro ⟨a, ⟨⟩⟩
    · rintro ⟨_, ⟨⟩, -⟩

theorem ok_iff {host : Record} (stored : Stored set log result) :
    result = .ok host ↔ set = .ok host ∧ log.Saved host.id (.ok ()) := by
  cases stored with
  | kept =>
    constructor
    · rintro ⟨⟩
      exact ⟨rfl, List.mem_singleton.mpr rfl⟩
    · exact And.left
  | lost =>
    constructor
    · nofun
    · rintro ⟨⟨⟩, mem⟩
      cases List.mem_singleton.mp mem
  | skipped =>
    constructor
    · nofun
    · nofun

end Stored

/-- A registration after the store was asked for an id, by its parts. -/
structure Parts (spec : Spec) (stored onStart : Option String) (result : Except Failure Record) :
    Type where
  identifying : Log
  finding : Log
  setting : Log
  storing : Log
  id : Except Failure String
  found : Except Failure Record
  set : Except Failure Record
  identified : Identified spec stored identifying id
  sought : Found id finding found
  statusSet : StatusSet onStart found setting set
  kept : Stored set storing result

def Parts.before (p : Parts spec stored onStart result) : Log :=
  p.identifying ++ (p.finding ++ p.setting)

def Parts.turns (p : Parts spec stored onStart result) : Log := p.before ++ p.storing

theorem parts_of_prepare {result : Except Failure Record}
    (leads : (r.prepare spec onStart).Leads log result) :
    ∃ (stored : Option String) (p : Parts spec stored onStart result),
      log = Turn.asked .load stored :: p.turns := by
  obtain ⟨stored, rest, rfl, all⟩ := Dialogue.leads_ask.mp leads
  obtain ⟨set, before, storing, rfl, most, store⟩ := Dialogue.leads_bind.mp all
  obtain ⟨found, resolving, setting, rfl, resolve, apply⟩ := Dialogue.leads_bind.mp most
  have kept : Stored set storing result := by
    cases set with
    | ok host => exact .of_store store
    | error e => exact .skips store
  have statusSet : StatusSet onStart found setting set := by
    cases found with
    | ok host => exact .of_applyStatus apply
    | error e =>
      obtain ⟨rfl, rfl⟩ := Dialogue.leads_done.mp apply
      exact .skipped
  refine ⟨stored, ?_⟩
  cases stored with
  | some id =>
    exact ⟨⟨[], resolving, setting, storing, .ok id, found, set, .known, .of_find resolve,
      statusSet, kept⟩, rfl⟩
  | none =>
    obtain ⟨id, identifying, finding, rfl, identify, find⟩ := Dialogue.leads_bind.mp resolve
    have sought : Found id finding found := by
      cases id with
      | ok id => exact .of_find find
      | error e =>
        obtain ⟨rfl, rfl⟩ := Dialogue.leads_done.mp find
        exact .skipped
    exact ⟨⟨identifying, finding, setting, storing, id, found, set, .of_newId identify, sought,
      statusSet, kept⟩, by simp [Parts.turns, Parts.before]⟩

namespace Parts

variable {result : Except Failure Record} (p : Parts spec stored onStart result)

theorem replied_iff {reply : c.Reply} : p.turns.Replied c reply ↔ p.identifying.Replied c reply ∨
    p.finding.Replied c reply ∨ p.setting.Replied c reply := by
  simp only [Parts.turns, before, Log.replied_append]
  exact or_iff_left fun replied => p.kept.not_called replied.called

theorem replied_identifying {reply : c.Reply} (finds : ∀ i, c ≠ .findHost i)
    (sets : ∀ i s, c ≠ .updateHostStatus i s) :
    p.turns.Replied c reply ↔ p.identifying.Replied c reply := by
  rw [p.replied_iff]
  refine or_iff_left ?_
  rintro (replied | replied)
  · obtain ⟨i, rfl⟩ := p.sought.only.called replied.called
    exact finds i rfl
  · obtain ⟨i, s, rfl⟩ := p.statusSet.only.called replied.called
    exact sets i s rfl

theorem replied_finding {i : String} {reply : (Call.findHost i).Reply} :
    p.turns.Replied (.findHost i) reply ↔ p.finding.Replied (.findHost i) reply := by
  rw [p.replied_iff]
  constructor
  · rintro (replied | replied | replied)
    · rcases p.identified.only.called replied.called with ⟨_, ⟨⟩⟩ | ⟨⟨⟩⟩
    · exact replied
    · obtain ⟨_, _, ⟨⟩⟩ := p.statusSet.only.called replied.called
  · exact fun replied => .inr (.inl replied)

theorem replied_setting {i s : String} {reply : (Call.updateHostStatus i s).Reply} :
    p.turns.Replied (.updateHostStatus i s) reply ↔
      p.setting.Replied (.updateHostStatus i s) reply := by
  rw [p.replied_iff]
  constructor
  · rintro (replied | replied | replied)
    · rcases p.identified.only.called replied.called with ⟨_, ⟨⟩⟩ | ⟨⟨⟩⟩
    · obtain ⟨_, ⟨⟩⟩ := p.sought.only.called replied.called
    · exact replied
  · exact fun replied => .inr (.inr replied)

theorem before_only : p.before.Only fun c => (∃ k, c = .findHostBy k) ∨ c = .createHost spec ∨
    (∃ i, c = .findHost i) ∨ ∃ i s, c = .updateHostStatus i s := by
  refine .append (p.identified.only.mono ?_) (.append (p.sought.only.mono ?_)
    (p.statusSet.only.mono ?_))
  · exact fun c identifies => identifies.imp_right .inl
  · exact fun c finds => .inr (.inr (.inl finds))
  · exact fun c sets => .inr (.inr (.inr sets))

theorem saved_iff {i : String} {a : Except String Unit} :
    p.turns.Saved i a ↔ p.storing.Saved i a :=
  Log.saved_append.trans (or_iff_right p.before_only.not_saved)

theorem first {id : String} (known : stored = some id) :
    ∃ reply rest, p.turns = Turn.asked (.call (.findHost id)) reply :: rest := by
  have none : p.identifying = [] := p.identified.silent (by simp [known])
  obtain ⟨reply, rest, finding⟩ := p.sought.first id ((p.identified.ok id).mpr (.inl known))
  exact ⟨reply, _, by rw [turns, before, none, finding]; rfl⟩

theorem called_identifying (finds : ∀ i, c ≠ .findHost i)
    (sets : ∀ i s, c ≠ .updateHostStatus i s) : p.turns.Called c ↔ p.identifying.Called c :=
  exists_congr fun _ => p.replied_identifying finds sets

theorem called_findHost {i : String} : p.turns.Called (.findHost i) ↔ p.id = .ok i :=
  (exists_congr fun _ => p.replied_finding).trans (p.sought.called i)

theorem called_findHostBy {k : String} :
    p.turns.Called (.findHostBy k) ↔ stored = none ∧ spec.customIdentifier = some k :=
  (p.called_identifying (c := .findHostBy k) nofun nofun).trans (p.identified.lookedUp k)

theorem accepted_findHostBy {k : String} {host : Record} :
    p.turns.Accepted (.findHostBy k) host ↔ p.identifying.Accepted (.findHostBy k) host :=
  p.replied_identifying nofun nofun

theorem accepted_createHost {s : Spec} {i : String} :
    p.turns.Accepted (.createHost s) i ↔ p.identifying.Accepted (.createHost s) i :=
  p.replied_identifying nofun nofun

theorem accepted_findHost {i : String} {host : Record} :
    p.turns.Accepted (.findHost i) host ↔ p.id = .ok i ∧ p.found = .ok host :=
  p.replied_finding.trans (p.sought.accepted i host)

theorem called_createHost {s : Spec} : p.turns.Called (.createHost s) ↔
    stored = none ∧ s = spec ∧ ∀ k (host : Record), ¬ p.turns.Accepted (.findHostBy k) host := by
  rw [p.called_identifying (c := .createHost s) nofun nofun, p.identified.created]
  simp only [p.accepted_findHostBy]

theorem id_eq_ok {i : String} : p.id = .ok i ↔ stored = some i ∨
    (∃ k, ∃ host : Record, p.turns.Accepted (.findHostBy k) host ∧ host.id = i) ∨
      p.turns.Accepted (.createHost spec) i := by
  simp only [p.identified.ok, p.accepted_findHostBy, p.accepted_createHost]

theorem called_updateHostStatus {i s : String} : p.turns.Called (.updateHostStatus i s) ↔
    onStart = some s ∧ ∃ host, p.found = .ok host ∧ host.id = i ∧ s ≠ host.status :=
  (exists_congr fun _ => p.replied_setting).trans (p.statusSet.called i s)

theorem set_eq_ok {host : Record} : p.set = .ok host ↔
    (∃ h, p.found = .ok h ∧ host = { h with status := onStart.getD h.status }) ∧
      ∀ i s, p.turns.Called (.updateHostStatus i s) →
        p.turns.Accepted (.updateHostStatus i s) () := by
  rw [p.statusSet.ok]
  refine and_congr_right fun _ => forall_congr' fun i => forall_congr' fun s => ?_
  exact imp_congr (exists_congr fun _ => p.replied_setting).symm p.replied_setting.symm

theorem called_cases (called : p.turns.Called c) : (∃ k, c = .findHostBy k) ∨
    c = .createHost spec ∨ (∃ i, c = .findHost i) ∨ ∃ i s, c = .updateHostStatus i s :=
  p.before_only.called ((Log.called_append.mp called).resolve_right p.kept.not_called)

end Parts

def Log.Finds (log : Log) (host : Record) : Prop := ∃ i, log.Accepted (.findHost i) host

theorem Parts.finds_iff {result : Except Failure Record} (p : Parts spec stored onStart result)
    {host : Record} : p.turns.Finds host ↔ p.found = .ok host := by
  constructor
  · rintro ⟨i, accepted⟩
    exact (p.accepted_findHost.mp accepted).2
  · intro found
    obtain ⟨i, id⟩ := p.sought.ok host found
    exact ⟨i, p.accepted_findHost.mpr ⟨id, found⟩⟩

/-- What a registration does after it was told the stored id. -/
structure Protocol (spec : Spec) (stored onStart : Option String) (log : Log)
    (result : Except Failure Record) : Prop where
  known : ∀ id, stored = some id → (∀ k, ¬ log.Called (.findHostBy k)) ∧
    (∀ s, ¬ log.Called (.createHost s)) ∧ ∀ i, log.Called (.findHost i) ↔ i = id
  lookedUp : stored = none → ∀ k, log.Called (.findHostBy k) ↔ spec.customIdentifier = some k
  created : stored = none → ∀ s, log.Called (.createHost s) ↔
    s = spec ∧ ∀ k (host : Record), ¬ log.Accepted (.findHostBy k) host
  sought : stored = none → ∀ i, log.Called (.findHost i) ↔
    (∃ k, ∃ host : Record, log.Accepted (.findHostBy k) host ∧ host.id = i) ∨
      log.Accepted (.createHost spec) i
  found : ∀ host other, log.Finds host → log.Finds other → host = other
  statusSet : ∀ i s, log.Called (.updateHostStatus i s) ↔
    onStart = some s ∧ ∃ host, log.Finds host ∧ host.id = i ∧ s ≠ host.status
  only : ∀ q a, Turn.asked q a ∈ log → (∃ i, q = .save i) ∨ ∃ c, q = .call c ∧
    ((∃ k, c = .findHostBy k) ∨ c = .createHost spec ∨ (∃ i, c = .findHost i) ∨
      ∃ i s, c = .updateHostStatus i s)
  last : ∀ i a, log.Saved i a → ∃ before : Log, log = before ++ [Turn.asked (.save i) a] ∧
    ∀ j b, ¬ before.Saved j b
  saved : ∀ i, (∃ a, log.Saved i a) ↔ (∃ host, log.Finds host ∧ host.id = i) ∧
    ∀ j s, log.Called (.updateHostStatus j s) → log.Accepted (.updateHostStatus j s) ()
  succeeded : ∀ i a, log.Saved i a → ∀ c, log.Called c →
    (∃ k, c = .findHostBy k) ∨ ∃ x, log.Accepted c x
  ends : (∃ host, result = .ok host) ↔ ∃ i, log.Saved i (.ok ())
  returned : ∀ host, result = .ok host → log.Saved host.id (.ok ()) ∧
    ∃ h, log.Finds h ∧ host = { h with status := onStart.getD h.status }
  failed : ∀ e, result = .error e → (∃ m, e = .registration m ∧ ∀ i a, ¬ log.Saved i a) ∨
    ∃ m i, e = .idStorage m ∧ log.Saved i (.error m)

namespace Parts

variable {result : Except Failure Record} (p : Parts spec stored onStart result)

theorem last {i : String} {a : Except String Unit} (saved : p.turns.Saved i a) :
    p.turns = p.before ++ [Turn.asked (.save i) a] :=
  congrArg (p.before ++ ·) (p.kept.eq_of_saved (p.saved_iff.mp saved))

theorem saved {i : String} : (∃ a, p.turns.Saved i a) ↔
    (∃ host, p.turns.Finds host ∧ host.id = i) ∧ ∀ j s,
      p.turns.Called (.updateHostStatus j s) → p.turns.Accepted (.updateHostStatus j s) () := by
  rw [exists_congr fun a => p.saved_iff (i := i) (a := a), p.kept.saved_iff]
  simp only [p.set_eq_ok, p.finds_iff]
  constructor
  · rintro ⟨_, ⟨⟨h, found, rfl⟩, all⟩, same⟩
    exact ⟨⟨h, found, same⟩, all⟩
  · rintro ⟨⟨h, found, same⟩, all⟩
    exact ⟨_, ⟨⟨h, found, rfl⟩, all⟩, same⟩

theorem succeeded {i : String} {a : Except String Unit} (saved : p.turns.Saved i a)
    (called : p.turns.Called c) : (∃ k, c = .findHostBy k) ∨ ∃ x, p.turns.Accepted c x := by
  obtain ⟨⟨host, finds, -⟩, all⟩ := p.saved.mp ⟨a, saved⟩
  obtain ⟨j, accepted⟩ := finds
  rcases p.called_cases called with known | rfl | ⟨i, rfl⟩ | ⟨i, s, rfl⟩
  · exact .inl known
  · -- The id that was found is the one of the new host, since there was neither of the others.
    obtain ⟨none, -, absent⟩ := p.called_createHost.mp called
    rcases p.id_eq_ok.mp (p.accepted_findHost.mp accepted).1 with some | ⟨k, h, accepted, -⟩ | new
    · rw [none] at some
      cases some
    · exact absurd accepted (absent k h)
    · exact .inr ⟨j, new⟩
  · have same := (p.accepted_findHost.mp accepted).1.symm.trans (p.called_findHost.mp called)
    cases same
    exact .inr ⟨host, accepted⟩
  · exact .inr ⟨(), all i s called⟩

theorem returned {host : Record} : result = .ok host ↔
    p.set = .ok host ∧ p.turns.Saved host.id (.ok ()) := by
  rw [p.kept.ok_iff, p.saved_iff]

theorem protocol : Protocol spec stored onStart p.turns result := by
  constructor
  case known =>
    rintro id rfl
    have unmatched (k : String) : ¬ p.turns.Called (.findHostBy k) := fun called =>
      nomatch (p.called_findHostBy.mp called).1
    have uncreated (s : Spec) : ¬ p.turns.Called (.createHost s) := fun called =>
      nomatch (p.called_createHost.mp called).1
    refine ⟨unmatched, uncreated, fun i => ?_⟩
    rw [p.called_findHost, p.id_eq_ok]
    constructor
    · rintro (⟨⟨⟩⟩ | ⟨k, host, accepted, -⟩ | accepted)
      · rfl
      · exact absurd accepted.called (unmatched k)
      · exact absurd accepted.called (uncreated spec)
    · rintro rfl
      exact .inl rfl
  case lookedUp =>
    rintro rfl k
    rw [p.called_findHostBy]
    simp
  case created =>
    rintro rfl s
    rw [p.called_createHost]
    simp
  case sought =>
    rintro rfl i
    rw [p.called_findHost, p.id_eq_ok]
    simp
  case found =>
    intro host other finds also
    rw [p.finds_iff] at finds also
    exact Except.ok.inj (finds.symm.trans also)
  case statusSet =>
    intro i s
    simp only [p.called_updateHostStatus, p.finds_iff]
  case only =>
    intro q a mem
    rcases List.mem_append.mp mem with mem | mem
    · exact .inr (p.before_only q a mem)
    · exact .inl (p.kept.only q a mem)
  case last => exact fun i a saved => ⟨p.before, p.last saved, fun j b => p.before_only.not_saved⟩
  case saved => exact fun i => p.saved
  case succeeded => exact fun i a saved c => p.succeeded saved
  case ends =>
    constructor
    · rintro ⟨host, ok⟩
      exact ⟨host.id, (p.returned.mp ok).2⟩
    · rintro ⟨i, saved⟩
      obtain ⟨host, set, rfl⟩ := p.kept.saved_iff.mp ⟨_, p.saved_iff.mp saved⟩
      exact ⟨host, p.returned.mpr ⟨set, saved⟩⟩
  case returned =>
    intro host ok
    obtain ⟨set, saved⟩ := p.returned.mp ok
    obtain ⟨⟨h, found, same⟩, -⟩ := p.set_eq_ok.mp set
    exact ⟨saved, h, p.finds_iff.mpr found, same⟩
  case failed =>
    intro e failed
    rcases p.kept.failed failed with ⟨unset, nothing⟩ | ⟨m, i, rfl, saved⟩
    · have unsaved (i : String) (a : Except String Unit) : ¬ p.turns.Saved i a := by
        rw [p.saved_iff, nothing]
        nofun
      have reason : ∃ m, e = .registration m := by
        rcases p.statusSet.failed e unset with unfound | reason
        · rcases p.sought.failed e unfound with unknown | reason
          · exact p.identified.failed e unknown
          · exact reason
        · exact reason
      obtain ⟨m, rfl⟩ := reason
      exact .inl ⟨m, rfl, unsaved⟩
    · exact .inr ⟨m, i, rfl, p.saved_iff.mpr saved⟩

end Parts

theorem registers_by_protocol {result : Except Failure Record}
    (leads : (r.prepare spec onStart).Leads log result) :
    ∃ stored rest, log = Turn.asked .load stored :: rest ∧
      Protocol spec stored onStart rest result := by
  obtain ⟨stored, p, rfl⟩ := parts_of_prepare leads
  exact ⟨stored, p.turns, rfl, p.protocol⟩

def Registrar.trial : Registrar := ⟨⟨2, .ofSeconds 3⟩, ⟨1, .ofSeconds 2⟩, "ID-STORE"⟩

def Spec.trial : Spec := ⟨"web", .null, [], [], [], none, some "rack"⟩

def Record.trial : Record := ⟨"a1", "web", "working", some "rack"⟩

def Log.trial : Log := [.asked .load none,
  .asked (.call (.findHostBy "rack")) (.error (.notFound "")),
  .asked (.call (.createHost Spec.trial)) (.ok "a1"),
  .asked (.call (.findHost "a1")) (.error (.server 503 "")), .rested (.ofSeconds 3),
  .asked (.call (.findHost "a1")) (.ok Record.trial),
  .asked (.call (.updateHostStatus "a1" "standby")) (.ok ()),
  .asked (.save "a1") (.ok ())]

theorem leads_trial : (Registrar.trial.prepare Spec.trial (some "standby")).Leads Log.trial
    (.ok { Record.trial with status := "standby" }) :=
  .ask (.ask (.ask (.ask (.rest (.ask (.ask (.ask .done)))))))

theorem trial_registers_by_protocol :
    (Registrar.trial.prepare Spec.trial (some "standby")).Leads Log.trial
      (.ok { Record.trial with status := "standby" }) ∧
    ∃ stored rest, Log.trial = Turn.asked .load stored :: rest ∧
      Protocol Spec.trial stored (some "standby") rest
        (.ok { Record.trial with status := "standby" }) :=
  ⟨leads_trial, registers_by_protocol leads_trial⟩

end HostMonitor.Host
