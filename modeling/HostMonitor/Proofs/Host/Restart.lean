import HostMonitor.Host.IdFile
import HostMonitor.Proofs.Files.Tree
import HostMonitor.Proofs.Host.Registration
import HostMonitor.Proofs.Text.Utf8

namespace HostMonitor.Host

open Dialogue (Turn Answered)
open Files (Path Tree)
open Service (Call)

/-- The registration looks for the host with this id at once, and neither looks one up otherwise nor
creates one. -/
structure Log.Resumes (log : Log) (id : String) : Prop where
  first : ∃ reply rest, log = Turn.asked .load (some id) ::
    Turn.asked (.call (.findHost id)) reply :: rest
  lookedUp : ∀ k, ¬ log.Called (.findHostBy k)
  created : ∀ s, ¬ log.Called (.createHost s)

namespace IdFile

inductive Keeps (p : Path) (t : Tree) : (q : Question) → q.Answer → Tree → Prop
  | load : load t p = stored → Keeps p t .load stored t
  | save : save t p i = .ok u → Keeps p t (.save i) (.ok ()) u
  | lose : save t p i = .error e → Keeps p t (.save i) (.error reason) u
  | call : Keeps p t (.call c) reply t

variable {t u : Tree} {p : Path} {id : String}

theorem write_of_save (saved : save t p id = .ok u) :
    ∃ t' : Tree, t'.write p (Text.bytes id) = .ok u := by
  unfold save at saved
  split at saved
  · next directory _ =>
    cases made : t.ensureDirectories directory with
    | ok t' => rw [made] at saved; exact ⟨t', saved⟩
    | error e => rw [made] at saved; cases saved
  · exact ⟨t, saved⟩

theorem load_of_save (saved : save t p id = .ok u) :
    load u p = if (Text.trim id).isEmpty then none else some (Text.trim id) := by
  obtain ⟨t', written⟩ := write_of_save saved
  rw [load, Files.Tree.read_of_write written]
  simp only [ofContent?, Text.decode?_bytes]
  rfl

variable {log : Log} {r : Registrar} {spec : Spec} {onStart : Option String} {host : Record}

theorem save_of_prepare (leads : (r.prepare spec onStart).Leads log (.ok host))
    (kept : Answered (Keeps p) t log u) : ∃ t', save t' p host.id = .ok u := by
  obtain ⟨stored, parts, rfl⟩ := parts_of_prepare leads
  obtain ⟨-, saved⟩ := parts.returned.mp rfl
  have last := parts.last saved
  generalize parts.turns = turns at kept last
  rw [last, ← List.cons_append] at kept
  obtain ⟨t', -, last⟩ := Dialogue.answered_append.mp kept
  cases last with
  | asked answer done =>
    cases done
    cases answer with
    | save saved => exact ⟨t', saved⟩

theorem resumes_of_prepare {result : Except Failure Record}
    (leads : (r.prepare spec onStart).Leads log result) (kept : Answered (Keeps p) t log u)
    (stored : load t p = some id) : log.Resumes id := by
  obtain ⟨told, parts, rfl⟩ := parts_of_prepare leads
  have known : told = some id := by
    cases kept with
    | asked answer rest =>
      cases answer with
      | load loaded => exact loaded.symm.trans stored
  have later {c : Call} (called : Log.Called (Turn.asked .load told :: parts.turns) c) :
      parts.turns.Called c := by
    obtain ⟨reply, mem⟩ := called
    exact ⟨reply, (List.mem_cons.mp mem).resolve_left nofun⟩
  constructor
  case first =>
    obtain ⟨reply, rest, first⟩ := parts.first known
    exact ⟨reply, rest, by rw [first, known]⟩
  case lookedUp =>
    intro k called
    have unknown := (parts.called_findHostBy.mp (later called)).1
    rw [known] at unknown
    cases unknown
  case created =>
    intro s called
    have unknown := (parts.called_createHost.mp (later called)).1
    rw [known] at unknown
    cases unknown

end IdFile

/-- A registration whose store is the file at `p`, with whatever registrar, description of the
machine and status to start with. -/
inductive Starts (p : Path) (t : Tree) : Log → Except Failure Record → Tree → Prop
  | start {r : Registrar} {spec : Spec} {onStart : Option String} :
      (r.prepare spec onStart).Leads log result → Answered (IdFile.Keeps p) t log u →
      Starts p t log result u

/-- A machine is registered once: what one start has stored, the next one begins with. -/
theorem restart_resumes {p : Path} :
    (∀ t u id, IdFile.save t p id = .ok u → IdFile.load u p =
      if (Text.trim id).isEmpty then none else some (Text.trim id)) ∧
    ∀ t log host u log' result v, Starts p t log (.ok host) u → host.id ≠ "" →
      Text.trim host.id = host.id → Starts p u log' result v → log'.Resumes host.id := by
  refine ⟨fun t u id saved => IdFile.load_of_save saved, ?_⟩
  rintro t log host u log' result v ⟨first, kept⟩ some bare ⟨again, keeps⟩
  obtain ⟨t', saved⟩ := IdFile.save_of_prepare first kept
  refine IdFile.resumes_of_prepare again keeps ?_
  rw [IdFile.load_of_save saved, bare, if_neg (by simpa using some)]

def IdFile.trialPath : Path := ⟨true, ["id"], false⟩

def IdFile.trialTree : Tree := .empty ["root"]

def Log.retired : Log := [.asked .load (some "a1"),
  .asked (.call (.findHost "a1")) (.error (.notFound ""))]

theorem IdFile.resolve_trial : trialTree.resolve trialPath = .ok ["id"] := by
  simp only [Tree.resolve, trialPath, List.any_cons, List.any_nil, Bool.or_false]
  rw [if_neg (by simp)]
  rfl

theorem IdFile.load_trial : load trialTree trialPath = none := by
  simp only [load, Tree.read, resolve_trial]
  rfl

theorem IdFile.save_trial : save trialTree trialPath "a1" =
    .ok (trialTree.put ["id"] (some (.file (Text.bytes "a1")))) := by
  have root : trialTree.ensureDirectories ⟨true, [], false⟩ = .ok trialTree := by
    rw [Tree.ensureDirectories]
    rfl
  have parent : trialPath.parent? = some ⟨true, [], false⟩ := rfl
  simp only [save, parent, root]
  show trialTree.write trialPath (Text.bytes "a1") = _
  simp only [Tree.write, resolve_trial]
  rfl

theorem leads_retired : ∃ result, (Registrar.trial.prepare Spec.trial none).Leads Log.retired
    result :=
  ⟨_, .ask (.ask .done)⟩

theorem trial_restart_resumes : ∃ t host u result,
    Starts IdFile.trialPath t Log.trial (.ok host) u ∧ host.id ≠ "" ∧
      Text.trim host.id = host.id ∧ Starts IdFile.trialPath u Log.retired result u ∧
      Log.retired.Resumes host.id := by
  have first : Starts IdFile.trialPath IdFile.trialTree Log.trial _ _ :=
    .start leads_trial (.asked (.load IdFile.load_trial) (.asked .call (.asked .call (.asked .call
      (.rested (.asked .call (.asked .call (.asked (.save IdFile.save_trial) .nil))))))))
  have bare : Text.trim "a1" = "a1" := rfl
  obtain ⟨result, leads⟩ := leads_retired
  have loaded := restart_resumes.1 _ _ _ IdFile.save_trial
  rw [bare, if_neg (by simp)] at loaded
  have second : Starts IdFile.trialPath _ Log.retired result _ :=
    .start leads (.asked (.load loaded) (.asked .call .nil))
  have some : "a1" ≠ "" := by decide
  exact ⟨_, _, _, _, first, some, bare, second,
    restart_resumes.2 _ _ _ _ _ _ _ first some bare second⟩

end HostMonitor.Host
