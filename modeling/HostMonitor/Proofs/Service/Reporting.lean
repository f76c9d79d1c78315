import HostMonitor.Proofs.Wire
import HostMonitor.Service.Request
import Mathlib.Data.List.Forall2

namespace HostMonitor.Service

open Check (Report)
open Json

structure Settles (r s : Report) : Prop where
  name : s.name = r.name
  status : s.status = r.status
  message : s.message = r.message
  whole : s.occurredAt.nanos = 0
  second : s.occurredAt.seconds = r.occurredAt.sinceEpoch / 1_000_000_000

def sourceOf (hostId : String) : Value :=
  .object [("type", .string "host"), ("hostId", .string hostId)]

/-- The item is the report of a check of the host. -/
structure Carries (hostId : String) (r : Report) (item : Value) : Prop where
  source : ∃ ms, item = .object ms ∧ (ms.map Prod.fst).Nodup ∧
    ms.lookup "source" = some (sourceOf hostId)
  rest : item.without "source" = encode r

variable {hostId : String} {reports : List Report} {r s : Report} {items : List Value}
  {item : Value}

theorem carries_reportBody : Carries hostId r (reportBody hostId r) where
  source := by
    have names : ["source", "name", "status", "message", "occurredAt"].Nodup := by decide
    exact ⟨_, rfl, names, rfl⟩
  rest := rfl

theorem settles_settled : Settles r r.settled := ⟨rfl, rfl, rfl, rfl, r.occurredAt.seconds_eq⟩

theorem decode?_without {name : String}
    (unknown : name ∉ ["name", "status", "message", "occurredAt"]) (v : Value) :
    (decode? (v.without name).toDocument : Option Report) = decode? v.toDocument :=
  congrArg (· >>= _) (fields?_without unknown v)

theorem Carries.read (carries : Carries hostId r item) :
    decode? item.toDocument = some r.settled := by
  have unknown : "source" ∉ ["name", "status", "message", "occurredAt"] := by decide
  rw [← decode?_without unknown, carries.rest, r.back]

theorem read_items (carried : List.Forall₂ (Carries hostId) reports items) :
    items.mapM (fun item => decode? item.toDocument) = some (reports.map Report.settled) := by
  induction carried with
  | nil => rfl
  | cons first _ ih => rw [List.mapM_cons, first.read, ih]; rfl

/-- The service gets one item for each report, in order, and reads the reports from them as from the
forms of the reports themselves, to the second. -/
theorem report_encodings_agree (hostId : String) (reports : List Report) :
    ∃ items, (Call.reportChecks hostId reports).body = some (.object [("reports", .array items)]) ∧
      List.Forall₂ (Carries hostId) reports items ∧
      ∃ read, items.mapM (fun item => decode? item.toDocument) = some read ∧
        List.Forall₂ Settles reports read := by
  have carried : List.Forall₂ (Carries hostId) reports (reports.map (reportBody hostId)) :=
    List.forall₂_map_right_iff.mpr (List.forall₂_same.mpr fun _ _ => carries_reportBody)
  refine ⟨_, rfl, carried, _, read_items carried, ?_⟩
  exact List.forall₂_map_right_iff.mpr (List.forall₂_same.mpr fun _ _ => settles_settled)

example : decode? (reportBody "h1" ⟨"disk", .warning, "low space",
      ⟨-1, 500_000_000, by decide, by decide, by decide⟩⟩).toDocument =
    some (⟨"disk", .warning, "low space", ⟨-1, 0, by decide, by decide, by decide⟩⟩ : Report) :=
  rfl

end HostMonitor.Service
