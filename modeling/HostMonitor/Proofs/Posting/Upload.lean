import HostMonitor.Companion
import HostMonitor.Proofs.Posting.Posts
import Mathlib

/-!
What becomes of an upload that the service has answered. The client takes a response for success if
its status is one and its body is the text of a JSON value, and the scheduler makes every other
upload again. A response without a body is therefore no success, whatever its status.
-/

namespace HostMonitor.Service

namespace Response

def hasValue (r : Response) : Bool := ((Json.parse? r.text).bind Json.Document.value?).isSome

def isUnderstood (r : Response) : Bool := r.isSuccess && r.hasValue

variable {r : Response}

theorem hasValue_of_bodiless (bodiless : isBodiless r.status = true) : r.hasValue = false := by
  have text : r.text = "" := if_pos bodiless
  rw [hasValue, text]
  rfl

theorem decode_anything_of_hasValue (success : r.isSuccess = true) (valued : r.hasValue = true) :
    r.decode anything? = .ok () := by
  obtain ⟨v, found⟩ := Option.isSome_iff_exists.mp valued
  obtain ⟨d, parsed, value⟩ := Option.bind_eq_some_iff.mp found
  simp only [decode, document, if_pos success, parsed, anything?, value, Option.map_some]

theorem decode_anything_of_not_hasValue (success : r.isSuccess = true)
    (valueless : r.hasValue = false) :
    ∃ reason, r.decode anything? = .error (.undecodable reason) := by
  cases parsed : Json.parse? r.text with
  | none =>
    refine ⟨"the body is no JSON text", ?_⟩
    simp only [decode, document, if_pos success, parsed]
  | some d =>
    have value : d.value? = none := by simpa [hasValue, parsed] using valueless
    refine ⟨"the body lacks an expected field", ?_⟩
    simp only [decode, document, if_pos success, parsed, anything?, value, Option.map_none]

theorem decode_anything_of_failure (failure : r.isSuccess = false) :
    r.decode anything? = .error (.ofStatus r.status r.text) := by
  have failure : ¬ r.isSuccess = true := by simp [failure]
  simp only [decode, document, if_neg failure]

theorem isOk_decode_anything : (r.decode anything?).isOk = r.isUnderstood := by
  cases success : r.isSuccess with
  | false =>
    rw [decode_anything_of_failure success, isUnderstood, success]
    rfl
  | true =>
    cases valued : r.hasValue with
    | true =>
      rw [decode_anything_of_hasValue success valued, isUnderstood, success, valued]
      rfl
    | false =>
      obtain ⟨reason, decoded⟩ := decode_anything_of_not_hasValue success valued
      rw [decoded, isUnderstood, success, valued]
      rfl

end Response

def Client.hears (client : Client) (c : Call) (answer : Option Response) : c.Reply :=
  match client.request? c with
  | none => c.unanswered "the request could not be built"
  | some _ => Companion.reply c answer

namespace Client

variable {client : Client} {samples : List Metric.Sample} {r : Response} {answer : Option Response}

theorem hears_of_asked (asked : (client.request? (.postMetrics samples)).isSome) :
    client.hears (.postMetrics samples) (some r) = (r.decode anything? : Except Error Unit) := by
  obtain ⟨request, built⟩ := Option.isSome_iff_exists.mp asked
  rw [hears, built]
  rfl

theorem isOk_hears (asked : answer.isSome → (client.request? (.postMetrics samples)).isSome) :
    (client.hears (.postMetrics samples) answer).isOk = answer.any Response.isUnderstood := by
  cases answer with
  | none =>
    rw [hears]
    split <;> rfl
  | some r =>
    rw [hears_of_asked (asked rfl)]
    exact Response.isOk_decode_anything

end Client

end HostMonitor.Service

namespace HostMonitor.Posting

open HostMonitor.Metric (Batch)
open Service (Client Response)
open Scheduler (Effect History Run)

/-- A post as the client makes it: a response comes only to a request, and the scheduler is told
whether the client took it for success. -/
structure Exchange (client : Client) (r : List Batch × Bool) (answer : Option Response) : Prop where
  asked : answer.isSome → (client.request? (.postMetrics (Scheduler.samplesOf r.1))).isSome
  told : r.2 = (client.hears (.postMetrics (Scheduler.samplesOf r.1)) answer).isOk

def Scheduler.History.Over (client : Client) (answers : List (Option Response)) (h : History) :
    Prop := List.Forall₂ (Exchange client) h.replies answers

variable {client : Client} {r : List Batch × Bool} {a : Response} {answer : Option Response}
  {answers : List (Option Response)} {p : Parcel} {l m : Ledger} {h : History} {s : Scheduler}
  {settings : Settings} {offset : Span} {queue : Queue} {capacity : Nat}

namespace Exchange

theorem hears (made : Exchange client r (some a)) :
    client.hears (.postMetrics (Scheduler.samplesOf r.1)) (some a) =
      (a.decode Service.anything? : Except Service.Error Unit) :=
  Client.hears_of_asked (made.asked rfl)

theorem verdict (made : Exchange client r answer) : r.2 = answer.any Response.isUnderstood :=
  made.told.trans (Client.isOk_hears made.asked)

theorem of_verdict
    (asked : answer.isSome → (client.request? (.postMetrics (Scheduler.samplesOf r.1))).isSome)
    (verdict : r.2 = answer.any Response.isUnderstood) : Exchange client r answer :=
  ⟨asked, verdict.trans (Client.isOk_hears asked).symm⟩

end Exchange

namespace Ledger

/-- What the service has accepted is in no later post. -/
def Onward (l : Ledger) : Prop := l.posts.Pairwise fun a b => a.2 = true → ∀ p ∈ a.1, p ∉ b.1

theorem mem_delivered {ps : List Parcel} (posted : (ps, true) ∈ l.posts) (hp : p ∈ ps) :
    p ∈ l.delivered :=
  List.mem_flatMap.mpr ⟨(ps, true), List.mem_filter.mpr ⟨posted, rfl⟩, hp⟩

theorem Balanced.notMem_of_delivered (balanced : l.Balanced) (hp : p ∈ l.delivered) :
    p ∉ l.abandoned ∧ p ∉ l.left := by
  have nodup := balanced.nodup_places
  simp only [places, List.nodup_append, List.mem_append] at nodup
  obtain ⟨⟨-, -, abandoned⟩, -, left⟩ := nodup
  exact ⟨fun hq => abandoned p hp p hq rfl, fun hq => left p (.inl hp) p hq rfl⟩

namespace Onward

theorem moved (onward : l.Onward) (posts : m.posts = l.posts) : m.Onward := by
  rwa [Onward, posts]

theorem posted (onward : l.Onward) (balanced : l.Balanced) {verdict : Bool}
    (posts : m.posts = l.posts ++ [(l.hand, verdict)]) : m.Onward := by
  rw [Onward, posts, List.pairwise_append]
  refine ⟨onward, List.pairwise_singleton _ _, ?_⟩
  rintro ⟨ps, accepted⟩ ha _ hb rfl p hp hand
  cases List.mem_singleton.mp hb
  exact (balanced.only_in_hand hand).2.2.1 (mem_delivered ha hp)

theorem note (onward : l.Onward) (balanced : l.Balanced) (room : Bool) (f : Effect) :
    (l.note room f).Onward := by
  cases f with
  | took b => exact onward.moved posts_take
  | delivered cycle => exact onward.posted balanced rfl
  | failed cycle => exact onward.posted balanced rfl
  | gaveBack b => exact onward.moved (posts_giveBack room)
  | abandoned b => exact onward.moved posts_abandon
  | _ => exact onward

end Onward

theorem onward_of (h : History) : (of h).Onward := by
  refine (of_induction (P := fun l => l.Balanced ∧ l.Onward) ⟨balanced_empty, .nil⟩ ?_ h).2
  exact fun room f ⟨balanced, onward⟩ => ⟨balanced.note room f, onward.note balanced room f⟩

theorem Onward.notMem_later (onward : l.Onward) {i j : Nat} {ps qs : List Parcel} {accepted : Bool}
    (first : l.posts[i]? = some (ps, true)) (later : l.posts[j]? = some (qs, accepted))
    (order : i < j) (hp : p ∈ ps) : p ∉ qs := by
  obtain ⟨hi, first⟩ := List.getElem?_eq_some_iff.mp first
  obtain ⟨hj, later⟩ := List.getElem?_eq_some_iff.mp later
  have apart := List.pairwise_iff_getElem.mp onward i j hi hj order
  rw [first, later] at apart
  exact apart rfl p hp

theorem Onward.place_of_failed (onward : l.Onward) (balanced : l.Balanced) (known : l.Known)
    {i : Nat} {ps : List Parcel} (failed : l.posts[i]? = some (ps, false)) (hp : p ∈ ps) :
    p ∈ l.left ∨ p ∈ l.abandoned ∨ ∃ j qs, i < j ∧ l.posts[j]? = some (qs, true) ∧ p ∈ qs := by
  have accepted := known _ (List.mem_of_getElem? failed) p hp
  -- It is somewhere, and what was delivered before it failed could not have failed.
  have place := balanced.placed.subset accepted
  simp only [places, List.mem_append] at place
  rcases place with (delivered | abandoned) | left
  · obtain ⟨⟨qs, verdict⟩, answered, hq⟩ := List.mem_flatMap.mp delivered
    obtain ⟨answered, rfl⟩ : (qs, verdict) ∈ l.posts ∧ verdict = true := by simpa using answered
    obtain ⟨j, found⟩ := List.mem_iff_getElem?.mp answered
    refine .inr (.inr ⟨j, qs, ?_, found, hq⟩)
    rcases Nat.lt_trichotomy i j with later | rfl | earlier
    · exact later
    · simp [found] at failed
    · exact absurd hp (onward.notMem_later found failed earlier hq)
  · exact .inr (.inl abandoned)
  · exact .inl left

theorem Fits.reply {i : Nat} {ps : List Parcel} {accepted : Bool} (fits : l.Fits h s)
    (posted : l.posts[i]? = some (ps, accepted)) :
    ∃ cycle, h.replies[i]? = some (cycle, accepted) ∧ Parcel.contents ps = contents cycle := by
  have same := congrArg (·[i]?) fits.posts
  simp only [List.getElem?_map, posted, Option.map_some] at same
  obtain ⟨⟨cycle, verdict⟩, found, shown⟩ := Option.map_eq_some_iff.mp same.symm
  obtain ⟨samples, rfl⟩ := Prod.mk.inj shown
  exact ⟨cycle, found, samples.symm⟩

end Ledger

theorem Scheduler.History.Over.exchange (carried : h.Over client answers) {i : Nat}
    (replied : h.replies[i]? = some r) (answered : answers[i]? = some answer) :
    Exchange client r answer := by
  obtain ⟨_, pairs⟩ := List.forall₂_iff_get.mp carried
  obtain ⟨hi, replied⟩ := List.getElem?_eq_some_iff.mp replied
  obtain ⟨hj, answered⟩ := List.getElem?_eq_some_iff.mp answered
  have pair := pairs i hi hj
  rw [List.get_eq_getElem, List.get_eq_getElem, replied, answered] at pair
  exact pair

/-- How uploads end that are made by a client of the service. The scheduler is told of success
exactly if the status of the response is one and its body is the text of a JSON value. If only the
body is not, the response is said to be undecodable. An upload that was taken for success is in no
later post and in no place from which it could be posted. Every other one is posted again, unless it
is given up or waits for it still. -/
structure Uploaded (client : Client) (answers : List (Option Response)) (l : Ledger) (h : History)
    (s : Scheduler) : Prop where
  fits : l.Fits h s
  verdict : ∀ {i : Nat} {r answer}, h.replies[i]? = some r → answers[i]? = some answer →
    r.2 = answer.any Response.isUnderstood
  heard : ∀ {i : Nat} {r a}, h.replies[i]? = some r → answers[i]? = some (some a) →
    a.isSuccess = true →
    (a.hasValue = true ∧
        client.hears (.postMetrics (Scheduler.samplesOf r.1)) (some a) = Except.ok ()) ∨
      (a.hasValue = false ∧ ∃ reason,
        client.hears (.postMetrics (Scheduler.samplesOf r.1)) (some a) =
          Except.error (.undecodable reason))
  final : ∀ {i : Nat} {ps accepted a}, l.posts[i]? = some (ps, accepted) →
    answers[i]? = some (some a) → a.isSuccess = true → a.hasValue = true →
    accepted = true ∧ ∀ p ∈ ps, p ∉ l.left ∧ p ∉ l.abandoned ∧
      ∀ {j : Nat} {r}, i < j → l.posts[j]? = some r → p ∉ r.1
  repeated : ∀ {i : Nat} {ps accepted answer}, l.posts[i]? = some (ps, accepted) →
    answers[i]? = some answer → answer.any Response.isUnderstood = false →
    accepted = false ∧ ∀ p ∈ ps, p ∈ l.left ∨ p ∈ l.abandoned ∨
      ∃ j qs, i < j ∧ l.posts[j]? = some (qs, true) ∧ p ∈ qs

theorem understood_uploads_final (built : Queue.ofCapacity? capacity = some queue)
    (run : Run (.start settings offset queue) h s) (carried : h.Over client answers) :
    Uploaded client answers (Ledger.of h) h s := by
  have fits := Ledger.fits_of_run built run
  have balanced := Ledger.balanced_of h
  have onward := Ledger.onward_of h
  have verdict : ∀ {i : Nat} {r answer}, h.replies[i]? = some r → answers[i]? = some answer →
      r.2 = answer.any Response.isUnderstood :=
    fun replied answered => (carried.exchange replied answered).verdict
  have told : ∀ {i : Nat} {ps accepted answer}, (Ledger.of h).posts[i]? = some (ps, accepted) →
      answers[i]? = some answer → accepted = answer.any Response.isUnderstood := by
    intro i ps accepted answer posted answered
    obtain ⟨cycle, replied, -⟩ := fits.reply posted
    exact verdict replied answered
  constructor
  case fits => exact fits
  case verdict => exact verdict
  case heard =>
    intro i r a replied answered success
    rw [(carried.exchange replied answered).hears]
    cases valued : a.hasValue with
    | true => exact .inl ⟨rfl, Response.decode_anything_of_hasValue success valued⟩
    | false => exact .inr ⟨rfl, Response.decode_anything_of_not_hasValue success valued⟩
  case final =>
    intro i ps accepted a posted answered success valued
    obtain rfl : accepted = true := by
      simpa [Response.isUnderstood, success, valued] using told posted answered
    refine ⟨rfl, fun p hp => ?_⟩
    have delivered := Ledger.mem_delivered (List.mem_of_getElem? posted) hp
    obtain ⟨abandoned, left⟩ := balanced.notMem_of_delivered delivered
    exact ⟨left, abandoned, fun later found => onward.notMem_later posted found later hp⟩
  case repeated =>
    intro i ps accepted answer posted answered ignored
    obtain rfl : accepted = false := (told posted answered).trans ignored
    exact ⟨rfl, fun p hp => onward.place_of_failed balanced (Ledger.known_of h) posted hp⟩

namespace Upload

def service : Client := ⟨"http://service", "key"⟩

theorem service_asks (samples : List Metric.Sample) :
    (service.request? (.postMetrics samples)).isSome = true := by
  cbv

def unavailable : Response := ⟨503, []⟩

def noContent : Response := ⟨204, []⟩

def confirmation : Response := ⟨200, [0x7b, 0x7d]⟩

def parcel : Parcel := ⟨0, Scheduler.reading⟩

theorem run_of_two_posts (ignored : a.isUnderstood = false) : ∃ h s, Run Scheduler.trial h s ∧
    h.Over service [some a, some confirmation] ∧
    (Ledger.of h).posts = [([parcel], false), ([parcel], true)] := by
  obtain ⟨h, s, run, seen⟩ := Run.of_play Scheduler.trial
    (Scheduler.atOnce [.offer Scheduler.reading, .take, .merge, .choose, .elapse, .reply false,
      .giveBack, .giveBack, .take, .merge, .choose] ++
      [(⟨60_000, .epoch⟩, .elapse), (⟨60_000, .epoch⟩, .reply true)])
    (fun r => (r.1.replies, (Ledger.of r.1).posts)) rfl
  obtain ⟨replies, posts⟩ := Prod.mk.inj seen
  refine ⟨h, s, run, ?_, posts⟩
  rw [Scheduler.History.Over, replies]
  have first : false = (some a).any Response.isUnderstood := by simp [ignored]
  have second : true = (some confirmation).any Response.isUnderstood := by decide
  exact .cons (.of_verdict (fun _ => service_asks _) first)
    (.cons (.of_verdict (fun _ => service_asks _) second) .nil)

end Upload

theorem uploads_of_a_trial_final : ∃ h s, Run Scheduler.trial h s ∧
    (Ledger.of h).posts = [([Upload.parcel], false), ([Upload.parcel], true)] ∧
    Uploaded Upload.service [some Upload.unavailable, some Upload.confirmation] (Ledger.of h) h
      s := by
  obtain ⟨h, s, run, carried, posts⟩ := Upload.run_of_two_posts (a := Upload.unavailable) rfl
  have built : Queue.ofCapacity? 1 = some _ := rfl
  exact ⟨h, s, run, posts, understood_uploads_final built run carried⟩

/-- An upload that the service takes with status 204 is made again. -/
theorem upload_without_content_repeated : ∃ h s, Run Scheduler.trial h s ∧
    h.Over Upload.service [some Upload.noContent, some Upload.confirmation] ∧
    Upload.noContent.isSuccess = true ∧
    (Ledger.of h).posts = [([Upload.parcel], false), ([Upload.parcel], true)] := by
  have ignored : Upload.noContent.isUnderstood = false := by
    rw [Response.isUnderstood, Response.hasValue_of_bodiless rfl, Bool.and_false]
  obtain ⟨h, s, run, carried, posts⟩ := Upload.run_of_two_posts ignored
  exact ⟨h, s, run, carried, rfl, posts⟩

end HostMonitor.Posting
