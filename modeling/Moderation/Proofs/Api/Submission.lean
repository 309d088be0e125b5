import Moderation.Proofs.Api.Token
import Moderation.Proofs.Ingest.Settling
/-!
Submission of log lines over HTTP. The first check that a request fails decides the response, and
only a request that fails none leaves something behind: one batch, in the queue of the server whose
token it carries.
-/
namespace Moderation.Api
open Digest Ingest Text Time

def refusal (status : Nat) (text : String) : Response :=
  ⟨status, some (.object [("error", .string text), ("status", .integer status)])⟩

/-- The lines that the body of a request holds, however many, or the response that refuses it. -/
def Request.extracted (r : Request) : Except Response (List String) :=
  if !r.isJson then .error (.bare 415)
  else if 2097152 < r.body.utf8ByteSize then .error (.bare 413)
  else match Body.read r.body.toList with
    | .error .malformed => .error (.bare 400)
    | .error .unfit => .error (.bare 422)
    | .ok lines => .ok lines

theorem Request.lines_eq (r : Request) (complaint : List String → String) :
    r.lines complaint = match r.extracted with
      | .error response => .error response
      | .ok lines =>
        if lines.length < 1 ∨ 5000 < lines.length then .error (refusal 400 (complaint lines))
        else .ok lines := by
  unfold lines extracted maxBodySize
  cases r.isJson with
  | false => rfl
  | true =>
    by_cases hsize : 2097152 < r.body.utf8ByteSize
    · simp only [Bool.not_true, Bool.false_eq_true, hsize, if_true, if_false]
    simp only [Bool.not_true, Bool.false_eq_true, hsize, if_false]
    cases Body.read r.body.toList with
    | error e => cases e <;> rfl
    | ok lines =>
      refine if_congr ?_ rfl rfl
      rw [List.isEmpty_iff_length_eq_zero, Nat.lt_one_iff, maxLines]

def FirstWith (servers : List (String × ServerRecord)) (token : String) (record : ServerRecord) :
    Prop :=
  ∃ before after, servers = before ++ (Sha256.ofText token, record) :: after ∧
    ∀ x ∈ before, x.1 ≠ Sha256.ofText token

theorem serverOfToken?_eq_some_iff {store : Store} {token : String} {record : ServerRecord} :
    store.serverOfToken? (Sha256.ofText token) = some record ↔
      FirstWith store.servers token record := by
  rw [Store.serverOfToken?, Option.map_eq_some_iff]
  constructor
  · rintro ⟨⟨hash, found⟩, hfind, rfl⟩
    obtain ⟨hhash, before, after, heq, hbefore⟩ := List.find?_eq_some_iff_append.1 hfind
    obtain rfl : hash = Sha256.ofText token := by simpa using hhash
    exact ⟨before, after, heq, fun x hx => by simpa using hbefore x hx⟩
  · rintro ⟨before, after, heq, hbefore⟩
    refine ⟨(Sha256.ofText token, record), ?_, rfl⟩
    exact List.find?_eq_some_iff_append.2
      ⟨by simp, before, after, heq, fun x hx => by simpa using hbefore x hx⟩

theorem serverOfToken?_eq_none_iff {store : Store} {token : String} :
    store.serverOfToken? (Sha256.ofText token) = none ↔
      ∀ x ∈ store.servers, x.1 ≠ Sha256.ofText token := by
  simp [Store.serverOfToken?]

namespace Service
variable {s s' : Service}

def router (s : Service) : Router := s.reception.intake.router

/-- Services that differ in what waits for ingestion at most. -/
structure Alike (s s' : Service) : Prop where
  archive : s'.archive = s.archive
  complaint : s'.complaint = s.complaint
  bus : s'.reception.intake.bus = s.reception.intake.bus
  unhandled : s'.reception.intake.unhandled = s.reception.intake.unhandled

/-- Nothing has come of a request that the routes refused. -/
structure Untouched (s s' : Service) : Prop extends Alike s s' where
  routes : ∀ id, s'.router.routes.get? id = s.router.routes.get? id

structure Queued (b : Batch) (s s' : Service) : Prop extends Alike s s' where
  others : ∀ id, b.server.id ≠ id → s'.router.routes.get? id = s.router.routes.get? id
  own : (s'.router.routes.get? b.server.id).isSome = true
  items : (s'.router.route b.server.id).queue.items =
    (s.router.route b.server.id).queue.items ++ [b]
  ingestor : (s'.router.route b.server.id).ingestor = (s.router.route b.server.id).ingestor

structure Asks (s : Service) (r : Request) (token : String) : Prop where
  carries : r.Carries token
  inTime : ¬ s.archive.limit < s.archive.fault.delay
  works : s.archive.fault.failing = false

def Knows (s : Service) (r : Request) (record : ServerRecord) : Prop :=
  ∃ token, s.Asks r token ∧ FirstWith s.archive.store.servers token record

/-- A request passes all checks but that of the queue. -/
structure Admits (s : Service) (r : Request) (record : ServerRecord) (lines : List String) :
    Prop where
  knows : s.Knows r record
  isEnabled : record.isEnabled = true
  extracted : r.extracted = .ok lines
  count : 1 ≤ lines.length ∧ lines.length ≤ 5000

/-- What becomes of a request with log lines, check by check: the response, and the service after
it. -/
inductive Verdict (s : Service) (r : Request) : Response → Service → Prop where
  | noToken (h : ∀ token, ¬ r.Carries token) :
    Verdict s r (refusal 401 "Authentication required") s
  | storeTooSlow {token : String} (htoken : r.Carries token)
    (h : s.archive.limit < s.archive.fault.delay) :
    Verdict s r (refusal 503 "Server busy, retry later") s
  | storeFailing {token : String} (htoken : r.Carries token)
    (hintime : ¬ s.archive.limit < s.archive.fault.delay) (h : s.archive.fault.failing = true) :
    Verdict s r (refusal 500 "Database error occurred") s
  | unknown {token : String} (hasks : s.Asks r token)
    (h : ∀ x ∈ s.archive.store.servers, x.1 ≠ Sha256.ofText token) :
    Verdict s r (refusal 401 "Authentication required") s
  | disabled {record : ServerRecord} (hknows : s.Knows r record)
    (h : record.isEnabled = false) : Verdict s r (refusal 403 "Access denied") s
  | unreadable {record : ServerRecord} {response : Response} (hknows : s.Knows r record)
    (henabled : record.isEnabled = true) (h : r.extracted = .error response) :
    Verdict s r response s
  | miscounted {record : ServerRecord} {lines : List String} (hknows : s.Knows r record)
    (henabled : record.isEnabled = true) (hlines : r.extracted = .ok lines)
    (h : lines.length < 1 ∨ 5000 < lines.length) : Verdict s r (refusal 400 (s.complaint lines)) s
  | crowded {record : ServerRecord} {lines : List String} {s' : Service}
    (hadmits : s.Admits r record lines) (h : ¬ (s.router.route record.id).queue.HasRoom)
    (hs : Untouched s s') : Verdict s r (refusal 503 "Server busy, retry later") s'
  | accepted {record : ServerRecord} {lines : List String} {s' : Service}
    (hadmits : s.Admits r record lines) (h : (s.router.route record.id).queue.HasRoom)
    (hs : Queued ⟨⟨record.id, record.name⟩, lines⟩ s s') :
    Verdict s r ⟨202, some (.object [("accepted", .integer lines.length)])⟩ s'

def answer (s : Service) (r : Request) : Except Failure Server → Response × Service
  | .error f => (.ofFailure f, s)
  | .ok server => s.accept r server

theorem handle_log {now : Instant} {r : Request} (hmethod : r.method = "POST")
    (hpath : r.path = "/api/v1/log") :
    s.handle now r = (s.waited now r.token?).answer r
      ((s.waited now r.token?).authenticate r.token?) := by
  have hhealth : ¬ r.path = "/health" := by
    rw [hpath]
    decide
  have hhead : ¬ r.method = "HEAD" := by
    rw [hmethod]
    decide
  simp only [handle, respond, if_neg hhealth, if_neg hhead]
  cases (s.waited now r.token?).authenticate r.token? with
  | error f => rfl
  | ok server =>
    simp only [serve, answer, if_neg (not_not.2 hpath), if_neg (not_not.2 hmethod)]

theorem hasRoom_ofCapacity (capacity : Nat) : (Queue.ofCapacity capacity : Queue Batch).HasRoom :=
  ⟨rfl, Nat.lt_of_lt_of_le Nat.zero_lt_one (Nat.le_max_left ..)⟩

/-- The service after a route has been put back and its task woken. -/
def back (s : Service) (id : Int) (route : Route) : Service :=
  let router := { s.router with routes := s.router.routes.insert id route }
  { s with reception := ⟨{ s.reception.intake with router }, s.reception.agenda.wake id⟩ }

theorem get?_back (s : Service) (id : Int) (route : Route) (x : Int) :
    (s.back id route).router.routes.get? x =
      if id = x then some route else s.router.routes.get? x :=
  Table.get?_insert ..

theorem accept_of_hasRoom {r : Request} {lines : List String} (server : Server)
    (hlines : r.lines s.complaint = .ok lines) (h : (s.router.route server.id).queue.HasRoom) :
    ∃ s', s.accept r server = (⟨202, some (.object [("accepted", .integer lines.length)])⟩, s') ∧
      Queued ⟨server, lines⟩ s s' := by
  obtain ⟨queue, hoffer⟩ := Queue.offer_of_hasRoom h (⟨server, lines⟩ : Batch)
  have hsubmit : s.reception.intake.router.submit ⟨server, lines⟩ = (.ok (),
      (s.back server.id { s.router.route server.id with queue }).router) := by
    rw [router] at hoffer
    simp only [Router.submit, hoffer]
    rfl
  have hroute : (s.back server.id { s.router.route server.id with queue }).router.route server.id =
      { s.router.route server.id with queue } :=
    Intake.route_of_get? ((get?_back ..).trans (if_pos rfl))
  refine ⟨s.back server.id { s.router.route server.id with queue }, ?_, ⟨rfl, rfl, rfl, rfl⟩,
    fun id hid => (get?_back ..).trans (if_neg hid), ?_, ?_, ?_⟩
  · simp only [accept, hlines, Reception.submit, hsubmit]
    rfl
  · rw [get?_back, if_pos rfl]
    rfl
  · rw [hroute]
    exact (Queue.items_offer hoffer).1
  · rw [hroute]

theorem accept_of_not_hasRoom {r : Request} {lines : List String} (server : Server)
    (hlines : r.lines s.complaint = .ok lines) (h : ¬ (s.router.route server.id).queue.HasRoom) :
    ∃ s', s.accept r server = (refusal 503 "Server busy, retry later", s') ∧ Untouched s s' := by
  obtain ⟨cause, hoffer⟩ := Queue.offer_of_not_hasRoom h (⟨server, lines⟩ : Batch)
  have hsubmit : s.reception.intake.router.submit ⟨server, lines⟩ =
      (.error (.ofRefusal server.name cause),
        (s.back server.id (s.router.route server.id)).router) := by
    rw [router] at hoffer
    simp only [Router.submit, hoffer]
    rfl
  refine ⟨s.back server.id (s.router.route server.id), ?_, ⟨rfl, rfl, rfl, rfl⟩,
    fun id => (get?_back ..).trans ?_⟩
  · simp only [accept, hlines, Reception.submit, hsubmit]
    rfl
  split
  next hid =>
    subst hid
    -- a server without a route would have an empty queue
    cases hget : s.router.routes.get? server.id with
    | none =>
      rw [Router.route, hget] at h
      exact absurd (hasRoom_ofCapacity _) h
    | some route => rw [Intake.route_of_get? hget]
  next => rfl

theorem verdict_accept {r : Request} {record : ServerRecord} (hknows : s.Knows r record)
    (henabled : record.isEnabled = true) :
    Verdict s r (s.accept r ⟨record.id, record.name⟩).1 (s.accept r ⟨record.id, record.name⟩).2 := by
  cases hextracted : r.extracted with
  | error response =>
    have haccept : s.accept r ⟨record.id, record.name⟩ = (response, s) := by
      simp only [accept, Request.lines_eq, hextracted]
    rw [haccept]
    exact .unreadable hknows henabled hextracted
  | ok lines =>
    have hlines := r.lines_eq s.complaint
    rw [hextracted] at hlines
    simp only at hlines
    by_cases hcount : lines.length < 1 ∨ 5000 < lines.length
    · rw [if_pos hcount] at hlines
      have haccept : s.accept r ⟨record.id, record.name⟩ = (refusal 400 (s.complaint lines), s) := by
        simp only [accept, hlines]
      rw [haccept]
      exact .miscounted hknows henabled hextracted hcount
    · rw [if_neg hcount] at hlines
      have hadmits : s.Admits r record lines := ⟨hknows, henabled, hextracted, by omega⟩
      by_cases hroom : (s.router.route record.id).queue.HasRoom
      · obtain ⟨s', haccept, hqueued⟩ := accept_of_hasRoom ⟨record.id, record.name⟩ hlines hroom
        rw [haccept]
        exact .accepted hadmits hroom hqueued
      · obtain ⟨s', haccept, hsame⟩ := accept_of_not_hasRoom ⟨record.id, record.name⟩ hlines hroom
        rw [haccept]
        exact .crowded hadmits hroom hsame

theorem verdict_asked {r : Request} {token : String} (hasks : s.Asks r token) :
    Verdict s r (s.answer r (s.authenticate (some token))).1
      (s.answer r (s.authenticate (some token))).2 := by
  have hcall : (s.archive.call fun store => store.serverOfToken? (Sha256.ofText token)) =
      .ok (s.archive.store.serverOfToken? (Sha256.ofText token)) := by
    simp [Archive.call, Fault.call, hasks.inTime, hasks.works]
  cases hfound : s.archive.store.serverOfToken? (Sha256.ofText token) with
  | none =>
    have hauth : s.authenticate (some token) = .error .unauthorized := by
      simp only [authenticate, hcall, hfound]
    rw [hauth]
    exact .unknown hasks (serverOfToken?_eq_none_iff.1 hfound)
  | some record =>
    have hknows : s.Knows r record := ⟨token, hasks, serverOfToken?_eq_some_iff.1 hfound⟩
    cases henabled : record.isEnabled with
    | false =>
      have hauth : s.authenticate (some token) = .error .forbidden := by
        simp only [authenticate, hcall, hfound, henabled]
        rfl
      rw [hauth]
      exact .disabled hknows henabled
    | true =>
      have hauth : s.authenticate (some token) = .ok ⟨record.id, record.name⟩ := by
        simp only [authenticate, hcall, hfound, henabled]
        rfl
      rw [hauth]
      exact verdict_accept hknows henabled

theorem verdict_answer (s : Service) (r : Request) :
    Verdict s r (s.answer r (s.authenticate r.token?)).1
      (s.answer r (s.authenticate r.token?)).2 := by
  cases htoken : r.token? with
  | none =>
    have hno : ∀ token, ¬ r.Carries token := fun token hcarries => by
      cases htoken.symm.trans (Request.token?_eq_some_iff.2 hcarries)
    exact .noToken hno
  | some token =>
    have hcarries : r.Carries token := Request.token?_eq_some_iff.1 htoken
    by_cases hslow : s.archive.limit < s.archive.fault.delay
    · have hauth : s.authenticate (some token) =
          .error (.unavailable (StoreError.timeout s.archive.limit).message) := by
        simp only [authenticate, Archive.call, Fault.call, if_pos hslow]
        rfl
      rw [hauth]
      exact .storeTooSlow hcarries hslow
    cases hfailing : s.archive.fault.failing with
    | true =>
      have hauth : s.authenticate (some token) = .error (.database Fault.unavailable.message) := by
        simp only [authenticate, Archive.call, Fault.call, if_neg hslow, hfailing]
        rfl
      rw [hauth]
      exact .storeFailing hcarries hslow hfailing
    | false => exact verdict_asked ⟨hcarries, hslow, hfailing⟩

theorem archive_waited (s : Service) (now : Instant) (token : Option String) :
    (s.waited now token).archive = s.archive := by
  unfold waited
  split <;> rfl

theorem complaint_waited (s : Service) (now : Instant) (token : Option String) :
    (s.waited now token).complaint = s.complaint := by
  unfold waited
  split <;> rfl

theorem drains_waited (s : Service) (now : Instant) (token : Option String) :
    s.router.Drains (s.waited now token).router := by
  unfold waited
  split
  · exact .refl _
  · exact s.reception.drains_settle _

theorem Untouched.refl (s : Service) : Untouched s s := ⟨⟨rfl, rfl, rfl, rfl⟩, fun _ => rfl⟩

theorem Queued.get?_ne {b : Batch} (h : Queued b s s') :
    s'.router.routes.get? b.server.id ≠ s.router.routes.get? b.server.id := by
  intro hsame
  obtain ⟨route, hroute⟩ := Option.isSome_iff_exists.1 h.own
  have hitems := h.items
  rw [Intake.route_of_get? hroute, Intake.route_of_get? (hsame.symm.trans hroute)] at hitems
  simp at hitems

theorem Untouched.not_queued (h : Untouched s s') (b : Batch) : ¬ Queued b s s' :=
  fun hb => hb.get?_ne (h.routes _)

theorem Queued.eq {b b' : Batch} (h : Queued b s s') (h' : Queued b' s s') : b = b' := by
  -- each of two batches for two servers would leave the queue of the other as it was
  by_cases hid : b.server.id = b'.server.id
  · have hitems := h.items
    rw [hid, h'.items] at hitems
    simpa using hitems.symm
  · exact absurd (h.others _ hid) h'.get?_ne

theorem Verdict.of_queued {r : Request} {response : Response} {b : Batch}
    (h : Verdict s r response s') (hb : Queued b s s') :
    response = ⟨202, some (.object [("accepted", .integer b.lines.length)])⟩ ∧
      ∃ record, s.Admits r record b.lines ∧ b.server = ⟨record.id, record.name⟩ := by
  cases h with
  | crowded hadmits hfull hs => exact absurd hb (hs.not_queued b)
  | accepted hadmits hroom hs =>
    obtain rfl := hb.eq hs
    exact ⟨rfl, _, hadmits, rfl⟩
  | _ => exact absurd hb ((Untouched.refl s).not_queued b)

theorem status_of_unreadable {r : Request} {response : Response}
    (h : r.extracted = .error response) :
    response.status ∈ [400, 413, 415, 422] := by
  unfold Request.extracted at h
  split at h
  next => cases h; decide
  next =>
    split at h
    next => cases h; decide
    next =>
      split at h <;> cases h <;> decide

theorem Verdict.exists_queued {r : Request} {response : Response}
    (h : Verdict s r response s') (hstatus : response.status = 202) : ∃ b, Queued b s s' := by
  cases h with
  | unreadable hknows henabled hform =>
    have hmem := status_of_unreadable hform
    rw [hstatus] at hmem
    simp at hmem
  | accepted hadmits hroom hs => exact ⟨_, hs⟩
  | _ => cases hstatus

/-- The first check that a request with log lines fails decides the response. While the store takes
its time, batches only leave the queues, and no server gets a route. What the service does with the
request itself is told by its verdict: it is left as it is by every check before that of the queue,
and one batch is queued exactly if the lines are accepted: these lines, for the server whose token
the request carries. -/
theorem log_submission (s : Service) (now : Instant) (r : Request) (hmethod : r.method = "POST")
    (hpath : r.path = "/api/v1/log") :
    let waited := s.waited now r.token?
    let response := (s.handle now r).1
    let after := (s.handle now r).2
    (waited.archive = s.archive ∧ waited.complaint = s.complaint ∧
      s.router.Drains waited.router) ∧
    Verdict waited r response after ∧
    (response.status = 202 → ∃ b, Queued b waited after) ∧
    (∀ b, Queued b waited after →
      response = ⟨202, some (.object [("accepted", .integer b.lines.length)])⟩ ∧
      ∃ record, waited.Admits r record b.lines ∧ b.server = ⟨record.id, record.name⟩) := by
  intro waited response after
  have hverdict : Verdict waited r response after := by
    have h := verdict_answer waited r
    rw [← handle_log hmethod hpath] at h
    exact h
  exact ⟨⟨archive_waited s now _, complaint_waited s now _, drains_waited s now _⟩, hverdict,
    hverdict.exists_queued, fun b hb => hverdict.of_queued hb⟩

def gate : Service where
  archive := ⟨{ Store.empty with
    servers := [(Sha256.ofText "t", ⟨7, "srv-7", "", 0, "", true⟩)] }, .none, ⟨1⟩⟩
  reception := .start 8 .empty
  complaint := fun _ => ""

def knock : Request where
  method := "POST"
  target := "/api/v1/log?x=1"
  authorization := some "Bearer t "
  contentType := some "application/json"
  body := "\x7b\"lines\":[\"x\",\"y\"]\x7d"

theorem log_submission_knock :
    knock.method = "POST" ∧ knock.path = "/api/v1/log" ∧
    ∃ b, Queued b (gate.waited ⟨0⟩ knock.token?) (gate.handle ⟨0⟩ knock).2 ∧
      (gate.handle ⟨0⟩ knock).1 = ⟨202, some (.object [("accepted", .integer b.lines.length)])⟩ := by
  have hpath : knock.path = "/api/v1/log" := by decide +kernel
  obtain ⟨-, -, hqueued, hbatch⟩ := log_submission gate ⟨0⟩ knock rfl hpath
  obtain ⟨b, hb⟩ := hqueued (by decide +kernel)
  exact ⟨rfl, hpath, b, hb, (hbatch b hb).1⟩

end Service
end Moderation.Api
