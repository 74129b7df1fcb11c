import Trackpal.Coordinator.Complete

/-!
# What is told about a job

The three readers of a terminal job: the payload that resumes a suspended
workflow, the localized reply in it, and the response to a status poll. A result
value reaches a reader only for a job whose result type is `code` or `url`.

Results:
1. `renderLookupReply_value`: the reply to any other job is the one without a value.
2. `statusResponse_value`, `resultValue_of_not_delivered`: so are the poll and the
   payload.
-/

namespace Trackpal.Coordinator

open Trackpal.Protocol

/-- The catalogue and the text functions that a reply is made with: `t`, with the
locale, the key and the parameters, `str.title`, and `datetime.isoformat`. -/
structure Texts where
  t : String → String → List (String × String) → String
  title : String → String
  isoformat : Int → String

def serviceLabels : List (String × String) :=
  [("netflix", "Netflix"), ("disney", "Disney+"), ("hbo_max", "HBO Max"),
    ("prime_video", "Prime Video"), ("spotify", "Spotify"), ("universal_plus", "Universal+")]

def deadlineErrorCodes : List (Option String) :=
  [none, some "", some "lookup_timeout", some "timeout"]

def withActions (texts : Texts) (locale message : String) : String :=
  message ++ texts.t locale "wa.tenant.codigo.result_actions" []

/-- `value and ...`: the value if it is a text and not empty. -/
def truthy (value : Option String) : Option String := value.filter (· ≠ "")

def serviceLabel (texts : Texts) (serviceKey : String) : String :=
  (serviceLabels.lookup serviceKey).getD (texts.title (serviceKey.replace "_" " "))

def valueReply (texts : Texts) (locale service : String) (resultType resultValue : Option String) :
    Option String :=
  match resultType, truthy resultValue with
  | some "code", some value =>
    some (texts.t locale "wa.tenant.codigo.found_code" [("service", service), ("value", value)])
  | some "url", some value =>
    some (texts.t locale "wa.tenant.codigo.found_url" [("service", service), ("value", value)])
  | _, _ => none

local instance lawfulCodes : LawfulBEq (Option String) := inferInstance

/-- The other replies. -/
def statusReply (texts : Texts) (locale service : String) (status : JobStatus)
    (resultType errorCode : Option String) : Option String :=
  if resultType = some "not_found" ∨ status = .timeout ∧ errorCode ∈ deadlineErrorCodes then
    some (withActions texts locale
      (texts.t locale "wa.tenant.codigo.not_found" [("service", service)]))
  else if resultType = some "duplicate_suppressed" then
    some (withActions texts locale (texts.t locale "wa.tenant.codigo.duplicate" []))
  else if status = .timeout then
    some (withActions texts locale (texts.t locale "wa.tenant.codigo.timeout" []))
  else if status = .failed ∧ errorCode ≠ some "user_cancelled" then
    some (withActions texts locale (texts.t locale "wa.tenant.codigo.error" []))
  else none

def renderLookupReply (texts : Texts) (locale : String) (status : JobStatus)
    (resultType resultValue errorCode : Option String) (serviceKey : String) : Option String :=
  let service := serviceLabel texts serviceKey
  (valueReply texts locale service resultType resultValue).or
    (statusReply texts locale service status resultType errorCode)

/-- The job has a result type for which a value is told: `{"code", "url"}`. -/
def delivered (job : MailLookupJob) : Bool :=
  job.resultType = some "code" ∨ job.resultType = some "url"

/-- The value that `complete` passes on. -/
def resultValue (job : MailLookupJob) (outcome : LookupOutcome) : Option String :=
  if delivered job then outcome.resultValue else none

/-- `_render_terminal_reply`. -/
def terminalReply (texts : Texts) (locale : String) (job : MailLookupJob)
    (value : Option String) : Option String :=
  renderLookupReply texts locale job.status job.resultType value job.errorCode job.serviceKey

structure TerminalPayload where
  jobId : UUID
  status : JobStatus
  resultType : Option String
  resultValue : Option String
  errorCode : Option String
  errorDetail : Option String
  reply : Option String
  completedAt : Option String
deriving DecidableEq, Repr

def terminalPayload (texts : Texts) (job : MailLookupJob) (value reply : Option String) :
    TerminalPayload where
  jobId := job.id
  status := job.status
  resultType := job.resultType
  resultValue := value
  errorCode := job.errorCode
  errorDetail := job.errorDetailSafe
  reply := reply
  completedAt := job.completedAt.map texts.isoformat

/-- The payload that `complete` sends for a job that it has ended. -/
def resumePayload (texts : Texts) (locale : String) (job : MailLookupJob)
    (outcome : LookupOutcome) : TerminalPayload :=
  let value := resultValue job outcome
  terminalPayload texts job value (terminalReply texts locale job value)

structure LookupStatusResponse where
  jobId : UUID
  status : JobStatus
  resultType : Option String
  resultValue : Option String
  errorCode : Option String
  errorDetail : Option String
  reply : Option String
  createdAt : Int
  completedAt : Option Int
deriving DecidableEq, Repr

/-- `_status_response` before its reply. `cached` is the result in the store. -/
def statusResult (job : MailLookupJob) (cached : Option (String × String)) :
    LookupStatusResponse :=
  let response : LookupStatusResponse :=
    ⟨job.id, job.status, job.resultType, none, job.errorCode, job.errorDetailSafe, none,
      job.createdAt, job.completedAt⟩
  if job.status = .completed ∧ delivered job then
    match cached with
    | some (type, value) => { response with resultType := some type, resultValue := some value }
    | none => { response with
        status := .failed
        resultType := none
        errorCode := some "result_unavailable"
        errorDetail := some "Lookup result is no longer available" }
  else response

def statusResponse (texts : Texts) (locale : String) (job : MailLookupJob)
    (cached : Option (String × String)) : LookupStatusResponse :=
  let response := statusResult job cached
  { response with
    reply := renderLookupReply texts locale response.status response.resultType
      response.resultValue response.errorCode job.serviceKey }

variable {texts : Texts} {locale : String} {job : MailLookupJob}

theorem valueReply_eq_none {service : String} {resultType value : Option String}
    (hcode : resultType ≠ some "code") (hurl : resultType ≠ some "url") :
    valueReply texts locale service resultType value = none := by
  unfold valueReply
  split
  · exact absurd rfl hcode
  · exact absurd rfl hurl
  · rfl

theorem renderLookupReply_value {status : JobStatus} {resultType errorCode : Option String}
    {serviceKey : String} (hcode : resultType ≠ some "code") (hurl : resultType ≠ some "url")
    (value : Option String) :
    renderLookupReply texts locale status resultType value errorCode serviceKey =
      statusReply texts locale (serviceLabel texts serviceKey) status resultType errorCode := by
  simp only [renderLookupReply, valueReply_eq_none hcode hurl, Option.none_or]

theorem delivered_iff : delivered job = true ↔
    job.resultType = some "code" ∨ job.resultType = some "url" := by
  simp [delivered]

theorem resultValue_of_not_delivered (h : delivered job = false) (outcome : LookupOutcome) :
    resultValue job outcome = none := by
  simp [resultValue, h]

theorem statusResponse_value (h : delivered job = false) (cached : Option (String × String)) :
    (statusResponse texts locale job cached).resultValue = none ∧
      (statusResponse texts locale job cached).reply = terminalReply texts locale job none := by
  simp [statusResponse, statusResult, h, terminalReply]

theorem terminalReply_of_duplicate (hstatus : job.status = .completed)
    (hresult : job.resultType = some "duplicate_suppressed") (value : Option String) :
    terminalReply texts locale job value =
      some (withActions texts locale (texts.t locale "wa.tenant.codigo.duplicate" [])) := by
  unfold terminalReply
  rw [hresult, renderLookupReply_value (by simp) (by simp), hstatus]
  simp [statusReply]

end Trackpal.Coordinator
