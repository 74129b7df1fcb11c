import Trackpal.Protocol.Wire

/-!
# Values exchanged over the executor protocol

The value objects of `schemas/lookup_executor_protocol.py` and of the worker's
`pipeline/models.py`. The outcome of a lookup is declared on both sides with the
same fields; the worker dumps it into a callback, the backend validates it.

Results:
1. `LookupCallbackEnvelope.modelValidate_modelDump`: the backend reads the
   identity and the outcome that the worker wrote.
-/

namespace Trackpal.Protocol

/-! ## Results of backend calls -/

/-- Capabilities returned by an executor after a successful challenge. The runtime
version is the value whose `str` is kept. -/
structure ChallengeResult where
  executorId : UUID
  protocolVersion : Int
  runtimeVersion : Json
  maxConcurrency : Int
deriving DecidableEq, Repr

inductive HandoffStatus where
  | accepted
  | duplicateSameLease
  | busy
  | securityError
  | protocolError
  | transportError
deriving DecidableEq, Repr

structure HandoffResult where
  status : HandoffStatus
  leaseId : Option UUID
  safeError : Option String
deriving DecidableEq, Repr

/-! ## Outcomes -/

inductive OutcomeKind where
  | found
  | notFound
  | retryableFailure
  | terminalFailure
deriving DecidableEq, Repr

inductive ResultType where
  | code
  | url
deriving DecidableEq, Repr

def OutcomeKind.literal : OutcomeKind → String
  | .found => "found"
  | .notFound => "not_found"
  | .retryableFailure => "retryable_failure"
  | .terminalFailure => "terminal_failure"

def ResultType.literal : ResultType → String
  | .code => "code"
  | .url => "url"

structure LookupOutcome where
  kind : OutcomeKind
  resultType : Option ResultType
  resultValue : Option String
  messageId : Option String
  fingerprint : Option String
  errorCode : Option String
  errorDetail : Option String
deriving DecidableEq, Repr

def OutcomeKind.read : Json → Option OutcomeKind
  | .str "found" => some .found
  | .str "not_found" => some .notFound
  | .str "retryable_failure" => some .retryableFailure
  | .str "terminal_failure" => some .terminalFailure
  | _ => none

def ResultType.read : Json → Option ResultType
  | .str "code" => some .code
  | .str "url" => some .url
  | _ => none

/-- `null`, or the JSON form of the value. -/
def dumpOptional {α : Type} (dump : α → Json) : Option α → Json
  | none => .null
  | some value => dump value

/-- A member with default `None`: absent and `null` read as `none`. The outer
`none` is a validation error. -/
def optionalField {α : Type} (fields : Fields) (key : String) (read : Json → Option α) :
    Option (Option α) :=
  match fields.get key with
  | none | some .null => some none
  | some value => (read value).map some

namespace LookupOutcome

/-- The members of an outcome; `extra="forbid"` rejects every other one. -/
def members : List String :=
  ["kind", "result_type", "result_value", "message_id", "fingerprint", "error_code",
    "error_detail"]

/-- `model_dump(mode="json")`. -/
def modelDump (outcome : LookupOutcome) : Fields :=
  .ofList [("kind", .str outcome.kind.literal),
    ("result_type", dumpOptional (fun type => .str type.literal) outcome.resultType),
    ("result_value", dumpOptional .str outcome.resultValue),
    ("message_id", dumpOptional .str outcome.messageId),
    ("fingerprint", dumpOptional .str outcome.fingerprint),
    ("error_code", dumpOptional .str outcome.errorCode),
    ("error_detail", dumpOptional .str outcome.errorDetail)]

/-- `LookupCallbackOutcome.model_validate`. -/
def modelValidate (fields : Fields) : Option LookupOutcome :=
  if fields.keys.all (fun key => key ∈ members) then do
    let kind ← (fields.get "kind").bind OutcomeKind.read
    let resultType ← optionalField fields "result_type" ResultType.read
    let resultValue ← optionalField fields "result_value" Json.toStr
    let messageId ← optionalField fields "message_id" Json.toStr
    let fingerprint ← optionalField fields "fingerprint" Json.toStr
    let errorCode ← optionalField fields "error_code" Json.toStr
    let errorDetail ← optionalField fields "error_detail" Json.toStr
    some ⟨kind, resultType, resultValue, messageId, fingerprint, errorCode, errorDetail⟩
  else none

end LookupOutcome

structure LookupCallbackEnvelope where
  jobId : UUID
  leaseId : UUID
  outcome : LookupOutcome
deriving DecidableEq, Repr

namespace LookupCallbackEnvelope

/-- `CallbackEnvelope.model_dump(mode="json")`. -/
def modelDump (envelope : LookupCallbackEnvelope) : Fields :=
  .ofList [("job_id", .uuid envelope.jobId), ("lease_id", .uuid envelope.leaseId),
    ("outcome", .obj envelope.outcome.modelDump)]

def objectOf : Json → Option Fields
  | .obj fields => some fields
  | _ => none

/-- `LookupCallbackEnvelope.model_validate`. -/
def modelValidate (fields : Fields) : Option LookupCallbackEnvelope :=
  if fields.keys.all (fun key => key ∈ ["job_id", "lease_id", "outcome"]) then do
    let jobId ← (fields.get "job_id").bind Json.toUUID
    let leaseId ← (fields.get "lease_id").bind Json.toUUID
    let outcome ← ((fields.get "outcome").bind objectOf).bind LookupOutcome.modelValidate
    some ⟨jobId, leaseId, outcome⟩
  else none

end LookupCallbackEnvelope

/-! ## Round trip -/

theorem read_literal_kind (kind : OutcomeKind) :
    OutcomeKind.read (.str kind.literal) = some kind := by
  cases kind <;> rfl

theorem read_literal_type (type : ResultType) :
    ResultType.read (.str type.literal) = some type := by
  cases type <;> rfl

theorem optionalField_of_get {α : Type} {fields : Fields} {key : String} (dump : α → Json)
    (read : Json → Option α) (hread : ∀ value, read (dump value) = some value)
    (hnull : read .null = none) {value : Option α}
    (h : fields.get key = some (dumpOptional dump value)) :
    optionalField fields key read = some value := by
  cases value with
  | none => simp [optionalField, h, dumpOptional]
  | some value =>
    have hne : dump value ≠ .null := by
      intro he
      have := hread value
      rw [he, hnull] at this
      cases this
    simp only [optionalField, h, dumpOptional, hread]
    rfl

theorem LookupOutcome.modelValidate_modelDump (outcome : LookupOutcome) :
    modelValidate outcome.modelDump = some outcome := by
  have htype : optionalField outcome.modelDump "result_type" ResultType.read =
      some outcome.resultType :=
    optionalField_of_get _ _ read_literal_type rfl (by simp [modelDump, Fields.ofList])
  have htext : ∀ key value, outcome.modelDump.get key = some (dumpOptional .str value) →
      optionalField outcome.modelDump key Json.toStr = some value :=
    fun key value h => optionalField_of_get .str Json.toStr (fun _ => rfl) rfl h
  have hkeys : outcome.modelDump.keys.all (fun key => key ∈ members) = true := rfl
  have hkind : (outcome.modelDump.get "kind").bind OutcomeKind.read = some outcome.kind := by
    simp [modelDump, Fields.ofList, read_literal_kind]
  rw [modelValidate, if_pos hkeys, hkind, htype,
    htext "result_value" outcome.resultValue (by simp [modelDump, Fields.ofList]),
    htext "message_id" outcome.messageId (by simp [modelDump, Fields.ofList]),
    htext "fingerprint" outcome.fingerprint (by simp [modelDump, Fields.ofList]),
    htext "error_code" outcome.errorCode (by simp [modelDump, Fields.ofList]),
    htext "error_detail" outcome.errorDetail (by simp [modelDump, Fields.ofList])]
  rfl

theorem LookupCallbackEnvelope.modelValidate_modelDump (envelope : LookupCallbackEnvelope) :
    modelValidate envelope.modelDump = some envelope := by
  have hkeys : envelope.modelDump.keys.all
      (fun key => key ∈ ["job_id", "lease_id", "outcome"]) = true := rfl
  have houtcome : ((envelope.modelDump.get "outcome").bind objectOf).bind
      LookupOutcome.modelValidate = some envelope.outcome := by
    simp [modelDump, Fields.ofList, objectOf, LookupOutcome.modelValidate_modelDump]
  rw [modelValidate, if_pos hkeys, houtcome]
  simp [modelDump, Fields.ofList, Json.toUUID]

end Trackpal.Protocol
