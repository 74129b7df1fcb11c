import Trackpal.Registry.LookupExecutor

/-!
# The backend's side of the executor protocol

`HttpLookupExecutorTransport` of `lookup_executor_transport/http.py`: the signed
request, the verification of the response and its mapping. The address check and
the POST itself are the network's; a call receives what they came to.

Results:
1. `mapHandoffResponse_positive`: a positive result needs a body that names the lease of the
   envelope.
2. `challenge_eq_ok`: a challenge succeeds only on its own echo.
-/

namespace Trackpal.Backend

open Trackpal.Protocol Trackpal.Registry

def challengePath : String := "/v1/health/challenge"
def handoffPath : String := "/v1/jobs/execute"
/-- The literal `max_skew_seconds` of `_verify_response`. -/
def responseSkewSeconds : Int := 60

/-- What the transport reads of an executor: a registry row, or the view that
`_candidate_with_secret` makes of one. -/
structure ExecutorView where
  id : UUID
  baseUrl : String
  transportMode : TransportMode
  secretEncrypted : Encrypted
  secretVersion : Int
deriving DecidableEq, Repr

def storedView (executor : LookupExecutor) : ExecutorView :=
  ⟨executor.id, executor.baseUrl, executor.transportMode, executor.secretEncrypted,
    executor.secretVersion⟩

def candidateWithSecret (executor : LookupExecutor) (encrypted : Encrypted) (version : Int) :
    ExecutorView :=
  ⟨executor.id, executor.baseUrl, executor.transportMode, encrypted, version⟩

namespace ExecutorView

def keys (executor : ExecutorView) : ProtocolKeys :=
  deriveProtocolKeys (decryptValue executor.secretEncrypted)

/-- `_secret` raises `ValueError` on an empty secret. -/
def secretAvailable (executor : ExecutorView) : Bool :=
  decryptValue executor.secretEncrypted ≠ ""

end ExecutorView

/-! ## Requests -/

/-- The command of one handoff, as `_build_envelope` makes it. Instants are their
`str`. -/
structure ExecutionEnvelope where
  jobId : UUID
  leaseId : UUID
  leaseExpiresAt : String
  callbackUrl : String
  mailboxEmail : String
  appPassword : String
  serviceKey : String
  targetEmail : String
  windowMinutes : Int
  searchAfter : String
  timeoutSeconds : Int
  deadlineAt : String
  excludedDeliveries : List (Option String × String)
deriving DecidableEq, Repr

def excludedDelivery (delivery : Option String × String) : Json :=
  .obj (.ofList [("message_id", dumpOptional .str delivery.1), ("fingerprint", .str delivery.2)])

def jsonArray : List Json → Items
  | [] => .nil
  | value :: rest => .cons value (jsonArray rest)

/-- `_payload` of an envelope. -/
def ExecutionEnvelope.payload (envelope : ExecutionEnvelope) : Fields :=
  .ofList [("job_id", .uuid envelope.jobId), ("lease_id", .uuid envelope.leaseId),
    ("lease_expires_at", .str envelope.leaseExpiresAt), ("callback_url", .str envelope.callbackUrl),
    ("mailbox_email", .str envelope.mailboxEmail), ("app_password", .str envelope.appPassword),
    ("service_key", .str envelope.serviceKey), ("target_email", .str envelope.targetEmail),
    ("window_minutes", .num envelope.windowMinutes), ("search_after", .str envelope.searchAfter),
    ("timeout_seconds", .num envelope.timeoutSeconds), ("deadline_at", .str envelope.deadlineAt),
    ("excluded_deliveries", .arr (jsonArray (envelope.excludedDeliveries.map excludedDelivery)))]

theorem ExecutionEnvelope.get_jobId (envelope : ExecutionEnvelope) :
    envelope.payload.get "job_id" = some (.uuid envelope.jobId) := by
  rw [payload, Fields.ofList, Fields.get_cons, if_pos rfl]

theorem ExecutionEnvelope.get_leaseId (envelope : ExecutionEnvelope) :
    envelope.payload.get "lease_id" = some (.uuid envelope.leaseId) := by
  rw [payload, Fields.ofList, Fields.get_cons, if_neg (by decide), Fields.ofList, Fields.get_cons,
    if_pos rfl]

/-- The POST of `_signed_body`, for an available secret. -/
def signedBody (executor : ExecutorView) (path : String) (payload : Fields) (draws : Draws) :
    Request :=
  let body := (encryptPayload payload executor.keys.encryption draws.aesNonce).modelDump
  ⟨.post, path, signedHeaders signRequest .post path executor.id executor.secretVersion
    draws.timestamp draws.nonce body executor.keys.signing, body⟩

/-! ## Responses -/

/-- `_verify_response`. Every failure is a `ValueError` that the callers treat
alike, so only the text of the first applicable check is kept. -/
def verifyResponse (executor : ExecutorView) (path : String) (response : Response) (now : Int) :
    Except String Unit :=
  match response.headers with
  | ⟨some executorId, some keyVersion, some timestamp, some nonce, some signature⟩ =>
    if executorId ≠ executor.id then .error "executor response identity mismatch"
    else if keyVersion ≠ executor.secretVersion then .error "executor response key version mismatch"
    else if executor.secretAvailable = false then .error "executor secret is unavailable"
    else
      verifyResponseSignature .post path executorId keyVersion timestamp nonce response.body
        signature executor.keys.signing now responseSkewSeconds
  | _ => .error "executor response signature headers are missing"

/-- What the address check, the preparation and the POST of one call came to. -/
inductive Attempt where
  | urlError
  | unprepared
  | requestError
  | response (response : Response)
deriving DecidableEq, Repr

/-- The object of a response body, `{}` for anything else. -/
def responseObject (response : Response) : Fields :=
  match response.body with
  | .json (.obj fields) => fields
  | _ => .nil

/-- `_map_handoff_response` for the lease of the envelope. -/
def mapHandoffResponse (response : Response) (leaseId : UUID) : HandoffResult :=
  let payload := responseObject response
  let responseLeaseId := (payload.get "lease_id").bind Json.toUUID
  if response.status = 202 then
    if responseLeaseId ≠ some leaseId then
      ⟨.protocolError, responseLeaseId, some "executor acceptance lease does not match request"⟩
    else ⟨.accepted, responseLeaseId, none⟩
  else if response.status = 409 then
    if payload.get "duplicate" ≠ some (.bool true) ∨ responseLeaseId ≠ some leaseId then
      ⟨.protocolError, responseLeaseId,
        some "executor did not provide matching duplicate evidence"⟩
    else ⟨.duplicateSameLease, responseLeaseId, none⟩
  else if response.status = 429 then ⟨.busy, some leaseId, some "executor capacity is busy"⟩
  else if response.status = 401 ∨ response.status = 403 then
    ⟨.securityError, some leaseId, some "executor rejected protocol authentication"⟩
  else if response.status = 422 then
    ⟨.protocolError, some leaseId, some "executor rejected the protocol envelope"⟩
  else ⟨.transportError, some leaseId, some "executor returned an unexpected HTTP status"⟩

/-- `handoff`, from what its POST came to. -/
def handoff (executor : ExecutorView) (leaseId : UUID) (now : Int) : Attempt → HandoffResult
  | .urlError => ⟨.securityError, none, some "executor URL failed security validation"⟩
  | .requestError => ⟨.transportError, none, some "executor handoff transport failed"⟩
  | .unprepared => ⟨.transportError, none, some "executor handoff could not be prepared"⟩
  | .response response =>
    match verifyResponse executor handoffPath response now with
    | .error _ =>
      ⟨.securityError, none, some "executor response signature verification failed"⟩
    | .ok () => mapHandoffResponse response leaseId

/-- The exceptions of `challenge`. -/
inductive ChallengeError where
  | urlError
  | secretUnavailable
  | transport (detail : String)
  | httpStatus (status : Nat)
deriving DecidableEq, Repr

def challengeCapabilities (executor : ExecutorView) (challenge : String) (response : Response) :
    Option ChallengeResult :=
  match response.body with
  | .json (.obj payload) =>
    if payload.get "challenge" ≠ some (.str challenge) then none
    else do
      let protocolVersion ← (payload.get "protocol_version").bind Json.toInt
      let runtimeVersion ← payload.get "runtime_version"
      let maxConcurrency ← (payload.get "max_concurrency").bind Json.toInt
      some ⟨executor.id, protocolVersion, runtimeVersion, maxConcurrency⟩
  | _ => none

/-- `challenge`, from what its POST came to. -/
def challenge (executor : ExecutorView) (value : String) (now : Int) :
    Attempt → Except ChallengeError ChallengeResult
  | .urlError => .error .urlError
  | .unprepared => .error .secretUnavailable
  | .requestError => .error (.transport "executor challenge transport failed")
  | .response response =>
    match verifyResponse executor challengePath response now with
    | .error _ => .error (.transport "executor returned an invalid challenge")
    | .ok () =>
      if response.status < 200 ∨ 300 ≤ response.status then .error (.httpStatus response.status)
      else
        match challengeCapabilities executor value response with
        | some result => .ok result
        | none => .error (.transport "executor returned an invalid challenge")

/-! ## What a positive answer needs -/

namespace TransportLemmas

variable {executor : ExecutorView} {path : String} {response : Response} {now : Int}
  {leaseId : UUID}

/-- A response passes exactly when it is fresh and carries the HMAC that
`sign_request` computes for its path and body. -/
theorem verifyResponse_eq_ok :
    verifyResponse executor path response now = .ok () ↔
      executor.secretAvailable = true ∧
        ∃ timestamp nonce, |now - timestamp| ≤ responseSkewSeconds ∧
          response.headers = signedHeaders signRequest .post path executor.id
            executor.secretVersion timestamp nonce response.body executor.keys.signing := by
  unfold verifyResponse signedHeaders
  split
  · next executorId keyVersion timestamp nonce signature hheaders =>
    rw [hheaders]
    constructor
    · intro h
      split at h
      · cases h
      next hid =>
      split at h
      · cases h
      next hversion =>
      split at h
      · cases h
      next hsecret =>
      obtain ⟨hfresh, rfl⟩ := verifySignature_eq_ok.mp h
      obtain rfl := not_not.mp hid
      obtain rfl := not_not.mp hversion
      exact ⟨by simpa using hsecret, timestamp, nonce, hfresh, rfl⟩
    · rintro ⟨hsecret, timestamp', nonce', hfresh, heq⟩
      cases heq
      rw [if_neg (not_not.mpr rfl), if_neg (not_not.mpr rfl), if_neg (by simp [hsecret])]
      exact verifySignature_eq_ok.mpr ⟨hfresh, rfl⟩
  · next hne =>
    constructor
    · intro h
      cases h
    · rintro ⟨_, timestamp, nonce, _, heq⟩
      exact absurd heq (hne _ _ _ _ _)

theorem mapHandoffResponse_positive
    (h : (mapHandoffResponse response leaseId).status = .accepted ∨
      (mapHandoffResponse response leaseId).status = .duplicateSameLease) :
    (responseObject response).get "lease_id" = some (.uuid leaseId) := by
  have hlease : ((responseObject response).get "lease_id").bind Json.toUUID = some leaseId := by
    by_contra hne
    unfold mapHandoffResponse at h
    simp only [hne, ne_eq, not_false_eq_true, if_true, or_true] at h
    split_ifs at h <;> simp at h
  obtain ⟨value, hget, hvalue⟩ := Option.bind_eq_some_iff.mp hlease
  rw [hget, Json.eq_uuid_of_toUUID hvalue]

theorem handoff_positive {attempt : Attempt}
    (h : (handoff executor leaseId now attempt).status = .accepted ∨
      (handoff executor leaseId now attempt).status = .duplicateSameLease) :
    ∃ response, attempt = .response response ∧
      verifyResponse executor handoffPath response now = .ok () ∧
      (responseObject response).get "lease_id" = some (.uuid leaseId) := by
  cases attempt with
  | urlError => simp [handoff] at h
  | unprepared => simp [handoff] at h
  | requestError => simp [handoff] at h
  | response response =>
    cases hverify : verifyResponse executor handoffPath response now with
    | error err => simp [handoff, hverify] at h
    | ok _ =>
      simp only [handoff, hverify] at h
      exact ⟨response, rfl, hverify, mapHandoffResponse_positive h⟩

theorem challenge_eq_ok {value : String} {attempt : Attempt} {result : ChallengeResult}
    (h : challenge executor value now attempt = .ok result) :
    ∃ response, attempt = .response response ∧
      verifyResponse executor challengePath response now = .ok () ∧
      (responseObject response).get "challenge" = some (.str value) := by
  cases attempt with
  | urlError => cases h
  | unprepared => cases h
  | requestError => cases h
  | response response =>
    cases hverify : verifyResponse executor challengePath response now with
    | error err => simp [challenge, hverify] at h
    | ok _ =>
      refine ⟨response, rfl, hverify, ?_⟩
      simp only [challenge, hverify] at h
      split at h
      · cases h
      split at h
      · next hcap =>
        unfold challengeCapabilities at hcap
        split at hcap
        · next payload hbody =>
          split at hcap
          · cases hcap
          · next hecho => simpa [responseObject, hbody] using hecho
        · cases hcap
      · cases h

end TransportLemmas

end Trackpal.Backend
