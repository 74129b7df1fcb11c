import Trackpal.Worker.NonceCache
import Trackpal.Worker.Runtime

/-!
# The worker's HTTP routes

`worker/app/main.py`: `_verify_and_decrypt`, the challenge and the execute
routes, and `_signed_response`. A route is a function of the executor's state
and of one request; the state is the replay cache and the reservations.

Results:
1. `verifyAndDecrypt_cases`: what one delivery can do to the replay cache.
2. `executeCommand_cases`: what the execute route can do to the reservations.
-/

namespace Trackpal.Worker

open Trackpal.Protocol

/-! ## Constants and settings -/

def runtimeVersion : String := "0.1.0"
def protocolVersion : Int := 1
def keyVersion : Int := 1
def nonceTtlSeconds : Int := 60
def nonceMaxEntries : Nat := 10000
/-- The literal `max_skew_seconds` of `_verify_and_decrypt`. -/
def maxSkewSeconds : Int := 60

def challengePath : String := "/v1/health/challenge"
def executePath : String := "/v1/jobs/execute"

structure ExecutorSettings where
  executorId : UUID
  executorSecret : String
  maxConcurrency : Nat
  maxConcurrency_pos : 0 < maxConcurrency

/-- The keys that `create_app` derives from the configured secret. -/
def ExecutorSettings.keys (settings : ExecutorSettings) : ProtocolKeys :=
  deriveProtocolKeys settings.executorSecret

structure Executor where
  nonceCache : NonceCache
  runtime : ExecutorRuntime

/-- The replay cache that `create_app` makes. -/
def newNonceCache : NonceCache :=
  .new nonceTtlSeconds nonceMaxEntries (by decide) (by decide)

def Executor.start (settings : ExecutorSettings) : Executor :=
  ⟨newNonceCache, .new settings.maxConcurrency⟩

/-! ## `_verify_and_decrypt` -/

/-- The headers, identity, freshness and signature of a request: the part of
`_verify_and_decrypt` before the replay cache. Returns the nonce. -/
def authenticate (settings : ExecutorSettings) (now : Int) (request : Request) :
    Except HTTPException String :=
  match request.headers with
  | ⟨some executorId, some version, some timestamp, some nonce, some signature⟩ =>
    if executorId ≠ settings.executorId ∨ version ≠ keyVersion then
      .error ⟨401, "invalid protocol identity"⟩
    else
      match verifyRequestSignature request.method request.path executorId version timestamp
          nonce request.body signature settings.keys.signing now maxSkewSeconds with
      | .error _ => .error ⟨401, "invalid protocol signature"⟩
      | .ok () => .ok nonce
  | _ => .error ⟨401, "invalid protocol headers"⟩

/-- The part of `_verify_and_decrypt` after the replay cache. -/
def decryptBody (settings : ExecutorSettings) (body : Body) : Except HTTPException Fields :=
  match (EncryptedBody.modelValidate body).bind (decryptPayload · settings.keys.encryption) with
  | some payload => .ok payload
  | none => .error ⟨422, "invalid encrypted body"⟩

/-- The clock is read for the freshness test, and again for the replay cache. No other request is
served in between. -/
structure ClockReadings where
  tested : Int
  consumed : Int
  tested_le : tested ≤ consumed
deriving DecidableEq, Repr

def ClockReadings.at (now : Int) : ClockReadings := ⟨now, now, Int.le_refl now⟩

def verifyAndDecrypt (settings : ExecutorSettings) (cache : NonceCache) (clock : ClockReadings)
    (request : Request) : NonceCache × Except HTTPException Fields :=
  match authenticate settings clock.tested request with
  | .error exc => (cache, .error exc)
  | .ok nonce =>
    match cache.consume nonce clock.consumed with
    | (cache, false) => (cache, .error ⟨401, "replayed protocol nonce"⟩)
    | (cache, true) => (cache, decryptBody settings request.body)

/-- The request got past authentication and the replay cache: every refusal
there is a 401. -/
def Accepted (result : Except HTTPException Fields) : Bool :=
  match result with
  | .ok _ => true
  | .error exc => exc.statusCode ≠ 401

variable {settings : ExecutorSettings} {cache cache' : NonceCache} {now : Int}
  {clock : ClockReadings} {request : Request} {nonce : String} {result : Except HTTPException Fields}

/-- Authentication succeeds exactly on fresh requests that carry the HMAC of
themselves under the executor's key. -/
theorem authenticate_eq_ok :
    authenticate settings now request = .ok nonce ↔
      ∃ timestamp, |now - timestamp| ≤ maxSkewSeconds ∧
        request.headers = signedHeaders signRequest request.method request.path settings.executorId
          keyVersion timestamp nonce request.body settings.keys.signing := by
  unfold authenticate signedHeaders
  split
  · next executorId version timestamp nonce' signature hheaders =>
    rw [hheaders]
    split
    · next hid =>
      simp only [reduceCtorEq, ProtocolHeaders.mk.injEq, Option.some.injEq, false_iff, not_exists]
      rintro timestamp' ⟨_, rfl, rfl, _⟩
      simp at hid
    · next hid =>
      obtain ⟨rfl, rfl⟩ : executorId = settings.executorId ∧ version = keyVersion := by
        simpa [not_or] using hid
      split
      · next err herr =>
        simp only [reduceCtorEq, ProtocolHeaders.mk.injEq, Option.some.injEq, false_iff, not_exists]
        rintro timestamp' ⟨hfresh, -, -, rfl, rfl, rfl⟩
        rw [verifyRequestSignature, verifySignature_eq_ok.mpr ⟨hfresh, rfl⟩] at herr
        cases herr
      · next hok =>
        obtain ⟨hfresh, rfl⟩ := verifySignature_eq_ok.mp hok
        simp only [Except.ok.injEq, ProtocolHeaders.mk.injEq, Option.some.injEq, true_and]
        constructor
        · rintro rfl
          exact ⟨timestamp, hfresh, rfl, rfl, rfl⟩
        · rintro ⟨_, _, _, rfl, _⟩
          rfl
  · next hne =>
    simp only [reduceCtorEq, false_iff, not_exists]
    rintro timestamp ⟨_, h⟩
    exact hne _ _ _ _ _ h

theorem authenticate_error {exc : HTTPException}
    (h : authenticate settings now request = .error exc) :
    exc.statusCode = 401 := by
  unfold authenticate at h
  split at h
  · split at h
    · cases h
      rfl
    · split at h
      · cases h
        rfl
      · cases h
  · cases h
    rfl

theorem accepted_decryptBody (settings : ExecutorSettings) (body : Body) :
    Accepted (decryptBody settings body) = true := by
  unfold decryptBody
  split <;> rfl

theorem verifyAndDecrypt_of_error {exc : HTTPException}
    (h : authenticate settings clock.tested request = .error exc) :
    verifyAndDecrypt settings cache clock request = (cache, .error exc) := by
  rw [verifyAndDecrypt, h]

theorem verifyAndDecrypt_of_replayed (h : authenticate settings clock.tested request = .ok nonce)
    (hc : (cache.consume nonce clock.consumed).2 = false) :
    verifyAndDecrypt settings cache clock request =
      ((cache.consume nonce clock.consumed).1, .error ⟨401, "replayed protocol nonce"⟩) := by
  rcases hcons : cache.consume nonce clock.consumed with ⟨cache', consumed⟩
  rw [hcons] at hc
  subst hc
  rw [verifyAndDecrypt, h]
  simp only [hcons]

theorem verifyAndDecrypt_of_consumed (h : authenticate settings clock.tested request = .ok nonce)
    (hc : (cache.consume nonce clock.consumed).2 = true) :
    verifyAndDecrypt settings cache clock request =
      ((cache.consume nonce clock.consumed).1, decryptBody settings request.body) := by
  rcases hcons : cache.consume nonce clock.consumed with ⟨cache', consumed⟩
  rw [hcons] at hc
  subst hc
  rw [verifyAndDecrypt, h]
  simp only [hcons]

theorem verifyAndDecrypt_cases (settings : ExecutorSettings) (cache : NonceCache)
    (clock : ClockReadings) (request : Request) :
    (∃ exc, authenticate settings clock.tested request = .error exc ∧
      verifyAndDecrypt settings cache clock request = (cache, .error exc)) ∨
    (∃ nonce, authenticate settings clock.tested request = .ok nonce ∧
      (cache.consume nonce clock.consumed).2 = false ∧
      verifyAndDecrypt settings cache clock request =
        ((cache.consume nonce clock.consumed).1, .error ⟨401, "replayed protocol nonce"⟩)) ∨
    (∃ nonce, authenticate settings clock.tested request = .ok nonce ∧
      (cache.consume nonce clock.consumed).2 = true ∧
      verifyAndDecrypt settings cache clock request =
        ((cache.consume nonce clock.consumed).1, decryptBody settings request.body)) := by
  cases hauth : authenticate settings clock.tested request with
  | error exc => exact .inl ⟨exc, rfl, verifyAndDecrypt_of_error hauth⟩
  | ok nonce =>
    cases hc : (cache.consume nonce clock.consumed).2 with
    | false => exact .inr (.inl ⟨nonce, rfl, hc, verifyAndDecrypt_of_replayed hauth hc⟩)
    | true => exact .inr (.inr ⟨nonce, rfl, hc, verifyAndDecrypt_of_consumed hauth hc⟩)

/-! ## Routes -/

/-- What a route answers: the status and payload that `_signed_response` signs, and
the background task it adds. -/
structure Reply where
  status : Nat
  payload : Fields
  task : Option (LookupCommand × CallbackContext)
deriving DecidableEq, Repr

/-- The challenge route after `_verify_and_decrypt`. -/
def answerChallenge (settings : ExecutorSettings) (payload : Fields) :
    Except HTTPException Reply :=
  match payload.get "challenge" with
  | some value =>
    if value.isStr ∧ value ≠ .str "" then
      .ok ⟨200, .ofList [("challenge", value), ("max_concurrency", .num settings.maxConcurrency),
        ("protocol_version", .num protocolVersion), ("runtime_version", .str runtimeVersion)], none⟩
    else .error ⟨422, "invalid challenge payload"⟩
  | none => .error ⟨422, "invalid challenge payload"⟩

def answerAcceptance (acceptance : Acceptance) (command : LookupCommand)
    (context : CallbackContext) : Except HTTPException Reply :=
  match acceptance.status with
  | .busy => .error ⟨429, "executor capacity reached"⟩
  | .duplicate =>
    .ok ⟨409, .ofList [("detail", .str "duplicate execution"), ("duplicate", .bool true),
      ("lease_id", .uuid acceptance.leaseId)], none⟩
  | .conflict =>
    .ok ⟨409, .ofList [("detail", .str "execution lease conflict"),
      ("lease_id", .uuid acceptance.leaseId)], none⟩
  | .accepted =>
    .ok ⟨202, .ofList [("accepted", .bool true), ("lease_id", .uuid acceptance.leaseId)],
      some (command, context)⟩

/-- The execute route after `_verify_and_decrypt`. -/
def executeCommand (runtime : ExecutorRuntime) (payload : Fields) :
    ExecutorRuntime × Except HTTPException Reply :=
  match LookupCommand.modelValidate payload with
  | none => (runtime, .error ⟨422, "invalid lookup command"⟩)
  | some command =>
    match command.jobId, command.leaseId, command.callbackUrl with
    | some jobId, some leaseId, some callbackUrl =>
      let context : CallbackContext := ⟨callbackUrl, jobId, leaseId⟩
      match runtime.accept command context with
      | .error detail => (runtime, .error ⟨422, detail⟩)
      | .ok (runtime, acceptance) => (runtime, answerAcceptance acceptance command context)
    | _, _, _ => (runtime, .error ⟨422, "lookup command identity is required"⟩)

/-- `POST /v1/health/challenge`. -/
def challenge (settings : ExecutorSettings) (executor : Executor) (clock : ClockReadings)
    (request : Request) : Executor × Except HTTPException Reply :=
  match verifyAndDecrypt settings executor.nonceCache clock request with
  | (cache, .error exc) => ({ executor with nonceCache := cache }, .error exc)
  | (cache, .ok payload) => ({ executor with nonceCache := cache }, answerChallenge settings payload)

/-- `POST /v1/jobs/execute`. -/
def execute (settings : ExecutorSettings) (executor : Executor) (clock : ClockReadings)
    (request : Request) : Executor × Except HTTPException Reply :=
  match verifyAndDecrypt settings executor.nonceCache clock request with
  | (cache, .error exc) => ({ executor with nonceCache := cache }, .error exc)
  | (cache, .ok payload) =>
    (⟨cache, (executeCommand executor.runtime payload).1⟩,
      (executeCommand executor.runtime payload).2)

def signedResponse (settings : ExecutorSettings) (request : Request) (payload : Fields)
    (status : Nat) (timestamp : Int) (nonce : String) : Response :=
  let body := Body.json (.obj payload)
  ⟨status, signedHeaders signResponse request.method request.path settings.executorId keyVersion
    timestamp nonce body settings.keys.signing, body⟩

/-- The response to a route's outcome; `signed_http_error` signs the errors too. -/
def respond (settings : ExecutorSettings) (request : Request) (timestamp : Int) (nonce : String) :
    Except HTTPException Reply → Response
  | .ok reply => signedResponse settings request reply.payload reply.status timestamp nonce
  | .error exc =>
    signedResponse settings request (.ofList [("detail", .str exc.detail)]) exc.statusCode
      timestamp nonce

def unsignedHeaders : ProtocolHeaders := ⟨none, none, none, none, none⟩

/-- Serve one request: the next state, the response and the background task.
`timestamp` and `nonce` are the ones `_signed_response` draws. Routes other than
the two signed ones answer without a signature. -/
def serve (settings : ExecutorSettings) (executor : Executor) (clock : ClockReadings)
    (request : Request) (timestamp : Int) (nonce : String) :
    Executor × Response × Option (LookupCommand × CallbackContext) :=
  if request.method = .post ∧ request.path = challengePath then
    let (executor, outcome) := challenge settings executor clock request
    (executor, respond settings request timestamp nonce outcome, none)
  else if request.method = .post ∧ request.path = executePath then
    let (executor, outcome) := execute settings executor clock request
    (executor, respond settings request timestamp nonce outcome,
      match outcome with
      | .ok reply => reply.task
      | .error _ => none)
  else if request.method = .get ∧ request.path = "/healthz" then
    (executor, ⟨200, unsignedHeaders, .json (.obj (.ofList [("status", .str "ok")]))⟩, none)
  else
    (executor, ⟨404, unsignedHeaders, .json (.obj (.ofList [("detail", .str "Not Found")]))⟩, none)

/-! ## What the execute route does -/

variable {executor : Executor} {runtime : ExecutorRuntime} {payload : Fields} {reply : Reply}

/-- `accept` succeeds on the command and context that the execute route builds. -/
theorem accept_of_identity {command : LookupCommand} {jobId leaseId : UUID} {callbackUrl : String}
    (hj : command.jobId = some jobId) (hl : command.leaseId = some leaseId)
    (hu : command.callbackUrl = some callbackUrl) :
    runtime.accept command ⟨callbackUrl, jobId, leaseId⟩ = .ok (runtime.tryReserve jobId leaseId) := by
  simp [ExecutorRuntime.accept, hj, hl, hu]

theorem executeCommand_cases (runtime : ExecutorRuntime) (payload : Fields) :
    (∃ exc, executeCommand runtime payload = (runtime, .error exc)) ∨
    ∃ command jobId leaseId callbackUrl,
      LookupCommand.modelValidate payload = some command ∧
      payload.get "job_id" = some (.uuid jobId) ∧ payload.get "lease_id" = some (.uuid leaseId) ∧
      executeCommand runtime payload =
        ((runtime.tryReserve jobId leaseId).1,
          answerAcceptance (runtime.tryReserve jobId leaseId).2 command
            ⟨callbackUrl, jobId, leaseId⟩) := by
  unfold executeCommand
  split
  · exact .inl ⟨_, rfl⟩
  · next command hvalid =>
    split
    · next jobId leaseId callbackUrl hj hl hu =>
      obtain ⟨hjob, hlease⟩ := LookupCommand.identity_of_modelValidate hvalid hj hl
      refine .inr ⟨command, jobId, leaseId, callbackUrl, hvalid, hjob, hlease, ?_⟩
      simp only [accept_of_identity hj hl hu]
    · exact .inl ⟨_, rfl⟩

theorem lease_of_answerAcceptance {acceptance : Acceptance} {command : LookupCommand}
    {context : CallbackContext} (h : answerAcceptance acceptance command context = .ok reply) :
    acceptance.status ≠ .busy ∧ reply.payload.get "lease_id" = some (.uuid acceptance.leaseId) := by
  unfold answerAcceptance at h
  split at h <;> next hs => cases h <;> simp [hs, Fields.ofList]

/-! ## What the executor signs -/

/-- The payload that `respond` signs. -/
def signedPayload : Except HTTPException Reply → Fields
  | .ok reply => reply.payload
  | .error exc => .ofList [("detail", .str exc.detail)]

/-- The payload is no encrypted body, and a lease that it names is one that the
runtime holds. -/
structure NamesHeldLeases (runtime : ExecutorRuntime) (payload : Fields) : Prop where
  no_ciphertext : payload.get "ciphertext" = none
  held : ∀ leaseId, payload.get "lease_id" = some (.uuid leaseId) →
    ∃ jobId, (jobId, leaseId) ∈ runtime.active

theorem namesHeldLeases_error (runtime : ExecutorRuntime) (exc : HTTPException) :
    NamesHeldLeases runtime (signedPayload (.error exc)) :=
  ⟨by simp [signedPayload, Fields.ofList], by simp [signedPayload, Fields.ofList]⟩

theorem namesHeldLeases_answerChallenge (settings : ExecutorSettings) (runtime : ExecutorRuntime)
    (payload : Fields) :
    NamesHeldLeases runtime (signedPayload (answerChallenge settings payload)) := by
  unfold answerChallenge
  split
  · split
    · exact ⟨by simp [signedPayload, Fields.ofList], by simp [signedPayload, Fields.ofList]⟩
    · exact namesHeldLeases_error _ _
  · exact namesHeldLeases_error _ _

theorem namesHeldLeases_answerAcceptance {runtime runtime' : ExecutorRuntime}
    {acceptance : Acceptance} {command : LookupCommand} {context : CallbackContext}
    {jobId leaseId : UUID} (h : runtime.tryReserve jobId leaseId = (runtime', acceptance)) :
    NamesHeldLeases runtime' (signedPayload (answerAcceptance acceptance command context)) := by
  cases hans : answerAcceptance acceptance command context with
  | error exc => exact namesHeldLeases_error _ _
  | ok reply =>
    obtain ⟨hbusy, hlease⟩ := lease_of_answerAcceptance hans
    refine ⟨?_, fun leaseId' hget => ?_⟩
    · unfold answerAcceptance at hans
      split at hans <;> cases hans <;> simp [signedPayload, Fields.ofList]
    · rw [signedPayload, hlease] at hget
      cases hget
      exact ⟨jobId, ExecutorRuntime.mem_active_of_answered h hbusy⟩

theorem namesHeldLeases_executeCommand (runtime : ExecutorRuntime) (payload : Fields) :
    NamesHeldLeases (executeCommand runtime payload).1
      (signedPayload (executeCommand runtime payload).2) := by
  obtain ⟨exc, h⟩ | ⟨command, jobId, leaseId, callbackUrl, _, _, _, h⟩ :=
    executeCommand_cases runtime payload
  · rw [h]
    exact namesHeldLeases_error _ _
  · rw [h]
    exact namesHeldLeases_answerAcceptance rfl

/-- Every signed answer is the answer of a route, over the state that the route
leaves. -/
theorem respond_eq (settings : ExecutorSettings) (request : Request) (timestamp : Int)
    (nonce : String) (outcome : Except HTTPException Reply) :
    ∃ status, respond settings request timestamp nonce outcome =
      signedResponse settings request (signedPayload outcome) status timestamp nonce := by
  cases outcome with
  | ok reply => exact ⟨_, rfl⟩
  | error exc => exact ⟨_, rfl⟩

/-! ## What serving one request does -/

def Commands (settings : ExecutorSettings) (now : Int) (request : Request)
    (entry : UUID × UUID) : Prop :=
  ∃ nonce payload command, authenticate settings now request = .ok nonce ∧
    decryptBody settings request.body = .ok payload ∧
    LookupCommand.modelValidate payload = some command ∧
    payload.get "job_id" = some (.uuid entry.1) ∧ payload.get "lease_id" = some (.uuid entry.2)

theorem verifyAndDecrypt_ok {payload : Fields}
    (h : (verifyAndDecrypt settings cache clock request).2 = .ok payload) :
    ∃ nonce, authenticate settings clock.tested request = .ok nonce ∧
      decryptBody settings request.body = .ok payload := by
  rcases verifyAndDecrypt_cases settings cache clock request with
    ⟨_, _, he⟩ | ⟨_, _, _, he⟩ | ⟨nonce, hauth, _, he⟩ <;> rw [he] at h
  · cases h
  · cases h
  · exact ⟨nonce, hauth, h⟩

theorem challenge_spec (settings : ExecutorSettings) (executor : Executor)
    (clock : ClockReadings) (request : Request) :
    (challenge settings executor clock request).1.runtime = executor.runtime ∧
      NamesHeldLeases executor.runtime (signedPayload (challenge settings executor clock request).2) := by
  unfold challenge
  split
  · exact ⟨rfl, namesHeldLeases_error _ _⟩
  · exact ⟨rfl, namesHeldLeases_answerChallenge _ _ _⟩

theorem execute_spec (settings : ExecutorSettings) (executor : Executor)
    (clock : ClockReadings) (request : Request) :
    (∀ entry ∈ (execute settings executor clock request).1.runtime.active,
      entry ∈ executor.runtime.active ∨ Commands settings clock.tested request entry) ∧
    NamesHeldLeases (execute settings executor clock request).1.runtime
      (signedPayload (execute settings executor clock request).2) := by
  unfold execute
  split
  · exact ⟨fun _ hmem => .inl hmem, namesHeldLeases_error _ _⟩
  · next payload hverify =>
    refine ⟨fun entry hmem => ?_, namesHeldLeases_executeCommand _ _⟩
    obtain ⟨nonce, hauth, hopen⟩ := verifyAndDecrypt_ok (congrArg Prod.snd hverify)
    obtain ⟨exc, h⟩ | ⟨command, jobId, leaseId, _, hvalid, hjob, hlease, h⟩ :=
      executeCommand_cases executor.runtime payload
    · rw [h] at hmem
      exact .inl hmem
    · rw [h] at hmem
      rcases ExecutorRuntime.mem_active_tryReserve rfl hmem with hmem | rfl
      · exact .inl hmem
      · exact .inr ⟨nonce, payload, command, hauth, hopen, hvalid, hjob, hlease⟩

/-- What serving one request can do: the reservations it adds are those of an
authenticated command, and what it signs names no lease but held ones. -/
theorem serve_spec (settings : ExecutorSettings) (executor : Executor)
    (clock : ClockReadings) (request : Request) (timestamp : Int) (nonce : String) :
    (∀ entry ∈ (serve settings executor clock request timestamp nonce).1.runtime.active,
      entry ∈ executor.runtime.active ∨ Commands settings clock.tested request entry) ∧
    ((serve settings executor clock request timestamp nonce).2.1.headers = unsignedHeaders ∨
      ∃ payload status, (serve settings executor clock request timestamp nonce).2.1 =
          signedResponse settings request payload status timestamp nonce ∧
        NamesHeldLeases (serve settings executor clock request timestamp nonce).1.runtime payload) := by
  unfold serve
  split
  · obtain ⟨hruntime, hnames⟩ := challenge_spec settings executor clock request
    obtain ⟨status, hrespond⟩ := respond_eq settings request timestamp nonce
      (challenge settings executor clock request).2
    refine ⟨fun entry hmem => .inl (hruntime ▸ hmem), .inr ⟨_, status, hrespond, ?_⟩⟩
    exact hruntime ▸ hnames
  split
  · obtain ⟨hactive, hnames⟩ := execute_spec settings executor clock request
    obtain ⟨status, hrespond⟩ := respond_eq settings request timestamp nonce
      (execute settings executor clock request).2
    exact ⟨hactive, .inr ⟨_, status, hrespond, hnames⟩⟩
  split
  · exact ⟨fun _ hmem => .inl hmem, .inl rfl⟩
  · exact ⟨fun _ hmem => .inl hmem, .inl rfl⟩

end Trackpal.Worker
