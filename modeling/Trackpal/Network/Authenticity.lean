import Trackpal.Network.ActiveNetwork

/-!
# What a verified response tells the backend

Requests and responses are signed under one key in one canonical form, the
status is not signed, and a response is not bound to its request. What is left
is the body: the executor signs a lease in the clear only if it holds it, and
every request body is encrypted.
-/

namespace Trackpal.Network

open Trackpal.Protocol Trackpal.Foundation Trackpal.Backend Trackpal.Worker

variable {pairing : Pairing} {s s' : State}

/-! ## Handoffs -/

/-- When a handoff returns `ACCEPTED` or `DUPLICATE_SAME_LEASE`, the runtime of the
executor held the job of the envelope under its lease in some earlier state. -/
theorem handoff_authentic {envelope : ExecutionEnvelope} {now : Int} {attempt : Attempt}
    (hreach : Reachable pairing s)
    (hstep : step pairing s (.answerHandoff envelope now attempt) = some s')
    (hpositive : (Backend.handoff pairing.executor envelope.leaseId now attempt).status = .accepted ∨
      (Backend.handoff pairing.executor envelope.leaseId now attempt).status =
        .duplicateSameLease) :
    ∃ s₀, Reachable pairing s₀ ∧ Reaches (step pairing) Always s₀ s ∧
      (envelope.jobId, envelope.leaseId) ∈ s₀.executor.runtime.active := by
  have hinv := Invariant.reachable hreach
  have hsent : envelope ∈ s.handoffs ∧ Attempt.sendable pairing s attempt = true := by
    by_contra hne
    simp only [step, if_neg hne] at hstep
    cases hstep
  obtain ⟨response, rfl, hverify, hlease⟩ := TransportLemmas.handoff_positive hpositive
  obtain ⟨jobId, hheld⟩ := held_of_verified hinv hsent.2 hverify hlease
  -- the lease was issued once, so the job that held it is the one of the envelope
  obtain rfl := job_unique hinv (hinv.handoffs_issued _ hsent.1) (hinv.held_issued hheld)
  exact active_of_held hreach hheld

def exPairing : Pairing :=
  ⟨⟨⟨7⟩, "secret", 2, Nat.two_pos⟩, ⟨⟨7⟩, "https://executor.test", .https, ⟨"secret"⟩, 1⟩, id, rfl⟩

def exEnvelope : ExecutionEnvelope :=
  ⟨⟨1⟩, ⟨2⟩, "2026-01-01 00:03:00+00:00", "/complete", "box@example.test", "password", "netflix",
    "user@example.test", 10, "2025-12-31 23:50:00+00:00", 100, "2026-01-01 00:02:00+00:00", []⟩

def exHandoff : Request :=
  signedBody exPairing.executor handoffPath exEnvelope.payload ⟨1000, "n", 1⟩

def exAnswer : Response :=
  signedResponse exPairing.settings exHandoff
    (.ofList [("accepted", .bool true), ("lease_id", .uuid ⟨2⟩)]) 202 1001 "m"

def exRun : List Action :=
  [.handoff exEnvelope ⟨1000, "n", 1⟩, .deliver exHandoff (.at 1001) 1001 "m"]

/-- The answer of the executor makes the handoff positive, and the executor holds
the lease. -/
theorem accepted_run : ∃ s s₀, Reachable exPairing s ∧
    (Backend.handoff exPairing.executor exEnvelope.leaseId 1002 (.response exAnswer)).status =
      .accepted ∧
    Reaches (step exPairing) Always s₀ s ∧ (⟨1⟩, ⟨2⟩) ∈ s₀.executor.runtime.active := by
  have hrun : (exec (step exPairing) (State.start exPairing)
      (exRun ++ [Action.answerHandoff exEnvelope 1002 (.response exAnswer)])).isSome = true := by decide
  obtain ⟨s', hexec⟩ := Option.isSome_iff_exists.mp hrun
  rw [exec, List.foldlM_append] at hexec
  obtain ⟨s, hs, hanswer⟩ := Option.bind_eq_some_iff.mp hexec
  have hpositive : (Backend.handoff exPairing.executor exEnvelope.leaseId 1002
      (.response exAnswer)).status = .accepted := by decide
  have hstep : step exPairing s (.answerHandoff exEnvelope 1002 (.response exAnswer)) = some s' := by
    simpa [List.foldlM] using hanswer
  have hreach : Reachable exPairing s := reaches_of_exec hs
  obtain ⟨s₀, _, hearlier, hactive⟩ := handoff_authentic hreach hstep (.inl hpositive)
  exact ⟨s, s₀, hreach, hpositive, hearlier, hactive⟩

/-! ## Reflected requests -/

/-- The response triple was signed by `_signed_response`. -/
def FromExecutor (pairing : Pairing) (s : State) (response : Response) : Prop :=
  ∃ text, (Origin.executor, text) ∈ s.signed ∧ signedText pairing response.headers = some text

def FromRequest (pairing : Pairing) (s : State) (response : Response) : Prop :=
  ∃ origin text, origin ≠ .executor ∧ (origin, text) ∈ s.signed ∧
    signedText pairing response.headers = some text ∧
    ∃ payload key nonce, response.body = (encryptPayload payload key nonce).modelDump

def exReflection : Response := ⟨202, exHandoff.headers, exHandoff.body⟩

/-- A reflected request verifies before the executor has signed anything. -/
theorem reflected_request_verifies :
    ¬ ∀ (pairing : Pairing) (s : State) (path : String) (response : Response) (now : Int),
      Reachable pairing s → sendable pairing s response.headers = true →
      verifyResponse pairing.executor path response now = .ok () →
      FromExecutor pairing s response := by
  intro h
  have hrun : (exec (step exPairing) (State.start exPairing)
      [.handoff exEnvelope ⟨1000, "n", 1⟩]).isSome = true := by decide
  have hfacts : ∀ s, exec (step exPairing) (State.start exPairing)
      [.handoff exEnvelope ⟨1000, "n", 1⟩] = some s →
      sendable exPairing s exReflection.headers = true ∧
        ∀ message ∈ s.signed, message.1 = .backend := by
    intro s hs
    cases hs
    exact ⟨by decide, by decide⟩
  obtain ⟨s, hs⟩ := Option.isSome_iff_exists.mp hrun
  obtain ⟨hsend, hbackend⟩ := hfacts s hs
  obtain ⟨text, hmem, _⟩ := h exPairing s handoffPath exReflection 1000 (reaches_of_exec hs) hsend
    (by decide)
  cases hbackend _ hmem

theorem encrypted_refused {response : Response} {payload : Fields} {key : EncryptionKey}
    {nonce : Nat}
    (hbody : response.body = (encryptPayload payload key nonce).modelDump) :
    (∀ leaseId now, (Backend.handoff pairing.executor leaseId now (.response response)).status ≠
        .accepted ∧
      (Backend.handoff pairing.executor leaseId now (.response response)).status ≠
        .duplicateSameLease) ∧
    ∀ value now result, Backend.challenge pairing.executor value now (.response response) ≠
      .ok result := by
  have hlease : (responseObject response).get "lease_id" = none := by
    simp [responseObject, hbody, EncryptedBody.modelDump, Fields.ofList]
  have hecho : (responseObject response).get "challenge" = none := by
    simp [responseObject, hbody, EncryptedBody.modelDump, Fields.ofList]
  refine ⟨fun leaseId now => not_or.mp fun hpositive => ?_, fun value now result hok => ?_⟩
  · obtain ⟨response', heq, _, hget⟩ := TransportLemmas.handoff_positive hpositive
    cases heq
    rw [hlease] at hget
    cases hget
  · obtain ⟨response', heq, _, hget⟩ := TransportLemmas.challenge_eq_ok hok
    cases heq
    rw [hecho] at hget
    cases hget

/-- Every response that verifies was signed by `_signed_response`, or it is a
request signed under the key for that path; and a response that is no more than a
reflected request makes no handoff positive and no challenge succeed. -/
theorem verified_response_origin {path : String} {response : Response} {now : Int}
    (hreach : Reachable pairing s) (hsend : sendable pairing s response.headers = true)
    (hverify : verifyResponse pairing.executor path response now = .ok ()) :
    (FromExecutor pairing s response ∨ FromRequest pairing s response) ∧
    (¬ FromExecutor pairing s response →
      (∀ leaseId now', (Backend.handoff pairing.executor leaseId now' (.response response)).status ≠
          .accepted ∧
        (Backend.handoff pairing.executor leaseId now' (.response response)).status ≠
          .duplicateSameLease) ∧
      ∀ value now' result, Backend.challenge pairing.executor value now' (.response response) ≠
        .ok result) := by
  have hinv := Invariant.reachable hreach
  obtain ⟨⟨origin, text⟩, hmem, htext, timestamp, nonce, hcanonical⟩ :=
    signed_of_verified hsend hverify
  have hbody : text.bodyDigest.preimage = response.body :=
    congrArg (fun text => text.bodyDigest.preimage) hcanonical
  by_cases hfrom : origin = .executor
  · subst hfrom
    exact ⟨.inl ⟨text, hmem, htext⟩, fun hnot => absurd ⟨text, hmem, htext⟩ hnot⟩
  · obtain ⟨payload, key, nonce', hencrypted⟩ := hinv.requests_encrypted _ hmem hfrom
    rw [hbody] at hencrypted
    exact ⟨.inr ⟨origin, text, hfrom, hmem, htext, payload, key, nonce', hencrypted⟩,
      fun _ => encrypted_refused hencrypted⟩

/-- The reflected handoff verifies and is not accepted. -/
theorem reflection_refused : ∃ s, Reachable exPairing s ∧
    sendable exPairing s exReflection.headers = true ∧
    verifyResponse exPairing.executor handoffPath exReflection 1000 = .ok () ∧
    (FromExecutor exPairing s exReflection ∨ FromRequest exPairing s exReflection) := by
  have hrun : ((exec (step exPairing) (State.start exPairing)
      [.handoff exEnvelope ⟨1000, "n", 1⟩]).any fun s =>
        sendable exPairing s exReflection.headers) = true := by decide
  obtain ⟨s, hs, hsend⟩ := (Option.any_eq_true _ _).mp hrun
  have hreach : Reachable exPairing s := reaches_of_exec hs
  have hverify : verifyResponse exPairing.executor handoffPath exReflection 1000 = .ok () := by
    decide
  exact ⟨s, hreach, hsend, hverify, (verified_response_origin hreach hsend hverify).1⟩

end Trackpal.Network
