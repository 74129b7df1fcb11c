import Trackpal.Foundation.Runs
import Trackpal.Backend.Transport
import Trackpal.Worker.CallbackClient

/-!
# One executor key on an active network

The backend's transport, one executor process and its callback client share a
key. Between them the network drops, delays, replays and reflects messages,
rewrites everything outside the HMAC, and chooses the HTTP status. It cannot
compute an HMAC under the key: a message with such an HMAC must carry one that
was signed before, by any party and in either direction.

`uuid4` draws are fresh: a handoff is made for a lease that no handoff used.

Results:
1. `Invariant.reachable`: every body signed under the key is harmless. What it
   opens to as a command was issued by a handoff, and a lease it names in the
   clear was held.
2. `held_of_verified`: a verified response that names a lease in the clear names
   one that the executor held.
-/

namespace Trackpal.Network

open Trackpal.Protocol Trackpal.Foundation Trackpal.Backend Trackpal.Worker

/-- The two sides of one executor key. `urlPath` is `urlsplit(url).path or "/"`. -/
structure Pairing where
  settings : ExecutorSettings
  executor : ExecutorView
  urlPath : String → String
  same_key : executor.keys = settings.keys

/-- Who signed a message. -/
inductive Origin where
  | backend
  | executor
  | callback
deriving DecidableEq, Repr

/-- The network's view and the state of both sides. `held` lists every
reservation, as job and lease, that the executor's runtime has ever held. -/
structure State where
  executor : Executor
  running : List CallbackContext
  delivering : List CallbackContext
  signed : List (Origin × CanonicalRequest)
  handoffs : List ExecutionEnvelope
  challenges : List String
  issued : List (UUID × UUID)
  held : List (UUID × UUID)

/-- Nothing has been sent. -/
def State.start (pairing : Pairing) : State :=
  ⟨.start pairing.settings, [], [], [], [], [], [], []⟩

/-- One step of a side or of the network. -/
inductive Action where
  /-- The backend signs the request of a handoff. -/
  | handoff (envelope : ExecutionEnvelope) (draws : Draws)
  /-- The backend signs the request of a challenge. -/
  | challenge (value : String) (draws : Draws)
  /-- The network delivers a request to the executor, which answers it. -/
  | deliver (request : Request) (clock : ClockReadings) (timestamp : Int) (nonce : String)
  /-- The network completes the POST of a handoff, which returns at `now`. -/
  | answerHandoff (envelope : ExecutionEnvelope) (now : Int) (attempt : Attempt)
  /-- The network completes the POST of a challenge, which returns at `now`. -/
  | answerChallenge (value : String) (now : Int) (attempt : Attempt)
  /-- An execution ends and its callback is signed. -/
  | callback (context : CallbackContext) (outcome : LookupOutcome) (draws : Draws)
  /-- An execution releases its reservation. -/
  | release (context : CallbackContext)
  /-- The executor process restarts. -/
  | restart

def signedText (pairing : Pairing) (headers : ProtocolHeaders) : Option CanonicalRequest :=
  match headers.signature with
  | some (.hmac key text) => if key = pairing.settings.keys.signing then some text else none
  | _ => none

/-- The network can send these headers: an HMAC under the key was seen before. -/
def sendable (pairing : Pairing) (s : State) (headers : ProtocolHeaders) : Bool :=
  match signedText pairing headers with
  | some text => text ∈ s.signed.map Prod.snd
  | none => true

/-- The network can complete a POST with this response. -/
def Attempt.sendable (pairing : Pairing) (s : State) : Attempt → Bool
  | .response response => Network.sendable pairing s response.headers
  | _ => true

/-- The messages signed so far and this one. -/
def record (pairing : Pairing) (s : State) (origin : Origin) (headers : ProtocolHeaders) :
    List (Origin × CanonicalRequest) :=
  match signedText pairing headers with
  | some text => (origin, text) :: s.signed
  | none => s.signed

/-- One step. `none` means that the action is not possible. -/
def step (pairing : Pairing) (s : State) : Action → Option State
  | .handoff envelope draws =>
    if envelope.leaseId ∈ s.issued.map Prod.snd then none
    else
      let request := signedBody pairing.executor handoffPath envelope.payload draws
      some { s with
        signed := record pairing s .backend request.headers
        handoffs := envelope :: s.handoffs
        issued := (envelope.jobId, envelope.leaseId) :: s.issued }
  | .challenge value draws =>
    let request := signedBody pairing.executor Backend.challengePath
      (.ofList [("challenge", .str value)]) draws
    some { s with
      signed := record pairing s .backend request.headers
      challenges := value :: s.challenges }
  | .deliver request clock timestamp nonce =>
    if sendable pairing s request.headers then
      let (executor, response, task) :=
        serve pairing.settings s.executor clock request timestamp nonce
      some { s with
        executor := executor
        running := (task.map Prod.snd).toList ++ s.running
        signed := record pairing s .executor response.headers
        held := executor.runtime.active ++ s.held }
    else none
  | .answerHandoff envelope _ attempt =>
    if envelope ∈ s.handoffs ∧ Attempt.sendable pairing s attempt then
      some { s with handoffs := s.handoffs.erase envelope }
    else none
  | .answerChallenge value _ attempt =>
    if value ∈ s.challenges ∧ Attempt.sendable pairing s attempt then
      some { s with challenges := s.challenges.erase value }
    else none
  | .callback context outcome draws =>
    if context ∈ s.running then
      let request := callbackRequest pairing.settings (pairing.urlPath context.callbackUrl)
        ⟨context.jobId, context.leaseId, outcome⟩ draws
      some { s with
        running := s.running.erase context
        delivering := context :: s.delivering
        signed := record pairing s .callback request.headers }
    else none
  | .release context =>
    let executor := { s.executor with
      runtime := s.executor.runtime.release context.jobId context.leaseId }
    if context ∈ s.delivering then
      some { s with executor := executor, delivering := s.delivering.erase context }
    else if context ∈ s.running then
      some { s with executor := executor, running := s.running.erase context }
    else none
  | .restart => some { s with
      executor := .start pairing.settings
      running := []
      delivering := [] }

/-- Some run from the start ends in `s`. -/
def Reachable (pairing : Pairing) (s : State) : Prop :=
  Reaches (step pairing) Always (State.start pairing) s

/-! ## What signed bodies say -/

def opens (pairing : Pairing) (body : Body) : Option Fields :=
  (EncryptedBody.modelValidate body).bind (decryptPayload · pairing.settings.keys.encryption)

/-- The object that a body is in the clear, `{}` for anything else. -/
def clear : Body → Fields
  | .json (.obj fields) => fields
  | _ => .nil

/-- A body that opens to a command opens to an issued one, and a lease that it
names in the clear was held. -/
structure Harmless (pairing : Pairing) (s : State) (body : Body) : Prop where
  issued : ∀ payload command jobId leaseId, opens pairing body = some payload →
    LookupCommand.modelValidate payload = some command →
    payload.get "job_id" = some (.uuid jobId) → payload.get "lease_id" = some (.uuid leaseId) →
    (jobId, leaseId) ∈ s.issued
  held : ∀ leaseId, (clear body).get "lease_id" = some (.uuid leaseId) →
    ∃ jobId, (jobId, leaseId) ∈ s.held

structure Invariant (pairing : Pairing) (s : State) : Prop where
  harmless : ∀ message ∈ s.signed, Harmless pairing s message.2.bodyDigest.preimage
  active_held : s.executor.runtime.active ⊆ s.held
  held_issued : s.held ⊆ s.issued
  leases_nodup : (s.issued.map Prod.snd).Nodup
  handoffs_issued : ∀ envelope ∈ s.handoffs, (envelope.jobId, envelope.leaseId) ∈ s.issued
  requests_encrypted : ∀ message ∈ s.signed, message.1 ≠ .executor →
    ∃ payload key nonce,
      message.2.bodyDigest.preimage = (encryptPayload payload key nonce).modelDump

namespace NetworkLemmas

variable {pairing : Pairing} {s s' : State} {body : Body}

theorem mem_record {origin : Origin} {headers : ProtocolHeaders}
    {message : Origin × CanonicalRequest} (h : message ∈ record pairing s origin headers) :
    message ∈ s.signed ∨ message.1 = origin ∧ signedText pairing headers = some message.2 := by
  unfold record at h
  split at h
  · next text ht =>
    rcases List.mem_cons.mp h with rfl | h
    · exact .inr ⟨rfl, ht⟩
    · exact .inl h
  · exact .inl h

theorem signedText_signedHeaders {method : Method} {path nonce : String} {executorId : UUID}
    {keyVersion timestamp : Int} {key : SigningKey} {text : CanonicalRequest}
    (h : signedText pairing (signedHeaders signRequest method path executorId keyVersion timestamp
      nonce body key) = some text) : text.bodyDigest.preimage = body := by
  unfold signedText at h
  simp only [signedHeaders, signRequest] at h
  split at h
  · cases h
    rfl
  · cases h

theorem harmless_mono (hissued : s.issued ⊆ s'.issued) (hheld : s.held ⊆ s'.held)
    (h : Harmless pairing s body) : Harmless pairing s' body where
  issued payload command jobId leaseId hopen hvalid hjob hlease :=
    hissued (h.issued payload command jobId leaseId hopen hvalid hjob hlease)
  held leaseId hget := by
    obtain ⟨jobId, hmem⟩ := h.held leaseId hget
    exact ⟨jobId, hheld hmem⟩

theorem clear_modelDump (encrypted : EncryptedBody) :
    (clear encrypted.modelDump).get "lease_id" = none := by
  simp [clear, EncryptedBody.modelDump, Fields.ofList]

theorem harmless_encrypted {payload : Fields} {key : EncryptionKey} {nonce : Nat}
    (hcommand : ∀ command jobId leaseId, LookupCommand.modelValidate payload = some command →
      payload.get "job_id" = some (.uuid jobId) → payload.get "lease_id" = some (.uuid leaseId) →
      (jobId, leaseId) ∈ s.issued) :
    Harmless pairing s (encryptPayload payload key nonce).modelDump where
  issued payload' command jobId leaseId hopen := by
    rw [opens, modelValidate_modelDump, Option.bind_some] at hopen
    obtain rfl : payload = payload' := by
      simp only [decryptPayload, encryptPayload] at hopen
      split at hopen
      · exact Option.some.inj hopen
      · cases hopen
    exact hcommand command jobId leaseId
  held leaseId hget := by
    rw [clear_modelDump] at hget
    cases hget

theorem harmless_of_no_mailbox {payload : Fields} {key : EncryptionKey} {nonce : Nat}
    (h : payload.get "mailbox_email" = none) :
    Harmless pairing s (encryptPayload payload key nonce).modelDump :=
  harmless_encrypted fun command _ _ hvalid => by
    rw [LookupCommand.modelValidate_of_no_mailbox h] at hvalid
    cases hvalid

theorem harmless_response {payload : Fields} {runtime : ExecutorRuntime}
    (h : NamesHeldLeases runtime payload) (hheld : runtime.active ⊆ s.held) :
    Harmless pairing s (.json (.obj payload)) where
  issued payload' command jobId leaseId hopen := by
    simp [opens, EncryptedBody.modelValidate, h.no_ciphertext] at hopen
  held leaseId hget := by
    obtain ⟨jobId, hmem⟩ := h.held leaseId hget
    exact ⟨jobId, hheld hmem⟩

end NetworkLemmas

open NetworkLemmas

/-! ## The invariant -/

theorem Invariant.start (pairing : Pairing) : Invariant pairing (State.start pairing) where
  harmless _ h := nomatch h
  active_held := List.nil_subset _
  held_issued := List.nil_subset _
  leases_nodup := List.nodup_nil
  handoffs_issued _ h := nomatch h
  requests_encrypted _ h := nomatch h

variable {pairing : Pairing} {s s' : State}

/-- A request that the network can send and that authenticates carries a body
that was signed. -/
theorem signed_of_authenticate {now : Int} {request : Request} {nonce : String}
    (hsend : sendable pairing s request.headers = true)
    (hauth : authenticate pairing.settings now request = .ok nonce) :
    ∃ message ∈ s.signed, message.2.bodyDigest.preimage = request.body := by
  obtain ⟨timestamp, _, hheaders⟩ := authenticate_eq_ok.mp hauth
  unfold sendable at hsend
  split at hsend
  · next text ht =>
    obtain ⟨message, hmem, rfl⟩ := List.mem_map.mp (of_decide_eq_true hsend)
    rw [hheaders] at ht
    exact ⟨message, hmem, signedText_signedHeaders ht⟩
  · next ht =>
    rw [hheaders] at ht
    simp [signedText, signedHeaders, signRequest] at ht

theorem signed_of_verified {now : Int} {path : String} {response : Response}
    (hsend : sendable pairing s response.headers = true)
    (hverify : verifyResponse pairing.executor path response now = .ok ()) :
    ∃ message ∈ s.signed, signedText pairing response.headers = some message.2 ∧
      ∃ timestamp nonce, message.2 = canonicalRequest .post path pairing.executor.id
        pairing.executor.secretVersion timestamp nonce response.body := by
  obtain ⟨_, timestamp, nonce, _, hheaders⟩ := TransportLemmas.verifyResponse_eq_ok.mp hverify
  have ht : signedText pairing response.headers = some (canonicalRequest .post path
      pairing.executor.id pairing.executor.secretVersion timestamp nonce response.body) := by
    rw [hheaders]
    simp [signedText, signedHeaders, signRequest, pairing.same_key]
  rw [sendable, ht] at hsend
  obtain ⟨message, hmem, heq⟩ := List.mem_map.mp (of_decide_eq_true hsend)
  exact ⟨message, hmem, by rw [ht, heq], timestamp, nonce, heq⟩

theorem issued_of_commands {now : Int} {request : Request} {entry : UUID × UUID}
    (hinv : Invariant pairing s) (hsend : sendable pairing s request.headers = true)
    (h : Commands pairing.settings now request entry) : entry ∈ s.issued := by
  obtain ⟨nonce, payload, command, hauth, hopen, hvalid, hjob, hlease⟩ := h
  obtain ⟨message, hmem, hbody⟩ := signed_of_authenticate hsend hauth
  refine (hinv.harmless message hmem).issued payload command entry.1 entry.2 ?_ hvalid hjob hlease
  unfold decryptBody at hopen
  rw [hbody, opens]
  split at hopen
  · next heq =>
    cases hopen
    exact heq
  · cases hopen

theorem held_of_verified {now : Int} {path : String} {response : Response} {leaseId : UUID}
    (hinv : Invariant pairing s) (hsend : sendable pairing s response.headers = true)
    (hverify : verifyResponse pairing.executor path response now = .ok ())
    (hlease : (responseObject response).get "lease_id" = some (.uuid leaseId)) :
    ∃ jobId, (jobId, leaseId) ∈ s.held := by
  obtain ⟨message, hmem, _, timestamp, nonce, htext⟩ := signed_of_verified hsend hverify
  refine (hinv.harmless message hmem).held leaseId ?_
  rw [htext]
  exact hlease

theorem job_unique (hinv : Invariant pairing s) {jobId jobId' leaseId : UUID}
    (h : (jobId, leaseId) ∈ s.issued) (h' : (jobId', leaseId) ∈ s.issued) : jobId = jobId' := by
  have := List.inj_on_of_nodup_map hinv.leases_nodup h h' rfl
  exact congrArg Prod.fst this

/-! ## One step -/

theorem harmless_record {origin : Origin} {headers : ProtocolHeaders} (hinv : Invariant pairing s)
    (hissued : s.issued ⊆ s'.issued) (hheld : s.held ⊆ s'.held)
    (hnew : ∀ text, signedText pairing headers = some text →
      Harmless pairing s' text.bodyDigest.preimage) :
    ∀ message ∈ record pairing s origin headers,
      Harmless pairing s' message.2.bodyDigest.preimage := by
  intro message hmem
  rcases mem_record hmem with hmem | ⟨_, htext⟩
  · exact harmless_mono hissued hheld (hinv.harmless message hmem)
  · exact hnew _ htext

/-- The requests after a step are encrypted if the new message is encrypted or
comes from the executor. -/
theorem encrypted_record {origin : Origin} {headers : ProtocolHeaders} (hinv : Invariant pairing s)
    (hnew : origin ≠ .executor → ∀ text, signedText pairing headers = some text →
      ∃ payload key nonce,
        text.bodyDigest.preimage = (encryptPayload payload key nonce).modelDump) :
    ∀ message ∈ record pairing s origin headers, message.1 ≠ .executor →
      ∃ payload key nonce,
        message.2.bodyDigest.preimage = (encryptPayload payload key nonce).modelDump := by
  intro message hmem hne
  rcases mem_record hmem with hmem | ⟨rfl, htext⟩
  · exact hinv.requests_encrypted message hmem hne
  · exact hnew hne _ htext

theorem Invariant.handoff {envelope : ExecutionEnvelope} {draws : Draws}
    (hinv : Invariant pairing s) (h : step pairing s (.handoff envelope draws) = some s') :
    Invariant pairing s' := by
  simp only [step] at h
  split at h
  · cases h
  next hfresh =>
  cases h
  have hnew : ∀ text, signedText pairing
      (signedBody pairing.executor handoffPath envelope.payload draws).headers = some text →
      text.bodyDigest.preimage =
        (encryptPayload envelope.payload pairing.executor.keys.encryption draws.aesNonce).modelDump :=
    fun text => signedText_signedHeaders
  refine ⟨harmless_record hinv (List.subset_cons_self _ _) (List.Subset.refl _) ?_,
    hinv.active_held, fun _ hmem => List.mem_cons_of_mem _ (hinv.held_issued hmem),
    List.nodup_cons.mpr ⟨hfresh, hinv.leases_nodup⟩, ?_,
    encrypted_record hinv fun _ text htext => ⟨_, _, _, hnew text htext⟩⟩
  · intro text htext
    rw [hnew text htext]
    refine harmless_encrypted fun command jobId leaseId _ hjob hlease => ?_
    -- the command of an envelope is the handoff just issued
    rw [ExecutionEnvelope.get_jobId] at hjob
    rw [ExecutionEnvelope.get_leaseId] at hlease
    cases hjob
    cases hlease
    exact List.mem_cons_self
  · intro envelope' hmem
    rcases List.mem_cons.mp hmem with rfl | hmem
    · exact List.mem_cons_self
    · exact List.mem_cons_of_mem _ (hinv.handoffs_issued _ hmem)

theorem Invariant.challenge {value : String} {draws : Draws}
    (hinv : Invariant pairing s) (h : step pairing s (.challenge value draws) = some s') :
    Invariant pairing s' := by
  simp only [step] at h
  cases h
  have hnew : ∀ text, signedText pairing (signedBody pairing.executor Backend.challengePath
      (.ofList [("challenge", .str value)]) draws).headers = some text →
      text.bodyDigest.preimage = (encryptPayload (.ofList [("challenge", .str value)])
        pairing.executor.keys.encryption draws.aesNonce).modelDump :=
    fun text => signedText_signedHeaders
  refine ⟨harmless_record hinv (List.Subset.refl _) (List.Subset.refl _) fun text htext => ?_,
    hinv.active_held, hinv.held_issued, hinv.leases_nodup, hinv.handoffs_issued,
    encrypted_record hinv fun _ text htext => ⟨_, _, _, hnew text htext⟩⟩
  rw [hnew text htext]
  exact harmless_of_no_mailbox (by simp [Fields.ofList])

theorem Invariant.deliver {request : Request} {clock : ClockReadings} {timestamp : Int}
    {nonce : String} (hinv : Invariant pairing s)
    (h : step pairing s (.deliver request clock timestamp nonce) = some s') :
    Invariant pairing s' := by
  simp only [step] at h
  split at h
  · next hsend =>
    cases h
    obtain ⟨hactive, hresponse⟩ :=
      serve_spec pairing.settings s.executor clock request timestamp nonce
    have hissued : ∀ entry ∈ (serve pairing.settings s.executor clock request timestamp
        nonce).1.runtime.active, entry ∈ s.issued := by
      intro entry hmem
      rcases hactive entry hmem with hmem | hcommands
      · exact hinv.held_issued (hinv.active_held hmem)
      · exact issued_of_commands hinv hsend hcommands
    refine ⟨harmless_record hinv (List.Subset.refl _) (List.subset_append_right _ _) ?_,
      List.subset_append_left _ _, ?_, hinv.leases_nodup, hinv.handoffs_issued,
      encrypted_record hinv fun hne => absurd rfl hne⟩
    · intro text htext
      rcases hresponse with hunsigned | ⟨payload, status, hsigned, hnames⟩
      · rw [hunsigned] at htext
        cases htext
      · rw [hsigned] at htext
        rw [signedText_signedHeaders htext]
        exact harmless_response hnames (List.subset_append_left _ _)
    · intro entry hmem
      rcases List.mem_append.mp hmem with hmem | hmem
      · exact hissued entry hmem
      · exact hinv.held_issued hmem
  · cases h

/-- A step that changes neither the messages nor the leases and drops only
reservations keeps the invariant. -/
theorem Invariant.of_subset (hinv : Invariant pairing s) (hsigned : s'.signed = s.signed)
    (hactive : s'.executor.runtime.active ⊆ s.executor.runtime.active)
    (hheld : s'.held = s.held) (hissued : s'.issued = s.issued)
    (hhandoffs : s'.handoffs ⊆ s.handoffs) : Invariant pairing s' where
  harmless message hmem :=
    harmless_mono (hissued ▸ List.Subset.refl _) (hheld ▸ List.Subset.refl _)
      (hinv.harmless message (hsigned ▸ hmem))
  active_held := fun _ hmem => hheld ▸ hinv.active_held (hactive hmem)
  held_issued := by rw [hheld, hissued]; exact hinv.held_issued
  leases_nodup := hissued ▸ hinv.leases_nodup
  handoffs_issued envelope hmem := hissued ▸ hinv.handoffs_issued envelope (hhandoffs hmem)
  requests_encrypted := by rw [hsigned]; exact hinv.requests_encrypted

theorem Invariant.callback {context : CallbackContext} {outcome : LookupOutcome} {draws : Draws}
    (hinv : Invariant pairing s)
    (h : step pairing s (.callback context outcome draws) = some s') :
    Invariant pairing s' := by
  simp only [step] at h
  split at h
  · cases h
    have hnew : ∀ text, signedText pairing (callbackRequest pairing.settings
        (pairing.urlPath context.callbackUrl) ⟨context.jobId, context.leaseId, outcome⟩
        draws).headers = some text →
        text.bodyDigest.preimage = (encryptPayload
          (LookupCallbackEnvelope.modelDump ⟨context.jobId, context.leaseId, outcome⟩)
          pairing.settings.keys.encryption draws.aesNonce).modelDump :=
      fun text => signedText_signedHeaders
    refine ⟨harmless_record hinv (List.Subset.refl _) (List.Subset.refl _) fun text htext => ?_,
      hinv.active_held, hinv.held_issued, hinv.leases_nodup, hinv.handoffs_issued,
      encrypted_record hinv fun _ text htext => ⟨_, _, _, hnew text htext⟩⟩
    rw [hnew text htext]
    exact harmless_of_no_mailbox (by simp [LookupCallbackEnvelope.modelDump, Fields.ofList])
  · cases h

theorem Invariant.step {action : Action} (hinv : Invariant pairing s)
    (h : Network.step pairing s action = some s') : Invariant pairing s' := by
  cases action with
  | handoff envelope draws => exact hinv.handoff h
  | challenge value draws => exact hinv.challenge h
  | deliver request clock timestamp nonce => exact hinv.deliver h
  | answerHandoff envelope now attempt =>
    simp only [Network.step] at h
    split at h
    · cases h
      exact hinv.of_subset rfl (List.Subset.refl _) rfl rfl List.erase_subset
    · cases h
  | answerChallenge value now attempt =>
    simp only [Network.step] at h
    split at h
    · cases h
      exact hinv.of_subset rfl (List.Subset.refl _) rfl rfl (List.Subset.refl _)
    · cases h
  | callback context outcome draws => exact hinv.callback h
  | release context =>
    simp only [Network.step] at h
    split at h
    · cases h
      exact hinv.of_subset rfl ExecutorRuntime.release_active_subset rfl rfl (List.Subset.refl _)
    · split at h
      · cases h
        exact hinv.of_subset rfl ExecutorRuntime.release_active_subset rfl rfl (List.Subset.refl _)
      · cases h
  | restart =>
    cases h
    exact hinv.of_subset rfl (List.nil_subset _) rfl rfl (List.Subset.refl _)

theorem Invariant.reachable (h : Reachable pairing s) : Invariant pairing s :=
  Reaches.invariant h (.start pairing) fun _ _ _ hinv _ hstep => hinv.step hstep

theorem held_step {action : Action} (h : Network.step pairing s action = some s')
    {entry : UUID × UUID} (hmem : entry ∈ s'.held) :
    entry ∈ s.held ∨ entry ∈ s'.executor.runtime.active := by
  cases action with
  | deliver request clock timestamp nonce =>
    simp only [Network.step] at h
    split at h
    · cases h
      exact (List.mem_append.mp hmem).symm
    · cases h
  | challenge value draws =>
    cases h
    exact .inl hmem
  | restart =>
    cases h
    exact .inl hmem
  | _ =>
    simp only [Network.step] at h
    split_ifs at h <;> cases h <;> exact .inl hmem

theorem active_of_held (h : Reachable pairing s) {entry : UUID × UUID} (hmem : entry ∈ s.held) :
    ∃ s₀, Reachable pairing s₀ ∧ Reaches (Network.step pairing) Always s₀ s ∧
      entry ∈ s₀.executor.runtime.active := by
  induction h with
  | refl => cases hmem
  | tail hreach _ hstep ih =>
    rcases held_step hstep hmem with hmem | hmem
    · obtain ⟨s₀, hreach₀, hrun, hactive⟩ := ih hmem
      exact ⟨s₀, hreach₀, .tail hrun trivial hstep, hactive⟩
    · exact ⟨_, .tail hreach trivial hstep, .refl, hmem⟩

end Trackpal.Network
