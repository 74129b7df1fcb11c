import Trackpal.Registry.Service
import Trackpal.Backend.Callbacks
import Trackpal.Worker.CallbackClient

/-!
# Secret rotation between the two sides

The registry counts key versions: an executor is created with version 1 and
every rotation stores its candidate under the next one. The worker does not
count: `KEY_VERSION` and `CALLBACK_KEY_VERSION` are the constant 1, for what it
accepts, for what it answers and for its callbacks. The two sides meet here, on
a network that delivers every message.
-/

namespace Trackpal.Registry

open Trackpal.Protocol Trackpal.Backend Trackpal.Worker

/-- A worker process, and what the two sides draw while they talk to it. -/
structure Rollout where
  settings : ExecutorSettings
  worker : Executor
  confirmation : Option String
  challengeValue : String
  draws : Draws
  workerClock : ClockReadings
  workerTimestamp : Int
  workerNonce : String
  now : Int

namespace Rollout

variable (rollout : Rollout)

def answers (view : ExecutorView) : Except ChallengeError ChallengeResult :=
  let request := signedBody view Backend.challengePath
    (.ofList [("challenge", .str rollout.challengeValue)]) rollout.draws
  let response := (serve rollout.settings rollout.worker rollout.workerClock request
    rollout.workerTimestamp rollout.workerNonce).2.1
  Backend.challenge view rollout.challengeValue rollout.now (.response response)

def ChallengeWorks (row : LookupExecutor) : Prop :=
  challengeAccepted row (rollout.answers (storedView row)) = true

def HandoffWorks (row : LookupExecutor) (envelope : ExecutionEnvelope) : Prop :=
  ∃ nonce, authenticate rollout.settings rollout.workerClock.tested
    (signedBody (storedView row) handoffPath envelope.payload rollout.draws) = .ok nonce

def CallbackWorks (row : LookupExecutor) (skewSeconds : Int) (path : String)
    (envelope : LookupCallbackEnvelope) : Prop :=
  ∃ verified, authenticateCallback skewSeconds rollout.now
    ⟨callbackRequest rollout.settings path envelope rollout.draws, none, none,
      fun id => if id = row.id then some row else none⟩ = .ok verified

/-- `verify_executor` after `rotate_secret` promotes the pending secret to `row`. -/
def Promotes (executor : LookupExecutor) (plainSecret : String) (row : LookupExecutor) : Prop :=
  verifyExecutor (rotateSecret executor plainSecret) rollout.confirmation rollout.answers
      rollout.now = .verified row ∧
    row.secretEncrypted = encryptValue plainSecret ∧
    row.secretVersion = executor.secretVersion + 1

end Rollout

/-- The rotation of a worker that runs with the pending secret goes through, and
afterwards the two sides authenticate each other. -/
def RotationWorks (executor : LookupExecutor) (plainSecret : String) (skewSeconds : Int)
    (rollout : Rollout) : Prop :=
  ∃ row, rollout.Promotes executor plainSecret row ∧ rollout.ChallengeWorks row ∧
    (∀ envelope, rollout.HandoffWorks row envelope) ∧
    ∀ path envelope, rollout.CallbackWorks row skewSeconds path envelope

/-! ## Versions -/

/-- A rotation that some worker made `verify_executor` promote. -/
def completeRotation (executor : LookupExecutor) (plainSecret : String) (now : Int) :
    Option LookupExecutor :=
  verificationSucceeded (rotateSecret executor plainSecret) now

def completeRotations (executor : LookupExecutor) (now : Int) :
    List String → Option LookupExecutor
  | [] => some executor
  | plainSecret :: rest => do
    let row ← completeRotation executor plainSecret now
    completeRotations row now rest

theorem completeRotation_eq (executor : LookupExecutor) (plainSecret : String) (now : Int) :
    ∃ row, completeRotation executor plainSecret now = some row ∧
      row.secretEncrypted = encryptValue plainSecret ∧
      row.secretVersion = executor.secretVersion + 1 ∧ row.pendingSecretEncrypted = none :=
  ⟨_, rfl, rfl, rfl, rfl⟩

theorem secretVersion_completeRotations {executor row : LookupExecutor} {now : Int}
    {secrets : List String} (h : completeRotations executor now secrets = some row) :
    row.secretVersion = executor.secretVersion + secrets.length := by
  induction secrets generalizing executor with
  | nil =>
    cases h
    simp
  | cons plainSecret rest ih =>
    rw [completeRotations, Option.bind_eq_bind] at h
    obtain ⟨next, hnext, hrest⟩ := Option.bind_eq_some_iff.mp h
    obtain ⟨next', hnext', _, hversion, _⟩ := completeRotation_eq executor plainSecret now
    rw [hnext] at hnext'
    cases hnext'
    rw [ih hrest, hversion, List.length_cons]
    push_cast
    ring

/-! ## The worker's constant -/

variable {rollout : Rollout} {row : LookupExecutor} {view : ExecutorView}

theorem answers_error (rollout : Rollout) (h : view.secretVersion ≠ keyVersion) :
    ∃ err, rollout.answers view = .error err := by
  cases hans : rollout.answers view with
  | error err => exact ⟨err, rfl⟩
  | ok result =>
    rw [Rollout.answers] at hans
    obtain ⟨response, heq, hverify, _⟩ := TransportLemmas.challenge_eq_ok hans
    cases heq
    obtain ⟨_, timestamp, nonce, _, hheaders⟩ := TransportLemmas.verifyResponse_eq_ok.mp hverify
    obtain ⟨_, hunsigned | ⟨payload, status, hsigned, _⟩⟩ := serve_spec rollout.settings
      rollout.worker rollout.workerClock (signedBody view Backend.challengePath
        (.ofList [("challenge", .str rollout.challengeValue)]) rollout.draws)
      rollout.workerTimestamp rollout.workerNonce
    · rw [hunsigned] at hheaders
      cases hheaders
    · rw [hsigned] at hheaders
      have hversion : some keyVersion = some view.secretVersion :=
        congrArg ProtocolHeaders.keyVersion hheaders
      exact absurd (Option.some.inj hversion).symm h

theorem not_challengeWorks (h : row.secretVersion ≠ keyVersion) : ¬ rollout.ChallengeWorks row := by
  intro hworks
  obtain ⟨err, herr⟩ : ∃ err, rollout.answers (storedView row) = .error err :=
    answers_error rollout h
  rw [Rollout.ChallengeWorks, herr] at hworks
  cases hworks

theorem not_handoffWorks (h : row.secretVersion ≠ keyVersion) (envelope : ExecutionEnvelope) :
    ¬ rollout.HandoffWorks row envelope := by
  rintro ⟨nonce, hauth⟩
  obtain ⟨timestamp, _, hheaders⟩ := authenticate_eq_ok.mp hauth
  have hversion : some row.secretVersion = some keyVersion :=
    congrArg ProtocolHeaders.keyVersion hheaders
  exact h (Option.some.inj hversion)

theorem not_callbackWorks {skewSeconds : Int} (h : row.secretVersion ≠ callbackKeyVersion)
    (path : String) (envelope : LookupCallbackEnvelope) :
    ¬ rollout.CallbackWorks row skewSeconds path envelope := by
  rintro ⟨verified, hauth⟩
  obtain ⟨executor, timestamp, hrow, _, hversion, _, _, _, hheaders⟩ :=
    CallbackLemmas.authenticateCallback_eq_ok.mp hauth
  have hsigned : some callbackKeyVersion = some verified.keyVersion :=
    congrArg ProtocolHeaders.keyVersion hheaders
  have hsame : executor = row := by
    dsimp only at hrow
    split at hrow
    · exact (Option.some.inj hrow).symm
    · cases hrow
  rw [hsame] at hversion
  exact h (hversion ▸ (Option.some.inj hsigned).symm)

theorem not_promotes {executor : LookupExecutor} {plainSecret : String}
    (h : executor.secretVersion + 1 ≠ keyVersion) :
    ¬ rollout.Promotes executor plainSecret row := by
  rintro ⟨hverified, _⟩
  obtain ⟨err, herr⟩ : ∃ err, rollout.answers (candidateWithSecret executor
      (encryptValue plainSecret) (executor.secretVersion + 1)) = .error err :=
    answers_error rollout h
  have hcandidate : verificationCandidate (rotateSecret executor plainSecret) =
      some (candidateWithSecret executor (encryptValue plainSecret)
        (executor.secretVersion + 1)) := rfl
  unfold verifyExecutor at hverified
  split at hverified
  · cases hverified
  · rw [hcandidate] at hverified
    simp [herr, challengeAccepted] at hverified

/-! ## Rotations -/

/-- Whatever the number of rotations an executor has behind it, its next rotation
never goes through: the worker answers under version 1, the backend expects the
next one. Had the secret been promoted, no challenge, no handoff and no callback
would authenticate under its version. -/
theorem rotation_never_works (executor : LookupExecutor) (n : Nat)
    (hversion : executor.secretVersion = 1 + n) (plainSecret : String) (skewSeconds : Int)
    (rollout : Rollout) :
    ¬ RotationWorks executor plainSecret skewSeconds rollout ∧
      (∀ row, ¬ rollout.Promotes executor plainSecret row) ∧
      ∀ row : LookupExecutor, row.secretVersion = executor.secretVersion + 1 →
        ¬ rollout.ChallengeWorks row ∧ (∀ envelope, ¬ rollout.HandoffWorks row envelope) ∧
          ∀ path envelope, ¬ rollout.CallbackWorks row skewSeconds path envelope := by
  have hnext : executor.secretVersion + 1 ≠ 1 := by omega
  refine ⟨?_, fun row => not_promotes hnext, fun row hrow => ?_⟩
  · rintro ⟨row, hpromotes, _⟩
    exact not_promotes hnext hpromotes
  · have hne : row.secretVersion ≠ 1 := hrow ▸ hnext
    exact ⟨not_challengeWorks hne, not_handoffWorks hne, not_callbackWorks hne⟩

def exRotated : LookupExecutor :=
  ⟨⟨7⟩, "https://executor.test", .https, .active, .healthy, false, 2, ⟨"secret"⟩, 1, none, none,
    some 0, some 0, some 0, none⟩

def exRollout (plainSecret : String) : Rollout :=
  ⟨⟨⟨7⟩, plainSecret, 2, Nat.two_pos⟩, .start ⟨⟨7⟩, plainSecret, 2, Nat.two_pos⟩, none, "c",
    ⟨1000, "n", 1⟩, .at 1000, 1000, "m", 1000⟩

/-- The challenge of the stored key under version 1 works. -/
example :
    challengeAccepted exRotated ((exRollout "secret").answers (storedView exRotated)) = true := by
  decide

/-- The first rotation fails on a worker that runs with the pending secret. -/
theorem first_rotation_fails :
    ¬ ∀ (executor : LookupExecutor) (n : Nat), executor.secretVersion = 1 + n →
      ∀ (plainSecret : String) (rollout : Rollout),
        rollout.settings.executorId = executor.id → rollout.settings.executorSecret = plainSecret →
        rollout.workerClock.tested = rollout.draws.timestamp → rollout.workerTimestamp = rollout.now →
        RotationWorks executor plainSecret 60 rollout := by
  intro h
  obtain ⟨row, ⟨hverified, _⟩, _⟩ := h exRotated 0 rfl "next" (exRollout "next") rfl rfl rfl rfl
  have hfailed : verifyExecutor (rotateSecret exRotated "next") none (exRollout "next").answers
      1000 = .failed (verificationFailed (rotateSecret exRotated "next") 1000) := by decide
  rw [show (exRollout "next").confirmation = none from rfl,
    show (exRollout "next").now = 1000 from rfl, hfailed] at hverified
  cases hverified

def exThrice : LookupExecutor :=
  (completeRotations exRotated 1000 ["first", "second", "third"]).getD exRotated

/-- The fourth rotation fails as well. -/
theorem fourth_rotation_fails : ¬ RotationWorks exThrice "next" 60 (exRollout "next") := by
  have hversion : exThrice.secretVersion = 1 + (3 : Nat) :=
    @secretVersion_completeRotations exRotated exThrice 1000 ["first", "second", "third"] rfl
  exact (rotation_never_works exThrice 3 hversion "next" 60 (exRollout "next")).1

end Trackpal.Registry
