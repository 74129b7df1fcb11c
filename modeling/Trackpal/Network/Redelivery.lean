import Trackpal.Worker.CallbackClient
import Trackpal.Backend.ProcessCallback

/-!
# Posting a callback again

`CallbackClient.send` against `_process_callback`. The client repeats a post that
could not connect or was answered 5xx, with the timestamp and the nonce of the
first one. The handler uses the nonce up before it does the work.
-/

namespace Trackpal.Network

open Trackpal.Protocol Trackpal.Registry Trackpal.Foundation Trackpal.Worker Trackpal.Backend
  Trackpal.Coordinator CallbackLemmas

/-- What is between the client and the handler. -/
inductive Link where
  | connected
  | refused
  | gateway (statusCode : Nat)
  /-- The handler runs, and its response is replaced on the way back. -/
  | lost (statusCode : Nat)
  /-- The handler runs, and the client stops waiting for it. -/
  | timeout
deriving DecidableEq, Repr

/-- What one post meets. -/
structure Attempt (K : Type*) where
  now : K
  link : Link
  fault : Option Fault
  executors : UUID → Option LookupExecutor
  view : JobView

/-- One `send`: the executor, the callback URL, the outcome, and what is drawn for
its only request. The URL names the executor and the job, or is the compact one. -/
structure CallbackSend where
  settings : ExecutorSettings
  path : String
  named : Bool
  envelope : LookupCallbackEnvelope
  draws : Draws

namespace CallbackSend

def delivery (c : CallbackSend) (executors : UUID → Option LookupExecutor) : CallbackDelivery :=
  ⟨callbackRequest c.settings c.path c.envelope c.draws,
    if c.named then some c.settings.executorId else none,
    if c.named then some c.envelope.jobId else none, executors⟩

def nonceKey (c : CallbackSend) : UUID × String := (c.settings.executorId, c.draws.nonce)

def callback (c : CallbackSend) : VerifiedCallback :=
  ⟨c.settings.executorId, c.envelope.leaseId, c.envelope.outcome⟩

end CallbackSend

/-- The answer to a post, and whether `complete` applied the outcome. -/
structure Answer where
  result : PostResult
  applied : Bool
deriving DecidableEq, Repr

def responseCode : Except HTTPException CallbackResult → Nat
  | .ok _ => 200
  | .error exc => exc.statusCode

variable {K : Type*} [Field K] [LinearOrder K] [FloorRing K]

def post (skewSeconds : Int) (backend : Settings) (c : CallbackSend) (nonces : CallbackNonces K)
    (attempt : Attempt K) : CallbackNonces K × Answer :=
  let handled := processCallback skewSeconds backend attempt.fault nonces
    (c.delivery attempt.executors) attempt.now attempt.view
  match attempt.link with
  | .refused => (nonces, ⟨.connectError, false⟩)
  | .gateway statusCode => (nonces, ⟨.response statusCode, false⟩)
  | .lost statusCode => (handled.1, ⟨.response statusCode, outcomeApplied handled.2⟩)
  | .timeout => (handled.1, ⟨.raised, outcomeApplied handled.2⟩)
  | .connected => (handled.1, ⟨.response (responseCode handled.2), outcomeApplied handled.2⟩)

/-- The backend has the executor under the credentials that the worker signs with. -/
def Knows (c : CallbackSend) (attempt : Attempt K) : Prop :=
  ∃ executor, attempt.executors c.settings.executorId = some executor ∧
    executor.secretVersion = callbackKeyVersion ∧
    decryptValue executor.secretEncrypted = c.settings.executorSecret ∧
    c.settings.executorSecret ≠ ""

def InSkew (skewSeconds : Int) (c : CallbackSend) (attempt : Attempt K) : Prop :=
  |⌊attempt.now⌋ - c.draws.timestamp| ≤ skewSeconds

def Link.reaches : Link → Bool
  | .refused | .gateway _ => false
  | _ => true

/-- The post uses the nonce up: it is verified, and the handler gets as far as Redis. -/
def Burns (skewSeconds : Int) (c : CallbackSend) (attempt : Attempt K) : Prop :=
  attempt.link.reaches = true ∧ Fault.reachesRedis attempt.fault = true ∧ Knows c attempt ∧
    InSkew skewSeconds c attempt

namespace RedeliveryLemmas

variable {skewSeconds : Int} {backend : Settings} {c : CallbackSend} {nonces : CallbackNonces K}
  {attempt : Attempt K}

def verifiedHeaders (c : CallbackSend) : VerifiedHeaders :=
  ⟨c.settings.executorId, callbackKeyVersion, c.draws.nonce, c.settings.keys⟩

theorem authenticate_of_knows (hknows : Knows c attempt) (hskew : InSkew skewSeconds c attempt) :
    authenticateCallback skewSeconds ⌊attempt.now⌋ (c.delivery attempt.executors) =
      .ok (verifiedHeaders c) := by
  obtain ⟨executor, hrow, hversion, hsecret, hnonempty⟩ := hknows
  refine authenticateCallback_eq_ok.mpr ⟨executor, c.draws.timestamp, hrow, ?_, hversion.symm,
    by rw [hsecret]; exact hnonempty, ?_, hskew, rfl⟩
  · intro id hid
    unfold CallbackSend.delivery at hid
    dsimp only at hid
    split at hid
    · exact (Option.some.inj hid).symm
    · cases hid
  · rw [hsecret]
    rfl

theorem knows_of_authenticate {verified : VerifiedHeaders}
    (h : authenticateCallback skewSeconds ⌊attempt.now⌋ (c.delivery attempt.executors) =
      .ok verified) : Knows c attempt ∧ InSkew skewSeconds c attempt := by
  obtain ⟨executor, timestamp, hrow, -, hversion, hnonempty, hkeys, hskew, hheaders⟩ :=
    authenticateCallback_eq_ok.mp h
  simp only [CallbackSend.delivery, callbackRequest, signedHeaders, ProtocolHeaders.mk.injEq,
    Option.some.injEq, signRequest_inj] at hheaders
  obtain ⟨hid, hkeyVersion, htimestamp, -, hsigning, -⟩ := hheaders
  have hsecret : decryptValue executor.secretEncrypted = c.settings.executorSecret := by
    rw [hkeys] at hsigning
    exact (SigningKey.mk.inj hsigning).symm
  refine ⟨⟨executor, by rw [hid]; exact hrow, ?_, hsecret, hsecret ▸ hnonempty⟩, ?_⟩
  · rw [← hversion, ← hkeyVersion]
  · unfold InSkew
    rw [htimestamp]
    exact hskew

theorem nonces_post :
    (post skewSeconds backend c nonces attempt).1 =
      if attempt.link.reaches = true ∧ Fault.reachesRedis attempt.fault = true then
        (guardCallback skewSeconds nonces (c.delivery attempt.executors) attempt.now).1
      else nonces := by
  unfold post
  cases attempt.link <;> simp [Link.reaches, nonces_processCallback]

theorem nonces_post_of_not_burns (h : ¬Burns skewSeconds c attempt) :
    (post skewSeconds backend c nonces attempt).1 = nonces := by
  rw [nonces_post]
  split
  · next hreaches =>
    cases hauth : authenticateCallback skewSeconds ⌊attempt.now⌋
        (c.delivery attempt.executors) with
    | error exc => rw [guardCallback_of_error hauth]
    | ok verified => exact absurd ⟨hreaches.1, hreaches.2, knows_of_authenticate hauth⟩ h
  · rfl

theorem used_post_of_burns {now : K} (h : Burns skewSeconds c attempt)
    (hfree : nonces.get attempt.now c.nonceKey = none)
    (hlt : now < attempt.now + (max 1 (callbackNonceTtlSeconds skewSeconds) : Int)) :
    (post skewSeconds backend c nonces attempt).1.get now c.nonceKey = some () := by
  obtain ⟨hlink, hredis, hknows, hskew⟩ := h
  rw [nonces_post, if_pos ⟨hlink, hredis⟩,
    guardCallback_of_ok (authenticate_of_knows hknows hskew)]
  refine ExpiringStore.get_setNX_of_absent ?_ hlt
  rw [ExpiringStore.setNX_snd]
  exact Option.isNone_iff_eq_none.mpr hfree

theorem used_post_of_used {now : K} (hused : nonces.get now c.nonceKey = some ())
    (hle : attempt.now ≤ now) :
    (post skewSeconds backend c nonces attempt).1.get now c.nonceKey = some () := by
  rw [nonces_post]
  split
  · cases hauth : authenticateCallback skewSeconds ⌊attempt.now⌋
        (c.delivery attempt.executors) with
    | error exc =>
      rw [guardCallback_of_error hauth]
      exact hused
    | ok verified =>
      rw [guardCallback_of_ok hauth]
      exact ExpiringStore.get_setNX_of_live hused hle
  · exact hused

variable {before : List (Attempt K × Answer)}

theorem nonces_afterPosts_of_not_burns (h : ∀ p ∈ before, ¬Burns skewSeconds c p.1) :
    afterPosts (post skewSeconds backend c) nonces before = nonces := by
  induction before generalizing nonces with
  | nil => rfl
  | cons p before ih =>
    obtain ⟨hfirst, hrest⟩ := List.forall_mem_cons.mp h
    rw [afterPosts, List.foldl_cons, nonces_post_of_not_burns hfirst]
    exact ih hrest

theorem used_afterPosts_of_used {now : K} (hused : nonces.get now c.nonceKey = some ())
    (hle : ∀ p ∈ before, p.1.now ≤ now) :
    (afterPosts (post skewSeconds backend c) nonces before).get now c.nonceKey = some () := by
  induction before generalizing nonces with
  | nil => exact hused
  | cons p before ih =>
    obtain ⟨hfirst, hrest⟩ := List.forall_mem_cons.mp hle
    exact ih (used_post_of_used hused hfirst) hrest

theorem used_afterPosts [IsStrictOrderedRing K] (hnew : nonces c.nonceKey = none)
    (hburnt : ∃ p ∈ before, Burns skewSeconds c p.1) (hle : ∀ p ∈ before, p.1.now ≤ attempt.now)
    (hskew : InSkew skewSeconds c attempt) :
    (afterPosts (post skewSeconds backend c) nonces before).get attempt.now c.nonceKey =
      some () := by
  induction before with
  | nil =>
    obtain ⟨p, hmem, -⟩ := hburnt
    cases hmem
  | cons p before ih =>
    obtain ⟨hfirst, hrest⟩ := List.forall_mem_cons.mp hle
    rw [afterPosts, List.foldl_cons]
    by_cases hburns : Burns skewSeconds c p.1
    · have hfree : nonces.get p.1.now c.nonceKey = none := by simp [ExpiringStore.get, hnew]
      have hlt : attempt.now <
          p.1.now + (max 1 (callbackNonceTtlSeconds skewSeconds) : Int) :=
        @fresh_before_nonce_expiry K _ _ _ _ skewSeconds (c.delivery p.1.executors)
          (c.delivery attempt.executors) _ _ rfl ⟨_, rfl, hburns.2.2.2⟩ ⟨_, rfl, hskew⟩
      exact used_afterPosts_of_used (used_post_of_burns hburns hfree hlt) hrest
    · rw [nonces_post_of_not_burns hburns]
      refine ih ?_ hrest
      obtain ⟨q, hmem, hq⟩ := hburnt
      rcases List.mem_cons.mp hmem with rfl | hmem
      · exact absurd hq hburns
      · exact ⟨q, hmem, hq⟩

theorem envelope_of_delivery {executors : UUID → Option LookupExecutor} :
    ((EncryptedBody.modelValidate (c.delivery executors).request.body).bind
      (decryptPayload · (verifiedHeaders c).keys.encryption)).bind
        LookupCallbackEnvelope.modelValidate = some c.envelope := by
  simp [CallbackSend.delivery, callbackRequest, verifiedHeaders, modelValidate_modelDump,
    decrypt_encrypt, LookupCallbackEnvelope.modelValidate_modelDump]

theorem completeDelivery_delivery {executors : UUID → Option LookupExecutor} {view : JobView} :
    completeDelivery backend none (c.delivery executors) (verifiedHeaders c) view =
      .ok (complete backend (view.job c.envelope.jobId) (view.lease c.envelope.jobId) c.callback
        view.inserted view.checkedAt view.settledAt) := by
  have hpath : (c.delivery executors).pathJobId.any (· ≠ c.envelope.jobId) = false := by
    unfold CallbackSend.delivery
    cases c.named <;> simp
  rw [completeDelivery, envelope_of_delivery]
  dsimp only
  rw [if_neg (ne_true_of_eq_false hpath), if_neg (by simp)]
  rfl

theorem post_applied_of_free (hlink : attempt.link = .connected) (hfault : attempt.fault = none)
    (hknows : Knows c attempt) (hskew : InSkew skewSeconds c attempt)
    (hfree : nonces.get attempt.now c.nonceKey = none) :
    (post skewSeconds backend c nonces attempt).2.applied =
      (complete backend (attempt.view.job c.envelope.jobId) (attempt.view.lease c.envelope.jobId)
        c.callback attempt.view.inserted attempt.view.checkedAt
        attempt.view.settledAt).isApplied := by
  unfold post
  rw [hlink, hfault]
  dsimp only
  rw [processCallback_of_free (authenticate_of_knows hknows hskew) hfree,
    completeDelivery_delivery]
  rfl

theorem post_not_applied_of_used (hlink : attempt.link = .connected) (hfault : attempt.fault = none)
    (hknows : Knows c attempt) (hskew : InSkew skewSeconds c attempt)
    (hused : nonces.get attempt.now c.nonceKey = some ()) :
    (post skewSeconds backend c nonces attempt).2.applied = false := by
  unfold post
  rw [hlink, hfault]
  exact not_applied_of_used (authenticate_of_knows hknows hskew) hused

theorem post_not_applied_of_not_knows (hlink : attempt.link = .connected)
    (hknows : ¬Knows c attempt) :
    (post skewSeconds backend c nonces attempt).2.applied = false := by
  unfold post
  rw [hlink]
  dsimp only
  cases hauth : authenticateCallback skewSeconds ⌊attempt.now⌋
      (c.delivery attempt.executors) with
  | error exc => exact not_applied_of_error hauth
  | ok verified => exact absurd (knows_of_authenticate hauth).1 hknows

end RedeliveryLemmas

open RedeliveryLemmas

/-! ## A later post of the same send -/

/-- A post that reaches the handler in time, without a fault, while the lease is held
and the job is active, is applied exactly if the backend has the worker's
credentials, the result can be kept, and no earlier post of the same `send` used the
nonce up. -/
theorem retried_callback_applied_iff [IsStrictOrderedRing K] {skewSeconds : Int}
    {backend : Settings} {c : CallbackSend} {nonces : CallbackNonces K} {maxAttempts : Nat}
    {attempts : List (Attempt K)} {before after : List (Attempt K × Answer)} {attempt : Attempt K}
    {answer : Answer} {job : MailLookupJob}
    (hnew : nonces c.nonceKey = none) (horder : attempts.Pairwise (·.now ≤ ·.now))
    (hposts : (send maxAttempts (post skewSeconds backend c) Answer.result 0 nonces attempts).1 =
      before ++ (attempt, answer) :: after)
    (hlink : attempt.link = .connected) (hfault : attempt.fault = none)
    (hskew : InSkew skewSeconds c attempt)
    (hjob : attempt.view.job c.envelope.jobId = some job)
    (hheld : LeaseHeld job (attempt.view.lease c.envelope.jobId) c.callback
      attempt.view.checkedAt) :
    answer.applied = true ↔
      Knows c attempt ∧ (∀ p ∈ before, ¬Burns skewSeconds c p.1) ∧
        Applicable backend job c.envelope.outcome attempt.view.inserted attempt.view.checkedAt
          attempt.view.settledAt := by
  have hanswer : answer =
      (post skewSeconds backend c (afterPosts (post skewSeconds backend c) nonces before)
        attempt).2 := send_answer hposts
  have hle : ∀ p ∈ before, p.1.now ≤ attempt.now := by
    have hprefix := @send_environments _ _ _ maxAttempts (post skewSeconds backend c)
      Answer.result 0 nonces attempts
    rw [hposts] at hprefix
    have hpairwise := horder.sublist hprefix.sublist
    rw [List.map_append, List.pairwise_append] at hpairwise
    intro p hp
    exact hpairwise.2.2 _ (List.mem_map_of_mem hp) _ (by simp)
  subst hanswer
  by_cases hknows : Knows c attempt
  swap
  · refine iff_of_false ?_ fun h => hknows h.1
    simp [post_not_applied_of_not_knows hlink hknows]
  by_cases hburnt : ∃ p ∈ before, Burns skewSeconds c p.1
  · -- the nonce outlives the skew, so the post is refused as a replay
    have hused := @used_afterPosts K _ _ _ skewSeconds backend c nonces attempt before _ hnew hburnt
      hle hskew
    refine iff_of_false ?_ fun h => ?_
    · simp [post_not_applied_of_used hlink hfault hknows hskew hused]
    · obtain ⟨p, hmem, hp⟩ := hburnt
      exact h.2.1 p hmem hp
  · have hunburnt : ∀ p ∈ before, ¬Burns skewSeconds c p.1 :=
      fun p hmem hp => hburnt ⟨p, hmem, hp⟩
    rw [nonces_afterPosts_of_not_burns hunburnt]
    have hfree : nonces.get attempt.now c.nonceKey = none := by simp [ExpiringStore.get, hnew]
    rw [post_applied_of_free hlink hfault hknows hskew hfree, hjob, complete_applied_iff hheld]
    exact ⟨fun h => ⟨hknows, hunburnt, h⟩, fun h => h.2.2⟩

def exSend : CallbackSend :=
  ⟨⟨⟨7⟩, "secret", 2, Nat.two_pos⟩, "/complete", true,
    ⟨⟨1⟩, ⟨8⟩, ⟨.notFound, none, none, none, none, none, none⟩⟩, ⟨1000, "n", 1⟩⟩

def exAssigned : MailLookupJob :=
  ⟨⟨1⟩, ⟨2⟩, ⟨3⟩, some ⟨7⟩, "netflix", 990 * second, 990 * second, .processing, none, none, none,
    none, 1, some (1290 * second), some (991 * second), none⟩

/-- A post at `now`, with the lease held and the job active. -/
def exPost (now : ℚ) (link : Link) (fault : Option Fault) : Attempt ℚ :=
  ⟨now, link, fault, fun _ => some exExecutor,
    ⟨fun _ => some exAssigned, fun _ => some ⟨⟨7⟩, ⟨8⟩, 1170 * second⟩, true, 1001 * second,
      1001 * second⟩⟩

theorem exPost_knows (now : ℚ) (link : Link) (fault : Option Fault) :
    Knows exSend (exPost now link fault) :=
  ⟨exExecutor, rfl, rfl, rfl, by decide⟩

theorem exAssigned_held :
    LeaseHeld exAssigned (some ⟨⟨7⟩, ⟨8⟩, 1170 * second⟩) exSend.callback (1001 * second) :=
  ⟨rfl, .inr rfl, 1170 * second, rfl, by decide⟩

/-- The first post meets `link` and `fault`, the second one a healthy backend. -/
def exPosts (link : Link) (fault : Option Fault) : List (Attempt ℚ) :=
  [exPost 1000 link fault, exPost 1001 .connected none]

/-- A proxy answers the first post with 502 before the backend sees it, and the second
one is applied. -/
theorem applied_after_gateway : ∃ before answer,
    (send 3 (post 60 .default exSend) Answer.result 0 ExpiringStore.empty
        (exPosts (.gateway 502) none)).1 =
      before ++ (exPost 1001 .connected none, answer) :: [] ∧
      before.length = 1 ∧ answer.applied = true := by
  have hanswers : (send 3 (post 60 .default exSend) Answer.result 0 ExpiringStore.empty
      (exPosts (.gateway 502) none)).1.map Prod.snd =
        [⟨.response 502, false⟩, ⟨.response 200, true⟩] := by decide +kernel
  have hposts : (send 3 (post 60 .default exSend) Answer.result 0 ExpiringStore.empty
      (exPosts (.gateway 502) none)).1 =
        [(exPost 1000 (.gateway 502) none, ⟨.response 502, false⟩)] ++
          (exPost 1001 .connected none, ⟨.response 200, true⟩) :: [] := send_eq_zip hanswers
  refine ⟨_, _, hposts, rfl, ?_⟩
  refine (retried_callback_applied_iff rfl ?_ hposts rfl rfl ?_ rfl exAssigned_held).mpr
    ⟨exPost_knows _ _ _, ?_, ?_⟩
  · norm_num [exPosts, exPost]
  · unfold InSkew
    decide +kernel
  · intro p hp hburns
    rw [List.mem_singleton.mp hp] at hburns
    cases hburns.1
  · exact ⟨by decide, fun hfound => by cases hfound⟩

/-- The first post fails inside `complete` with its nonce used up. The second one meets
a healthy backend in time, and is refused as a replay. -/
theorem retry_after_failure_lost :
    ¬ ∀ (skewSeconds : Int) (backend : Settings) (c : CallbackSend) (nonces : CallbackNonces ℚ)
        (maxAttempts : Nat) (attempts : List (Attempt ℚ)) (before after : List (Attempt ℚ × Answer))
        (attempt : Attempt ℚ) (answer : Answer) (job : MailLookupJob),
      nonces c.nonceKey = none → attempts.Pairwise (·.now ≤ ·.now) →
      (send maxAttempts (post skewSeconds backend c) Answer.result 0 nonces attempts).1 =
        before ++ (attempt, answer) :: after →
      (∀ p ∈ before, p.2.applied = false) →
      attempt.link = .connected → attempt.fault = none → InSkew skewSeconds c attempt →
      attempt.view.job c.envelope.jobId = some job →
      LeaseHeld job (attempt.view.lease c.envelope.jobId) c.callback attempt.view.checkedAt →
      Knows c attempt →
      Applicable backend job c.envelope.outcome attempt.view.inserted attempt.view.checkedAt
        attempt.view.settledAt →
      answer.applied = true := by
  intro h
  have hanswers : (send 3 (post 60 .default exSend) Answer.result 0 ExpiringStore.empty
      (exPosts .connected (some .complete))).1.map Prod.snd =
        [⟨.response 500, false⟩, ⟨.response 401, false⟩] := by decide +kernel
  have happlied := h 60 .default exSend ExpiringStore.empty 3
    (exPosts .connected (some .complete))
    [(exPost 1000 .connected (some .complete), ⟨.response 500, false⟩)] []
    (exPost 1001 .connected none) ⟨.response 401, false⟩ exAssigned rfl
    (by norm_num [exPosts, exPost]) (send_eq_zip hanswers) (by simp) rfl rfl
    (by unfold InSkew; decide +kernel) rfl exAssigned_held (exPost_knows _ _ _)
    ⟨by decide, fun hfound => by cases hfound⟩
  cases happlied

end Trackpal.Network
