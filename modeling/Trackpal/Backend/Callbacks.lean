import Trackpal.Foundation.ExpiringStore
import Trackpal.Foundation.ReplayGuard
import Trackpal.Registry.LookupExecutor
import Mathlib.Algebra.Order.Floor.Ring
import Mathlib.Algebra.Order.Group.Abs
import Mathlib.Algebra.Order.Field.Basic
import Mathlib.Data.Rat.Floor
import Mathlib.Tactic.Linarith

/-!
# The callback boundary

`_process_callback` of `integrations/executor_callbacks.py` up to the replay
check: the protocol headers, the executor row, the signature, and the nonce in
Redis. The clock is real: the freshness test truncates it, Redis does not.

The executor row is read from the database that serves the delivery, so rows may
change between two deliveries in any way.
-/

namespace Trackpal.Backend

open Trackpal.Protocol Trackpal.Registry Trackpal.Foundation

/-- One POST to a callback route, with the executor rows its handler reads.
`pathExecutorId` and `pathJobId` are `none` on the compact route. -/
structure CallbackDelivery where
  request : Request
  pathExecutorId : Option UUID
  pathJobId : Option UUID
  executors : UUID → Option LookupExecutor

/-- What the signature check establishes. -/
structure VerifiedHeaders where
  executorId : UUID
  keyVersion : Int
  nonce : String
  keys : ProtocolKeys
deriving DecidableEq, Repr

/-- `settings_callback_nonce_ttl_seconds`. -/
def callbackNonceTtlSeconds (skewSeconds : Int) : Int := max 1 (skewSeconds * 3)

/-- The part of `_process_callback` before the coordinator: headers, identity,
secret and signature. `now` is `int(time.time())`. -/
def authenticateCallback (skewSeconds now : Int) (delivery : CallbackDelivery) :
    Except HTTPException VerifiedHeaders :=
  match delivery.request.headers with
  | ⟨some executorId, some keyVersion, some timestamp, some nonce, some signature⟩ =>
    if delivery.pathExecutorId.any (· ≠ executorId) then
      .error ⟨401, "invalid protocol identity"⟩
    else
      match delivery.executors executorId with
      | none => .error ⟨401, "invalid protocol identity"⟩
      | some executor =>
        if keyVersion ≠ executor.secretVersion ∨ decryptValue executor.secretEncrypted = "" then
          .error ⟨401, "invalid protocol identity"⟩
        else
          let keys := deriveProtocolKeys (decryptValue executor.secretEncrypted)
          match verifyRequestSignature delivery.request.method delivery.request.path executorId
              keyVersion timestamp nonce delivery.request.body signature keys.signing now
              skewSeconds with
          | .error _ => .error ⟨401, "invalid protocol signature"⟩
          | .ok () => .ok ⟨executorId, keyVersion, nonce, keys⟩
  | _ => .error ⟨401, "invalid protocol headers"⟩

abbrev CallbackNonces (K : Type*) := ExpiringStore (UUID × String) Unit K

variable {K : Type*} [Field K] [LinearOrder K] [FloorRing K]

/-- `consume_callback_nonce`: `SET NX EX` with at least one second. -/
def consumeCallbackNonce (nonces : CallbackNonces K) (now : K) (executorId : UUID) (nonce : String)
    (ttlSeconds : Int) : CallbackNonces K × Bool :=
  nonces.setNX now (executorId, nonce) () (now + (max 1 ttlSeconds : Int))

/-- The signature check and the replay check of one delivery. -/
def guardCallback (skewSeconds : Int) (nonces : CallbackNonces K) (delivery : CallbackDelivery)
    (now : K) : CallbackNonces K × Except HTTPException VerifiedHeaders :=
  match authenticateCallback skewSeconds ⌊now⌋ delivery with
  | .error exc => (nonces, .error exc)
  | .ok verified =>
    match consumeCallbackNonce nonces now verified.executorId verified.nonce
        (callbackNonceTtlSeconds skewSeconds) with
    | (nonces, false) => (nonces, .error ⟨401, "replayed protocol nonce"⟩)
    | (nonces, true) => (nonces, .ok verified)

/-- The executor, timestamp and nonce of a delivery. -/
def callbackTriple (delivery : CallbackDelivery) : Option UUID × Option Int × Option String :=
  (delivery.request.headers.executorId, delivery.request.headers.timestamp,
    delivery.request.headers.nonce)

/-- The freshness test admits the delivery at `now`. -/
def CallbackFreshAt (skewSeconds : Int) (delivery : CallbackDelivery) (now : K) : Prop :=
  ∃ timestamp, delivery.request.headers.timestamp = some timestamp ∧
    |⌊now⌋ - timestamp| ≤ skewSeconds

namespace CallbackLemmas

variable {skewSeconds now : Int} {delivery : CallbackDelivery} {verified : VerifiedHeaders}

theorem authenticateCallback_eq_ok :
    authenticateCallback skewSeconds now delivery = .ok verified ↔
      ∃ executor timestamp, delivery.executors verified.executorId = some executor ∧
        (∀ id, delivery.pathExecutorId = some id → id = verified.executorId) ∧
        verified.keyVersion = executor.secretVersion ∧ decryptValue executor.secretEncrypted ≠ "" ∧
        verified.keys = deriveProtocolKeys (decryptValue executor.secretEncrypted) ∧
        |now - timestamp| ≤ skewSeconds ∧
        delivery.request.headers = signedHeaders signRequest delivery.request.method
          delivery.request.path verified.executorId verified.keyVersion timestamp verified.nonce
          delivery.request.body verified.keys.signing := by
  unfold authenticateCallback signedHeaders
  constructor
  · intro h
    split at h
    · next executorId keyVersion timestamp nonce signature hheaders =>
      split at h
      · cases h
      next hpath =>
      split at h
      · cases h
      next executor hrow =>
      split at h
      · cases h
      next hversion =>
      dsimp only at h
      split at h
      · cases h
      next hok =>
      cases h
      obtain ⟨hfresh, rfl⟩ := verifySignature_eq_ok.mp hok
      obtain ⟨hkv, hsecret⟩ := not_or.mp hversion
      refine ⟨executor, timestamp, hrow, fun id hid => ?_, not_not.mp hkv, hsecret, rfl, hfresh,
        hheaders⟩
      by_contra hne
      exact hpath (by simp [hid, hne])
    · cases h
  · rintro ⟨executor, timestamp, hrow, hpath, hkv, hsecret, hkeys, hfresh, hheaders⟩
    have hpath' : delivery.pathExecutorId.any (· ≠ verified.executorId) = false := by
      cases hid : delivery.pathExecutorId with
      | none => rfl
      | some id => simp [hpath id hid]
    have hverify : verifyRequestSignature delivery.request.method delivery.request.path
        verified.executorId verified.keyVersion timestamp verified.nonce delivery.request.body
        (signRequest delivery.request.method delivery.request.path verified.executorId
          verified.keyVersion timestamp verified.nonce delivery.request.body verified.keys.signing)
        verified.keys.signing now skewSeconds = .ok () :=
      verifySignature_eq_ok.mpr ⟨hfresh, rfl⟩
    rw [hheaders]
    dsimp only
    rw [if_neg (ne_true_of_eq_false hpath'), hrow]
    dsimp only
    rw [if_neg (not_or.mpr ⟨not_not.mpr hkv, hsecret⟩), ← hkeys, hverify]

theorem guardCallback_of_error {nonces : CallbackNonces K} {now : K} {exc : HTTPException}
    (h : authenticateCallback skewSeconds ⌊now⌋ delivery = .error exc) :
    guardCallback skewSeconds nonces delivery now = (nonces, .error exc) := by
  rw [guardCallback, h]

theorem guardCallback_of_ok {nonces : CallbackNonces K} {now : K}
    (h : authenticateCallback skewSeconds ⌊now⌋ delivery = .ok verified) :
    guardCallback skewSeconds nonces delivery now =
      ((consumeCallbackNonce nonces now verified.executorId verified.nonce
          (callbackNonceTtlSeconds skewSeconds)).1,
        if (consumeCallbackNonce nonces now verified.executorId verified.nonce
            (callbackNonceTtlSeconds skewSeconds)).2 then .ok verified
        else .error ⟨401, "replayed protocol nonce"⟩) := by
  rw [guardCallback, h]
  dsimp only
  split
  · next heq => rw [heq]; rfl
  · next heq => rw [heq]; rfl

theorem guardCallback_eq_ok {nonces : CallbackNonces K} {now : K} :
    (guardCallback skewSeconds nonces delivery now).2 = .ok verified ↔
      authenticateCallback skewSeconds ⌊now⌋ delivery = .ok verified ∧
        nonces.get now (verified.executorId, verified.nonce) = none := by
  cases hauth : authenticateCallback skewSeconds ⌊now⌋ delivery with
  | error exc => simp [guardCallback_of_error hauth]
  | ok verified' =>
    rw [guardCallback_of_ok hauth]
    simp only [consumeCallbackNonce, ExpiringStore.setNX_snd, Except.ok.injEq]
    constructor
    · intro h
      split at h
      · next hfree =>
        cases h
        exact ⟨rfl, Option.isNone_iff_eq_none.mp hfree⟩
      · cases h
    · rintro ⟨rfl, hfree⟩
      rw [if_pos (Option.isNone_iff_eq_none.mpr hfree)]

theorem identity_of_authenticate
    (h : authenticateCallback skewSeconds now delivery = .ok verified) :
    delivery.request.headers.executorId = some verified.executorId ∧
      delivery.request.headers.nonce = some verified.nonce := by
  obtain ⟨_, _, _, _, _, _, _, _, hheaders⟩ := authenticateCallback_eq_ok.mp h
  rw [hheaders]
  exact ⟨rfl, rfl⟩

end CallbackLemmas

open CallbackLemmas

/-! ## The replay guard -/

def callbackKey (delivery : CallbackDelivery) : UUID × String :=
  (delivery.request.headers.executorId.getD ⟨0⟩, delivery.request.headers.nonce.getD "")

theorem callbackKey_of_authenticate {skewSeconds now : Int} {delivery : CallbackDelivery}
    {verified : VerifiedHeaders}
    (h : authenticateCallback skewSeconds now delivery = .ok verified) :
    callbackKey delivery = (verified.executorId, verified.nonce) := by
  obtain ⟨hid, hnonce⟩ := identity_of_authenticate h
  rw [callbackKey, hid, hnonce]
  rfl

def callbackPasses (skewSeconds : Int) (nonces : CallbackNonces K) (delivery : CallbackDelivery)
    (now : K) : Bool :=
  (guardCallback skewSeconds nonces delivery now).2.toBool

theorem callbackPasses_iff {skewSeconds : Int} {nonces : CallbackNonces K}
    {delivery : CallbackDelivery} {now : K} :
    callbackPasses skewSeconds nonces delivery now = true ↔
      ∃ verified, authenticateCallback skewSeconds ⌊now⌋ delivery = .ok verified ∧
        nonces.get now (callbackKey delivery) = none := by
  constructor
  · intro h
    cases hres : (guardCallback skewSeconds nonces delivery now).2 with
    | error exc => simp [callbackPasses, hres, Except.toBool] at h
    | ok verified =>
      obtain ⟨hauth, hfree⟩ := guardCallback_eq_ok.mp hres
      exact ⟨verified, hauth, callbackKey_of_authenticate hauth ▸ hfree⟩
  · rintro ⟨verified, hauth, hfree⟩
    rw [callbackKey_of_authenticate hauth] at hfree
    rw [callbackPasses, guardCallback_eq_ok.mpr ⟨hauth, hfree⟩]
    rfl

/-- `verify_request_signature` and `consume_callback_nonce` as a replay guard:
the key of a delivery is its executor and nonce. -/
def callbackGuard (K : Type*) [Field K] [LinearOrder K] [FloorRing K] (skewSeconds : Int) :
    ReplayGuard (CallbackNonces K) CallbackDelivery (UUID × String) K where
  key := callbackKey
  Fresh := CallbackFreshAt skewSeconds
  Live nonces key now := nonces.get now key = some ()
  deliver nonces delivery now :=
    ((guardCallback skewSeconds nonces delivery now).1,
      callbackPasses skewSeconds nonces delivery now)
  expiry now := now + (max 1 (callbackNonceTtlSeconds skewSeconds) : Int)
  fresh_of_accepted h := by
    obtain ⟨verified, hauth, _⟩ := callbackPasses_iff.mp h
    obtain ⟨_, timestamp, _, _, _, _, _, hfresh, hheaders⟩ := authenticateCallback_eq_ok.mp hauth
    exact ⟨timestamp, by rw [hheaders]; rfl, hfresh⟩
  unused_of_accepted h hlive := by
    obtain ⟨_, _, hfree⟩ := callbackPasses_iff.mp h
    rw [hfree] at hlive
    cases hlive
  live_of_accepted {nonces delivery now _} h _ hlt := by
    obtain ⟨verified, hauth, hfree⟩ := callbackPasses_iff.mp h
    rw [callbackKey_of_authenticate hauth] at hfree ⊢
    dsimp only
    rw [guardCallback_of_ok hauth]
    refine ExpiringStore.get_setNX_of_absent ?_ hlt
    rw [ExpiringStore.setNX_snd, hfree]
    rfl
  live_deliver {nonces delivery now _ _} hlive hle := by
    cases hauth : authenticateCallback skewSeconds ⌊now⌋ delivery with
    | error exc =>
      dsimp only
      rw [guardCallback_of_error hauth]
      exact hlive
    | ok verified =>
      dsimp only
      rw [guardCallback_of_ok hauth]
      exact ExpiringStore.get_setNX_of_live hlive hle

/-- Callbacks with one timestamp are fresh for less than the lifetime of a nonce,
whatever the skew. The truncated clock gives up to one extra second, which the
third skew, or the minimum of one second, covers. -/
theorem fresh_before_nonce_expiry [IsStrictOrderedRing K] {skewSeconds : Int}
    {delivery delivery' : CallbackDelivery} {now now' : K}
    (htriple : callbackTriple delivery = callbackTriple delivery')
    (hfresh : CallbackFreshAt skewSeconds delivery now)
    (hfresh' : CallbackFreshAt skewSeconds delivery' now') :
    now' < now + (max 1 (callbackNonceTtlSeconds skewSeconds) : Int) := by
  obtain ⟨timestamp, hts, hle⟩ := hfresh
  obtain ⟨timestamp', hts', hle'⟩ := hfresh'
  have hsame : timestamp = timestamp' := by
    have := (Prod.mk.inj (Prod.mk.inj htriple).2).1
    rw [hts, hts'] at this
    exact Option.some.inj this
  subst hsame
  have hwindow : ⌊now'⌋ + 1 ≤ ⌊now⌋ + max 1 (callbackNonceTtlSeconds skewSeconds) := by
    have h := abs_le.mp hle
    have h' := abs_le.mp hle'
    rw [callbackNonceTtlSeconds]
    omega
  calc now' < ((⌊now'⌋ + 1 : Int) : K) := by
        push_cast
        exact Int.lt_floor_add_one now'
    _ ≤ ((⌊now⌋ + max 1 (callbackNonceTtlSeconds skewSeconds) : Int) : K) := Int.cast_le.mpr hwindow
    _ = (⌊now⌋ : K) + (max 1 (callbackNonceTtlSeconds skewSeconds) : Int) := Int.cast_add _ _
    _ ≤ now + (max 1 (callbackNonceTtlSeconds skewSeconds) : Int) := by
        have := Int.floor_le now
        linarith

/-- The deliveries that pass both checks. -/
def passingCallbacks (skewSeconds : Int) (nonces : CallbackNonces K)
    (deliveries : List (CallbackDelivery × K)) : List (CallbackDelivery × K) :=
  (callbackGuard K skewSeconds).accepted nonces deliveries

/-- At the callback boundary an executor, timestamp and nonce pass the signature
check and the replay check at most once, in every order and repetition of
deliveries, for every skew and whatever the executor rows are at each of them. -/
theorem callback_passes_once [IsStrictOrderedRing K] (skewSeconds : Int)
    (nonces : CallbackNonces K) (deliveries : List (CallbackDelivery × K))
    (horder : ReplayGuard.InOrder deliveries) :
    ((passingCallbacks skewSeconds nonces deliveries).map fun d => callbackTriple d.1).Nodup := by
  refine (callbackGuard K skewSeconds).accepted_nodup callbackTriple horder ?_ ?_
  · intro delivery delivery' htriple
    obtain ⟨hid, hrest⟩ := Prod.mk.inj htriple
    obtain ⟨_, hnonce⟩ := Prod.mk.inj hrest
    change callbackKey delivery = callbackKey delivery'
    rw [callbackKey, callbackKey, show delivery.request.headers.executorId = _ from hid,
      show delivery.request.headers.nonce = _ from hnonce]
  · intro d hd delivery' now' htriple hfresh
    exact fresh_before_nonce_expiry htriple
      ((callbackGuard K skewSeconds).fresh_of_mem_accepted hd) hfresh

def exExecutor : LookupExecutor :=
  ⟨⟨7⟩, "https://executor.test", .https, .active, .healthy, false, 2, ⟨"secret"⟩, 1, none, none,
    some 0, some 0, some 0, none⟩

def exCallback : CallbackDelivery :=
  let path := "/api/v1/integrations/executor-callback"
  let keys := deriveProtocolKeys "secret"
  let body := (encryptPayload (LookupCallbackEnvelope.modelDump
    ⟨⟨1⟩, ⟨2⟩, ⟨.notFound, none, none, none, none, none, none⟩⟩) keys.encryption 1).modelDump
  ⟨⟨.post, path, signedHeaders signRequest .post path ⟨7⟩ 1 1000 "n" body keys.signing, body⟩,
    none, none, fun id => if id = ⟨7⟩ then some exExecutor else none⟩

/-- Dated 60 s ahead of the clock and replayed when it is about to become stale,
the callback passes once. -/
theorem future_dated_callback_passes_once :
    callbackPasses 60 ExpiringStore.empty exCallback (940 : ℚ) = true ∧
      ((passingCallbacks 60 ExpiringStore.empty
        [(exCallback, (940 : ℚ)), (exCallback, 1060 + 1 / 2)]).map fun d =>
          callbackTriple d.1).Nodup := by
  refine ⟨by decide +kernel, callback_passes_once 60 _ _ ?_⟩
  norm_num [ReplayGuard.InOrder]

end Trackpal.Backend
