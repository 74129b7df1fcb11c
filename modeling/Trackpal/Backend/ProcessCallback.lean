import Trackpal.Backend.Callbacks
import Trackpal.Coordinator.Complete

/-!
# The callback handler

`_process_callback` from the headers to `complete`, with the faults that the
handler itself can meet. The nonce is consumed before the body is decrypted and
before `complete` is called.

Results:
1. `nonces_processCallback`: when a delivery uses its nonce up.
2. `processCallback_of_free`, `not_applied_of_used`: a delivery goes to `complete`
   with a free nonce, and only then.
-/

namespace Trackpal.Backend

open Trackpal.Protocol Trackpal.Registry Trackpal.Foundation Trackpal.Coordinator CallbackLemmas

/-- What fails while a callback is handled. -/
inductive Fault where
  /-- `get_lookup_execution_coordinator` raises. -/
  | coordinator
  /-- `consume_callback_nonce` raises; Redis may have stored the nonce all the same. -/
  | redis (stored : Bool)
  /-- `complete` raises before its commit. -/
  | complete
deriving DecidableEq, Repr

/-- What `complete` finds, and the answer of the delivery log. -/
structure JobView where
  job : UUID → Option MailLookupJob
  lease : UUID → Option LookupLease
  inserted : Bool
  checkedAt : Int
  settledAt : Int

/-- The handler after the nonce check. It answers 200 with the acknowledgement of
`complete`; an exception of `complete` is a response 500. -/
def completeDelivery (settings : Settings) (fault : Option Fault) (delivery : CallbackDelivery)
    (verified : VerifiedHeaders) (view : JobView) : Except HTTPException CallbackResult :=
  match ((EncryptedBody.modelValidate delivery.request.body).bind
      (decryptPayload · verified.keys.encryption)).bind LookupCallbackEnvelope.modelValidate with
  | none => .error ⟨422, "invalid encrypted callback body"⟩
  | some envelope =>
    if delivery.pathJobId.any (· ≠ envelope.jobId) then
      .error ⟨401, "invalid callback identity"⟩
    else if fault = some .complete then .error ⟨500, "Internal Server Error"⟩
    else
      .ok (complete settings (view.job envelope.jobId) (view.lease envelope.jobId)
        ⟨verified.executorId, envelope.leaseId, envelope.outcome⟩ view.inserted view.checkedAt
        view.settledAt)

variable {K : Type*} [Field K] [LinearOrder K] [FloorRing K]

def processCallback (skewSeconds : Int) (settings : Settings) (fault : Option Fault)
    (nonces : CallbackNonces K) (delivery : CallbackDelivery) (now : K) (view : JobView) :
    CallbackNonces K × Except HTTPException CallbackResult :=
  match authenticateCallback skewSeconds ⌊now⌋ delivery with
  | .error exc => (nonces, .error exc)
  | .ok _ =>
    match fault with
    | some .coordinator => (nonces, .error ⟨503, "callback coordination unavailable"⟩)
    | some (.redis stored) =>
      (if stored then (guardCallback skewSeconds nonces delivery now).1 else nonces,
        .error ⟨503, "callback coordination unavailable"⟩)
    | _ =>
      match guardCallback skewSeconds nonces delivery now with
      | (nonces, .error exc) => (nonces, .error exc)
      | (nonces, .ok verified) => (nonces, completeDelivery settings fault delivery verified view)

/-- The handler got `complete` to apply the outcome. -/
def outcomeApplied : Except HTTPException CallbackResult → Bool
  | .ok result => result.isApplied
  | .error _ => false

def Fault.reachesRedis : Option Fault → Bool
  | some .coordinator | some (.redis false) => false
  | _ => true

variable {skewSeconds : Int} {settings : Settings} {fault : Option Fault}
  {nonces : CallbackNonces K} {delivery : CallbackDelivery} {now : K} {view : JobView}
  {verified : VerifiedHeaders}

theorem nonces_processCallback :
    (processCallback skewSeconds settings fault nonces delivery now view).1 =
      if Fault.reachesRedis fault then (guardCallback skewSeconds nonces delivery now).1
      else nonces := by
  unfold processCallback
  cases hauth : authenticateCallback skewSeconds ⌊now⌋ delivery with
  | error exc => simp [guardCallback_of_error hauth]
  | ok verified =>
    have hrest : (match guardCallback skewSeconds nonces delivery now with
        | (nonces, .error exc) => (nonces, Except.error exc)
        | (nonces, .ok verified) =>
          (nonces, completeDelivery settings fault delivery verified view)).1 =
        (guardCallback skewSeconds nonces delivery now).1 := by
      rcases guardCallback skewSeconds nonces delivery now with ⟨nonces', exc | verified'⟩ <;> rfl
    match fault with
    | none => exact hrest
    | some .coordinator => rfl
    | some (.redis false) => rfl
    | some (.redis true) => rfl
    | some .complete => exact hrest

theorem processCallback_of_free
    (hauth : authenticateCallback skewSeconds ⌊now⌋ delivery = .ok verified)
    (hfree : nonces.get now (verified.executorId, verified.nonce) = none) :
    (processCallback skewSeconds settings none nonces delivery now view).2 =
      completeDelivery settings none delivery verified view := by
  have hok := guardCallback_eq_ok.mpr ⟨hauth, hfree⟩
  unfold processCallback
  rw [hauth]
  dsimp only
  split
  · next heq =>
    rw [heq] at hok
    cases hok
  · next heq =>
    rw [heq] at hok
    cases hok
    rfl

theorem not_applied_of_used
    (hauth : authenticateCallback skewSeconds ⌊now⌋ delivery = .ok verified)
    (hused : nonces.get now (verified.executorId, verified.nonce) = some ()) :
    outcomeApplied (processCallback skewSeconds settings none nonces delivery now view).2 =
      false := by
  unfold processCallback
  rw [hauth]
  dsimp only
  split
  · rfl
  · next nonces' verified' heq =>
    have hok : (guardCallback skewSeconds nonces delivery now).2 = .ok verified' := by rw [heq]
    obtain ⟨hauth', hfree⟩ := guardCallback_eq_ok.mp hok
    rw [hauth] at hauth'
    cases hauth'
    rw [hused] at hfree
    cases hfree

theorem not_applied_of_error {exc : HTTPException}
    (hauth : authenticateCallback skewSeconds ⌊now⌋ delivery = .error exc) :
    outcomeApplied (processCallback skewSeconds settings fault nonces delivery now view).2 =
      false := by
  unfold processCallback
  rw [hauth]
  rfl

end Trackpal.Backend
