import Trackpal.Foundation.Runs
import Trackpal.Worker.Executor

/-!
# Replays at the worker

`_verify_and_decrypt` accepts a signed request while its timestamp is within
60 s of the clock, on both sides, and remembers its nonce for 60 s from its
first use. The clock is read twice for it, and a request may be fresh at the
first reading when its nonce is forgotten at the second.
-/

namespace Trackpal.Worker

open Trackpal.Protocol Trackpal.Foundation

/-- A replay cache with the parameters of `create_app`. -/
structure WorkerCache where
  cache : NonceCache
  ttlSeconds_eq : cache.ttlSeconds = nonceTtlSeconds
  maxEntries_eq : cache.maxEntries = nonceMaxEntries

def WorkerCache.new : WorkerCache := ⟨newNonceCache, rfl, rfl⟩

/-- The timestamp, nonce and signature of a request. -/
def triple (request : Request) : Option Int × Option String × Option Signature :=
  (request.headers.timestamp, request.headers.nonce, request.headers.signature)

structure Delivery where
  request : Request
  clock : ClockReadings
deriving DecidableEq

/-- The replay cache of a process. The accepted deliveries, the last one first, and the last reading
of the clock belong to no variable of the source. -/
structure Deliveries where
  worker : WorkerCache
  accepted : List Delivery
  now : Int

namespace Deliveries

def initial (start : Int) : Deliveries := ⟨.new, [], start⟩

/-- No triple was accepted twice. -/
def Once (s : Deliveries) : Prop := (s.accepted.map (triple ·.request)).Nodup

def knows (s : Deliveries) (request : Request) : Bool :=
  s.accepted.any fun earlier => triple earlier.request = triple request

/-- Each acceptance under the nonce is at least as old as the lifetime of an entry. -/
def forgot (s : Deliveries) (nonce : String) (now : Int) : Bool :=
  s.accepted.all fun earlier => earlier.request.headers.nonce ≠ some nonce ||
    earlier.clock.consumed + nonceTtlSeconds ≤ now

/-- An accepted request is authentic at the first reading of the clock, and its nonce has run out at
the second. -/
def replays (settings : ExecutorSettings) (s : Deliveries) (delivery : Delivery) : Bool :=
  match authenticate settings delivery.clock.tested delivery.request with
  | .ok nonce => s.knows delivery.request && s.forgot nonce delivery.clock.consumed
  | .error _ => false

end Deliveries

namespace ReplayLemmas

variable {settings : ExecutorSettings} {cache : NonceCache} {clock : ClockReadings} {now : Int}
  {request : Request} {nonce : String}

theorem verifyAndDecrypt_parameters :
    (verifyAndDecrypt settings cache clock request).1.ttlSeconds = cache.ttlSeconds ∧
      (verifyAndDecrypt settings cache clock request).1.maxEntries = cache.maxEntries := by
  rcases verifyAndDecrypt_cases settings cache clock request with
    ⟨_, _, h⟩ | ⟨_, _, _, h⟩ | ⟨_, _, _, h⟩ <;>
    rw [h] <;> simp

theorem nonce_of_authenticate (h : authenticate settings now request = .ok nonce) :
    request.headers.nonce = some nonce := by
  obtain ⟨timestamp, _, hheaders⟩ := authenticate_eq_ok.mp h
  rw [hheaders]
  rfl

end ReplayLemmas

open ReplayLemmas

/-- Deliver a request, at readings of the clock that do not go back. -/
def deliver (settings : ExecutorSettings) (s : Deliveries) (delivery : Delivery) :
    Option Deliveries :=
  let cache := s.worker.cache
  if s.now ≤ delivery.clock.tested then
    some
      { worker := ⟨(verifyAndDecrypt settings cache delivery.clock delivery.request).1,
          verifyAndDecrypt_parameters.1.trans s.worker.ttlSeconds_eq,
          verifyAndDecrypt_parameters.2.trans s.worker.maxEntries_eq⟩
        accepted :=
          if Accepted (verifyAndDecrypt settings cache delivery.clock delivery.request).2 then
            delivery :: s.accepted
          else s.accepted
        now := delivery.clock.consumed }
  else none

/-- From now on the cache remembers the nonces that were accepted within their lifetime. -/
structure Remembers (s : Deliveries) : Prop where
  live : ∀ nonce now, s.now ≤ now → (s.worker.cache.Live nonce now ↔ s.forgot nonce now = false)
  once : s.Once

namespace ReplayLemmas

variable {settings : ExecutorSettings} {s s' : Deliveries} {delivery : Delivery} {nonce : String}
  {now : Int}

theorem forgot_eq_false : s.forgot nonce now = false ↔
    ∃ earlier ∈ s.accepted, earlier.request.headers.nonce = some nonce ∧
      now < earlier.clock.consumed + nonceTtlSeconds := by
  simp [Deliveries.forgot, List.all_eq_false]

/-- What a delivery makes of the state: it is refused, and nothing is remembered, or it is accepted
under a nonce that was free. -/
theorem deliver_cases (h : deliver settings s delivery = some s') : s.now ≤ delivery.clock.tested ∧
    s'.now = delivery.clock.consumed ∧
    ((s'.accepted = s.accepted ∧
        (∀ nonce now, delivery.clock.consumed ≤ now →
          (s'.worker.cache.Live nonce now ↔ s.worker.cache.Live nonce now)) ∧
        ∀ nonce, authenticate settings delivery.clock.tested delivery.request = .ok nonce →
          (s.worker.cache.consume nonce delivery.clock.consumed).2 = false) ∨
      ∃ nonce, authenticate settings delivery.clock.tested delivery.request = .ok nonce ∧
        (s.worker.cache.consume nonce delivery.clock.consumed).2 = true ∧
        s'.accepted = delivery :: s.accepted ∧
        s'.worker.cache = (s.worker.cache.consume nonce delivery.clock.consumed).1) := by
  obtain ⟨hnow, hs'⟩ := Option.ite_none_right_eq_some.mp h
  rw [← Option.some.inj hs']
  refine ⟨hnow, rfl, ?_⟩
  dsimp only
  rcases verifyAndDecrypt_cases settings s.worker.cache delivery.clock delivery.request with
    ⟨exc, hauth, hv⟩ | ⟨nonce, hauth, hfalse, hv⟩ | ⟨nonce, hauth, htrue, hv⟩
  · left
    rw [hv, if_neg (by simp [Accepted, authenticate_error hauth])]
    exact ⟨rfl, fun _ _ _ => Iff.rfl, fun nonce hok => by rw [hauth] at hok; cases hok⟩
  · left
    rw [hv, if_neg (by simp [Accepted])]
    refine ⟨rfl, fun nonce' now hle => ?_, fun nonce' hok => ?_⟩
    · rw [NonceCache.live_consume_iff hle, hfalse]
      simp
    · rw [hauth] at hok
      cases hok
      exact hfalse
  · right
    rw [hv, if_pos (accepted_decryptBody _ _)]
    exact ⟨nonce, hauth, htrue, rfl, rfl⟩

theorem once_of_accepted (h : s.Once) (haccepted : s'.accepted = delivery :: s.accepted) :
    s'.Once ↔ s.knows delivery.request = false := by
  unfold Deliveries.Once at h ⊢
  rw [haccepted, List.map_cons, List.nodup_cons, and_iff_left h]
  simp [Deliveries.knows, List.any_eq_false]

theorem live_step (h : Remembers s) (hstep : deliver settings s delivery = some s') :
    ∀ nonce now, s'.now ≤ now → (s'.worker.cache.Live nonce now ↔ s'.forgot nonce now = false) := by
  intro nonce now hle
  obtain ⟨hnow, hnow', hcases⟩ := deliver_cases hstep
  rw [hnow'] at hle
  have hbefore := h.live nonce now (hnow.trans (delivery.clock.tested_le.trans hle))
  rcases hcases with ⟨haccepted, hlive, -⟩ | ⟨nonce', hauth, htrue, haccepted, hcache⟩
  · rw [hlive nonce now hle, hbefore, forgot_eq_false, forgot_eq_false, haccepted]
  · rw [hcache, NonceCache.live_consume_iff hle, htrue, hbefore, forgot_eq_false, forgot_eq_false,
      haccepted, List.exists_mem_cons_iff, nonce_of_authenticate hauth, s.worker.ttlSeconds_eq]
    simp only [true_and, Option.some.injEq]
    exact or_comm.trans (or_congr (and_congr_left' eq_comm) Iff.rfl)

theorem remembers_step (h : Remembers s) (hok : s.replays settings delivery = false)
    (hstep : deliver settings s delivery = some s') : Remembers s' := by
  refine ⟨live_step h hstep, ?_⟩
  obtain ⟨hnow, -, ⟨haccepted, -⟩ | ⟨nonce, hauth, htrue, haccepted, -⟩⟩ := deliver_cases hstep
  · unfold Deliveries.Once
    rw [haccepted]
    exact h.once
  · refine (once_of_accepted h.once haccepted).mpr ?_
    have hfree := (NonceCache.consume_eq_true_iff.mp htrue).1
    rw [h.live nonce _ (hnow.trans delivery.clock.tested_le), Bool.not_eq_false] at hfree
    unfold Deliveries.replays at hok
    rw [hauth] at hok
    dsimp only at hok
    rwa [hfree, Bool.and_true] at hok

theorem remembers_of_reaches {start : Int}
    (h : Reaches (deliver settings) (fun s d => s.replays settings d = false) (.initial start) s) :
    Remembers s := by
  refine h.invariant ⟨fun nonce now _ => iff_of_false ?_ (Bool.noConfusion ·), List.nodup_nil⟩
    fun _ _ _ hs hok hstep => remembers_step hs hok hstep
  rintro ⟨expiry, hmem, -⟩
  cases hmem

end ReplayLemmas

/-- **Replays.** In every run without a replay that outlives its nonce, no timestamp, nonce and
signature are accepted twice. For the next delivery an accepted request that is authentic finds its
nonce in the cache unless it is such a replay, and while the cache has room such a replay is
accepted. -/
theorem replay_refused_iff (settings : ExecutorSettings) (start : Int) (s : Deliveries)
    (h : Reaches (deliver settings) (fun s d => s.replays settings d = false) (.initial start) s) :
    s.Once ∧ ∀ delivery s', deliver settings s delivery = some s' →
      ((∀ nonce, authenticate settings delivery.clock.tested delivery.request = .ok nonce →
          s.knows delivery.request = true → s.worker.cache.Live nonce delivery.clock.consumed) ↔
        s.replays settings delivery = false) ∧
      ((s.worker.cache.liveEntries delivery.clock.consumed).length < nonceMaxEntries →
        (s'.Once ↔ s.replays settings delivery = false)) := by
  have hs := remembers_of_reaches h
  refine ⟨hs.once, fun delivery s' hstep => ?_⟩
  obtain ⟨hnow, -, hcases⟩ := deliver_cases hstep
  have hlive (nonce : String) := hs.live nonce _ (hnow.trans delivery.clock.tested_le)
  refine ⟨?_, fun hroom => ⟨fun honce => ?_, fun hok => (remembers_step hs hok hstep).once⟩⟩
  · unfold Deliveries.replays
    cases authenticate settings delivery.clock.tested delivery.request with
    | error exc => exact iff_of_true (fun _ hok => nomatch hok) rfl
    | ok nonce =>
      simp only [Except.ok.injEq, forall_eq', hlive, Bool.and_eq_false_imp]
  · unfold Deliveries.replays
    cases hauth : authenticate settings delivery.clock.tested delivery.request with
    | error exc => rfl
    | ok nonce =>
      rw [Bool.and_eq_false_imp]
      intro hknows
      rcases hcases with ⟨-, -, hrefused⟩ | ⟨_, -, -, haccepted, -⟩
      · rw [← hlive nonce]
        by_contra hfree
        have htrue := NonceCache.consume_eq_true_iff.mpr
          ⟨hfree, hroom.trans_eq s.worker.maxEntries_eq.symm⟩
        rw [hrefused nonce hauth] at htrue
        cases htrue
      · rw [(once_of_accepted hs.once haccepted).mp honce] at hknows
        cases hknows

/-! ## A replay one TTL later -/

def exSettings : ExecutorSettings := ⟨⟨7⟩, "secret", 2, Nat.two_pos⟩

def exRequest (nonce : String) : Request :=
  let body := (encryptPayload (.ofList [("challenge", .str "c")]) exSettings.keys.encryption
    1).modelDump
  ⟨.post, challengePath, signedHeaders signRequest .post challengePath exSettings.executorId
    keyVersion 1000 nonce body exSettings.keys.signing, body⟩

/-- The challenge is accepted in the second it was signed in, and once more when
its nonce has just been forgotten and its timestamp is still within the skew. -/
theorem replayed_at_ttl : ¬ ∀ (settings : ExecutorSettings) (start : Int) (s : Deliveries),
    Reaches (deliver settings) Always (.initial start) s → s.Once := by
  intro h
  have hexec : (exec (deliver exSettings) (.initial 1000)
      [⟨exRequest "n", .at 1000⟩, ⟨exRequest "n", .at 1060⟩]).any (fun s : Deliveries =>
        s.accepted = [⟨exRequest "n", .at 1060⟩, ⟨exRequest "n", .at 1000⟩]) = true := by
    decide
  obtain ⟨s, hs, haccepted⟩ := (Option.any_eq_true _ _).mp hexec
  have honce := h exSettings 1000 s (reaches_of_exec hs)
  unfold Deliveries.Once at honce
  rw [of_decide_eq_true haccepted] at honce
  simp at honce

/-- The last fresh second begins before the second reading of the clock. -/
def exLate : Delivery := ⟨exRequest "n", ⟨1060, 1061, by decide⟩⟩

/-- Delivered a second after it was signed, the challenge is accepted once, and refused while its
nonce is remembered. The replay that is read late is accepted. -/
theorem replayed_between_readings : ∃ s refused replayed,
    s.accepted = [⟨exRequest "m", .at 1002⟩, ⟨exRequest "n", .at 1001⟩] ∧ s.Once ∧
    deliver exSettings s ⟨exRequest "n", .at 1061⟩ = some refused ∧ refused.Once ∧
    deliver exSettings s exLate = some replayed ∧ ¬replayed.Once := by
  have hexec : (execWhere (deliver exSettings) (fun s d => !s.replays exSettings d) (.initial 1000)
      [⟨exRequest "n", .at 1001⟩, ⟨exRequest "m", .at 1002⟩, ⟨exRequest "n", .at 1060⟩]).any
        (fun s : Deliveries =>
          s.accepted = [⟨exRequest "m", .at 1002⟩, ⟨exRequest "n", .at 1001⟩] ∧ s.now = 1060 ∧
          s.replays exSettings ⟨exRequest "n", .at 1061⟩ = false ∧
          s.replays exSettings exLate = true ∧
          (s.worker.cache.liveEntries 1061).length < nonceMaxEntries) = true := by
    decide
  obtain ⟨s, hreach, hs⟩ := exists_of_execWhere hexec
  obtain ⟨haccepted, hnow, hrefused, hlate, hroom⟩ := of_decide_eq_true hs
  have hreach : Reaches (deliver exSettings) (fun s d => s.replays exSettings d = false)
      (.initial 1000) s := hreach.mono fun _ _ hok => by simpa using hok
  obtain ⟨honce, hnext⟩ := replay_refused_iff exSettings 1000 s hreach
  have hstep (delivery : Delivery) (hle : 1060 ≤ delivery.clock.tested) :
      deliver exSettings s delivery = some _ := if_pos (hnow ▸ hle)
  refine ⟨s, _, _, haccepted, honce, hstep _ (by decide),
    ((hnext _ _ (hstep _ (by decide))).2 hroom).mpr hrefused, hstep exLate (by decide),
    fun hkept => ?_⟩
  rw [((hnext _ _ (hstep exLate (by decide))).2 hroom).mp hkept] at hlate
  cases hlate

end Trackpal.Worker
