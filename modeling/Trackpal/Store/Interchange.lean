import Trackpal.Store.FakeStore
import Trackpal.Store.LeaseBookkeeping
import Mathlib.Algebra.Order.Floor.Semiring
import Mathlib.Data.Rat.Floor

/-!
# Where the two stores answer alike

The in-memory store stands in for Redis in the tests and in local runs. They hold
their entries differently: Redis drops a key when its TTL has run out and counts
the members of a sorted set, the dictionaries drop an expired entry when a call
finds it and count the leases themselves.

They part in two places. Redis gives a lease key a TTL in whole seconds, so the key
outlives its lease and refuses the next reservation, which the dictionary grants.
And only Redis raises a timeout of the dispatch lock to one second.

Results:
1. `replies_ne_of_parts`: where they part, the answers differ.
2. `replies_eq_iff`.
-/

namespace Trackpal.Store

open Trackpal.Protocol Trackpal.Foundation

variable {K : Type*}

/-- The answers to a sequence of calls, each at its own time. -/
def replies {σ : Type*} (exec : σ → K → Operation K → σ × Reply K) (s : σ) :
    List (K × Operation K) → List (Reply K)
  | [] => []
  | (now, op) :: calls => (exec s now op).2 :: replies exec (exec s now op).1 calls

variable [LinearOrder K]

/-- A call on which the stores part: a reservation that finds the key of a lease that
has expired, or with a lock timeout that is not positive, an attempt at a held lock. -/
def Parts (handoffTimeout : Int) (s : RedisStore K) (now : K) : Operation K → Prop
  | .reserveLease jobId _ _ expiresAt =>
    now < expiresAt ∧ (s.leases.leases.get now jobId).any (·.expiresAt ≤ now) = true
  | .acquireDispatchLock jobId =>
    handoffTimeout ≤ 0 ∧ (s.dispatchLocks.get now jobId).isSome = true
  | _ => False

/-- From `now` on, no call but those of `Parts` tells the stores apart. -/
structure Simulates (handoffTimeout : Int) (now : K) (redis : RedisStore K) (fake : FakeStore K) :
    Prop where
  queue : redis.queue = fake.queue
  locks : 0 < handoffTimeout → redis.dispatchLocks.SameReads now fake.dispatchLocks
  /-- Without a positive timeout the dictionary never holds a lock. -/
  unlocked : handoffTimeout ≤ 0 → ∀ t, now ≤ t → ∀ job, fake.dispatchLocks.get t job = none
  leases : ∀ t, now ≤ t → ∀ job,
    redis.leases.getLease t job = (fake.leases.get job).filter fun lease => t < lease.expiresAt
  exact : LeasesExact now redis.leases
  nonces : redis.callbackNonces.SameReads now fake.nonces
  results : redis.results.SameReads now fake.results
  resumeUrls : redis.resumeUrls.SameReads now fake.resumeUrls
  cooldowns : redis.cooldowns.SameReads now fake.cooldowns

namespace Simulates

variable {handoffTimeout : Int} {now now' : K} {redis : RedisStore K} {fake : FakeStore K}
  {job executor leaseId : UUID}

theorem empty : Simulates handoffTimeout now .empty .empty where
  queue := rfl
  locks _ _ _ _ := rfl
  unlocked _ _ _ _ := rfl
  leases _ _ _ := rfl
  exact := .empty
  nonces _ _ _ := rfl
  results _ _ _ := rfl
  resumeUrls _ _ _ := rfl
  cooldowns _ _ _ := rfl

theorem mono (h : Simulates handoffTimeout now redis fake) (hle : now ≤ now') :
    Simulates handoffTimeout now' redis fake where
  queue := h.queue
  locks hpos := (h.locks hpos).mono hle
  unlocked hpos t ht := h.unlocked hpos t (hle.trans ht)
  leases t ht := h.leases t (hle.trans ht)
  exact := h.exact.mono hle
  nonces := h.nonces.mono hle
  results := h.results.mono hle
  resumeUrls := h.resumeUrls.mono hle
  cooldowns := h.cooldowns.mono hle

/-! ## Leases -/

theorem any_unexpired (h : Simulates handoffTimeout now redis fake) :
    ((fake.leases.get job).any fun lease => now < lease.expiresAt) =
      (redis.leases.getLease now job).isSome := by
  rw [h.leases now le_rfl job]
  cases fake.leases.get job with
  | none => rfl
  | some lease =>
    by_cases hlt : now < lease.expiresAt
    · simp [Option.filter, hlt]
    · simp [Option.filter, hlt]

/-- Where no key outlives its lease, the script grants a reservation exactly if the
dictionary does. -/
theorem isSome_key (h : Simulates handoffTimeout now redis fake)
    (hexpired : (redis.leases.leases.get now job).any (·.expiresAt ≤ now) = false) :
    (redis.leases.leases.get now job).isSome =
      (fake.leases.get job).any fun lease => now < lease.expiresAt := by
  rw [h.any_unexpired, RedisLeases.getLease]
  cases hkey : redis.leases.leases.get now job with
  | none => rfl
  | some lease =>
    rw [hkey] at hexpired
    have hlt : now < lease.expiresAt := by simpa using hexpired
    simp [Option.filter, hlt]

theorem releaseLease (h : Simulates handoffTimeout now redis fake) :
    Simulates handoffTimeout now { redis with leases := redis.leases.releaseLease now job }
      { fake with leases := fake.leases.erase job } :=
  { h with
    leases t ht job' := by
      show (redis.leases.releaseLease now job).getLease t job' = _
      rw [RedisLeases.getLease_releaseLease ht]
      split
      · next hjob =>
        rw [hjob, FiniteMap.get_erase_self]
        rfl
      · next hjob =>
        rw [FiniteMap.get_erase_of_ne hjob]
        exact h.leases t ht job'
    exact := h.exact.releaseLease }

theorem getLease (h : Simulates handoffTimeout now redis fake) :
    redis.leases.getLease now job = (fake.getLease now job).2 ∧
      Simulates handoffTimeout now redis (fake.getLease now job).1 := by
  rw [h.leases now le_rfl job]
  unfold FakeStore.getLease
  split
  · next hnone =>
    rw [hnone]
    exact ⟨rfl, h⟩
  next lease hsome =>
  rw [hsome]
  split
  · next hexpired =>
    refine ⟨by simp [Option.filter, not_lt.mpr hexpired], { h with leases := ?_ }⟩
    intro t ht job'
    rcases eq_or_ne job' job with rfl | hne
    · have hlt : ¬t < lease.expiresAt := not_lt.mpr (hexpired.trans ht)
      rw [h.leases t ht, hsome, FiniteMap.get_erase_self]
      simp [Option.filter, hlt]
    · rw [FiniteMap.get_erase_of_ne hne]
      exact h.leases t ht job'
  · next hlive => exact ⟨by simp [Option.filter, not_le.mp hlive], h⟩

theorem activeCount (h : Simulates handoffTimeout now redis fake) :
    (redis.leases.activeCount now executor).2 = (fake.activeCount now executor).2 ∧
      Simulates handoffTimeout now
        { redis with leases := (redis.leases.activeCount now executor).1 }
        (fake.activeCount now executor).1 := by
  constructor
  · have hjobs : readableJobs redis.leases now executor =
        {job | ∃ lease, (fake.unexpired now).get job = some lease ∧
          decide (lease.executorId = executor) = true} := by
      ext job
      simp only [readableJobs, Set.mem_ofPred_eq, h.leases now le_rfl job, decide_eq_true_eq]
      rfl
    have hredis := @LeasesExact.activeCount_eq _ _ _ _ _ executor h.exact le_rfl
    rw [hjobs, FiniteMap.size_keep] at hredis
    exact (Nat.cast_inj.mp hredis).symm
  · refine { h with leases := ?_, exact := h.exact.activeCount }
    intro t ht job
    show redis.leases.getLease t job = (((fake.leases.keep _).get job).filter _)
    rw [h.leases t ht job, FiniteMap.get_keep]
    cases fake.leases.get job with
    | none => rfl
    | some lease =>
      by_cases hlt : t < lease.expiresAt
      · simp [Option.filter, hlt, lt_of_le_of_lt ht hlt]
      · by_cases hnow : now < lease.expiresAt
        · simp [Option.filter, hlt, hnow]
        · simp [Option.filter, hlt, hnow]

end Simulates

variable [Field K] [FloorRing K]

def NeverParts (handoffTimeout : Int) (s : RedisStore K) : List (K × Operation K) → Prop
  | [] => True
  | (now, op) :: calls =>
    ¬Parts handoffTimeout s now op ∧
      NeverParts handoffTimeout (s.exec handoffTimeout now op).1 calls


variable [IsStrictOrderedRing K] {handoffTimeout : Int} {now now' : K} {redis : RedisStore K}
  {fake : FakeStore K} {op : Operation K}

namespace Simulates

theorem reserveLease {job executor leaseId : UUID} {expiresAt : K}
    (h : Simulates handoffTimeout now redis fake)
    (hparts : ¬Parts handoffTimeout redis now (.reserveLease job executor leaseId expiresAt)) :
    (redis.leases.reserveLease now job executor leaseId expiresAt 0).2 =
        (fake.reserveLease now job executor leaseId expiresAt).2 ∧
      Simulates handoffTimeout now
        { redis with
          leases := (redis.leases.reserveLease now job executor leaseId expiresAt 0).1 }
        (fake.reserveLease now job executor leaseId expiresAt).1 := by
  have hexact :
      LeasesExact now (redis.leases.reserveLease now job executor leaseId expiresAt 0).1 :=
    h.exact.reserveLease le_rfl
  unfold RedisLeases.reserveLease at hexact ⊢
  unfold FakeStore.reserveLease
  split
  · exact ⟨rfl, h⟩
  next hle =>
  have hexpired : (redis.leases.leases.get now job).any (·.expiresAt ≤ now) = false := by
    simpa [Parts, not_le.mp hle] using hparts
  rw [if_neg hle] at hexact
  rw [h.isSome_key hexpired] at hexact ⊢
  split
  · exact ⟨rfl, h⟩
  next hgranted =>
  rw [if_neg hgranted] at hexact
  refine ⟨rfl, { h with leases := ?_, exact := hexact }⟩
  intro t ht job'
  show (redis.leases.record _ _).getLease t job' = _
  have hlive := LeasesExact.le_ttlUntil now expiresAt
  rw [RedisLeases.getLease_record (by show expiresAt ≤ _; linarith)]
  split
  · next hjob =>
    rw [hjob, FiniteMap.get_put_self]
  · next hjob =>
    rw [FiniteMap.get_put_of_ne hjob]
    exact h.leases t ht job'

omit [FloorRing K] in
theorem acquireDispatchLock {job : UUID} (h : Simulates handoffTimeout now redis fake)
    (hparts : ¬Parts handoffTimeout redis now (.acquireDispatchLock job)) :
    (redis.dispatchLocks.setNX now job () (keyExpiry now handoffTimeout)).2 =
        (fake.dispatchLocks.setNX now job () (now + handoffTimeout)).2 ∧
      Simulates handoffTimeout now
        { redis with
          dispatchLocks := (redis.dispatchLocks.setNX now job () (keyExpiry now handoffTimeout)).1 }
        { fake with
          dispatchLocks := (fake.dispatchLocks.setNX now job () (now + handoffTimeout)).1 } := by
  rcases lt_or_ge 0 handoffTimeout with hpos | hnonpos
  · have hexpiry : keyExpiry now handoffTimeout = now + handoffTimeout := by
      unfold keyExpiry
      rw [max_eq_right hpos]
    rw [hexpiry]
    exact ⟨(h.locks hpos).setNX.1, { h with
      locks := fun _ => (h.locks hpos).setNX.2
      unlocked := fun hnonpos => absurd hpos (not_lt.mpr hnonpos) }⟩
  · have hfree : redis.dispatchLocks.get now job = none := by
      simpa [Parts, hnonpos] using hparts
    have hfake := h.unlocked hnonpos now le_rfl job
    constructor
    · rw [ExpiringStore.setNX_snd, ExpiringStore.setNX_snd, hfree, hfake]
    · refine { h with locks := fun hpos => absurd hpos (not_lt.mpr hnonpos), unlocked := ?_ }
      intro _ t ht job'
      have hcast : now + (handoffTimeout : K) ≤ now := by
        have hle : (handoffTimeout : K) ≤ 0 := by exact_mod_cast hnonpos
        linarith
      unfold ExpiringStore.setNX
      simp only [hfake, Option.isSome_none, Bool.false_eq_true, if_false]
      rcases eq_or_ne job' job with rfl | hne
      · rw [ExpiringStore.get_set_self, if_neg (not_lt.mpr (hcast.trans ht))]
      · rw [ExpiringStore.get_set_of_ne hne]
        exact h.unlocked hnonpos t ht job'

/-- Every other call is answered alike, and the stores stay alike. -/
theorem exec (h : Simulates handoffTimeout now redis fake)
    (hparts : ¬Parts handoffTimeout redis now op) :
    (redis.exec handoffTimeout now op).2 = (fake.exec handoffTimeout now op).2 ∧
      Simulates handoffTimeout now (redis.exec handoffTimeout now op).1
        (fake.exec handoffTimeout now op).1 := by
  cases op with
  | enqueue job =>
    simp only [RedisStore.exec, FakeStore.exec, h.queue]
    exact ⟨trivial, { h with queue := rfl }⟩
  | pop =>
    simp only [RedisStore.exec, FakeStore.exec, h.queue]
    exact ⟨trivial, { h with queue := rfl }⟩
  | hasQueuedJobs excluding =>
    refine ⟨congrArg Reply.bool ?_, h⟩
    rw [h.queue, FakeStore.hasQueuedJobs_eq]
  | acquireDispatchLock job =>
    obtain ⟨hreply, hstores⟩ := h.acquireDispatchLock hparts
    exact ⟨congrArg Reply.bool hreply, hstores⟩
  | releaseDispatchLock job =>
    refine ⟨rfl, { h with locks := fun hpos => (h.locks hpos).del, unlocked := ?_ }⟩
    intro hnonpos t ht job'
    show (fake.dispatchLocks.del job).get t job' = none
    rcases eq_or_ne job' job with rfl | hne
    · exact ExpiringStore.get_del_self
    · rw [ExpiringStore.get_del_of_ne hne]
      exact h.unlocked hnonpos t ht job'
  | reserveLease job executor leaseId expiresAt =>
    obtain ⟨hreply, hstores⟩ := h.reserveLease hparts
    exact ⟨congrArg Reply.bool hreply, hstores⟩
  | getLease job =>
    obtain ⟨hreply, hstores⟩ := @getLease _ _ _ _ _ _ job h
    exact ⟨congrArg Reply.lease hreply, hstores⟩
  | releaseLease job => exact ⟨rfl, h.releaseLease⟩
  | activeCount executor =>
    obtain ⟨hreply, hstores⟩ := @activeCount _ _ _ _ _ _ executor h
    exact ⟨congrArg Reply.count hreply, hstores⟩
  | consumeCallbackNonce executor nonce ttlSeconds =>
    obtain ⟨hreply, hreads⟩ := h.nonces.setNX (k := (executor, nonce)) (v := ())
    exact ⟨congrArg Reply.bool hreply, { h with nonces := hreads }⟩
  | putResult job resultType resultValue ttlSeconds =>
    exact ⟨rfl, { h with results := h.results.set }⟩
  | getResult job =>
    exact ⟨congrArg Reply.result (h.results now le_rfl job),
      { h with results := h.results.evict }⟩
  | putResumeUrl job resumeUrl ttlSeconds =>
    exact ⟨rfl, { h with resumeUrls := h.resumeUrls.set }⟩
  | getResumeUrl job =>
    exact ⟨congrArg Reply.url (h.resumeUrls now le_rfl job),
      { h with resumeUrls := h.resumeUrls.evict }⟩
  | deleteResumeUrl job => exact ⟨rfl, { h with resumeUrls := h.resumeUrls.del }⟩
  | setFailureCooldown executor ttlSeconds =>
    exact ⟨rfl, { h with cooldowns := h.cooldowns.set }⟩
  | isFailureCooldownActive executor =>
    refine ⟨congrArg Reply.bool ?_, { h with cooldowns := h.cooldowns.evict }⟩
    rw [h.cooldowns now le_rfl executor]
  | clearFailureCooldown executor => exact ⟨rfl, { h with cooldowns := h.cooldowns.del }⟩

end Simulates

omit [IsStrictOrderedRing K] in
theorem replies_ne_of_parts (h : Simulates handoffTimeout now redis fake)
    (hparts : Parts handoffTimeout redis now op) :
    (redis.exec handoffTimeout now op).2 ≠ (fake.exec handoffTimeout now op).2 := by
  cases op with
  | reserveLease job executor leaseId expiresAt =>
    obtain ⟨hlt, hexpired⟩ := hparts
    obtain ⟨lease, hkey, hle⟩ := (Option.any_eq_true _ _).mp hexpired
    have hunexpired := @Simulates.any_unexpired _ _ _ _ _ _ job h
    have hredis : redis.leases.getLease now job = none := by
      simp [RedisLeases.getLease, hkey, Option.filter, not_lt.mpr (of_decide_eq_true hle)]
    rw [hredis] at hunexpired
    have hrefused : (redis.exec handoffTimeout now (.reserveLease job executor leaseId expiresAt)).2
        = .bool false := by
      simp [RedisStore.exec, RedisLeases.reserveLease, hkey]
    have hgranted : (fake.exec handoffTimeout now (.reserveLease job executor leaseId expiresAt)).2
        = .bool true := by
      simp [FakeStore.exec, FakeStore.reserveLease, not_le.mpr hlt, hunexpired]
    rw [hrefused, hgranted]
    simp
  | acquireDispatchLock job =>
    obtain ⟨hnonpos, hheld⟩ := hparts
    have hfake := h.unlocked hnonpos now le_rfl job
    have hrefused : (redis.exec handoffTimeout now (.acquireDispatchLock job)).2 = .bool false := by
      show Reply.bool (redis.dispatchLocks.setNX now job () _).2 = _
      rw [ExpiringStore.setNX_snd]
      simpa using hheld
    have hgranted : (fake.exec handoffTimeout now (.acquireDispatchLock job)).2 = .bool true := by
      show Reply.bool (fake.dispatchLocks.setNX now job () _).2 = _
      rw [ExpiringStore.setNX_snd, hfake]
      rfl
    rw [hrefused, hgranted]
    simp
  | _ => exact hparts.elim

/-! ## Sequences of calls -/

/-- From stores that are alike, a sequence of calls is answered alike exactly if none
of its calls is one on which the stores part. -/
theorem replies_eq_iff_of_simulates {calls : List (K × Operation K)}
    (h : Simulates handoffTimeout now redis fake) (hle : ∀ call ∈ calls, now ≤ call.1)
    (hclock : calls.Pairwise fun call call' => call.1 ≤ call'.1) :
    replies (RedisStore.exec handoffTimeout) redis calls =
        replies (FakeStore.exec handoffTimeout) fake calls ↔
      NeverParts handoffTimeout redis calls := by
  induction calls generalizing now redis fake with
  | nil => exact ⟨fun _ => trivial, fun _ => rfl⟩
  | cons call calls ih =>
    obtain ⟨now', op⟩ := call
    have hnow : now ≤ now' := hle _ List.mem_cons_self
    obtain ⟨hlater, hclock'⟩ := List.pairwise_cons.mp hclock
    have hsim := h.mono hnow
    simp only [replies, List.cons.injEq, NeverParts]
    by_cases hparts : Parts handoffTimeout redis now' op
    · constructor
      · intro heq
        exact absurd heq.1 (replies_ne_of_parts hsim hparts)
      · intro hnever
        exact absurd hparts hnever.1
    · obtain ⟨hreply, hsim'⟩ := hsim.exec hparts
      rw [ih hsim' hlater hclock']
      constructor
      · intro heq
        exact ⟨hparts, heq.2⟩
      · intro hnever
        exact ⟨hreply, hnever.2⟩

/-- New stores answer a sequence of calls alike exactly if none of its calls is one on
which they part. -/
theorem replies_eq_iff (handoffTimeout : Int) (calls : List (K × Operation K))
    (hclock : calls.Pairwise fun call call' => call.1 ≤ call'.1) :
    replies (RedisStore.exec handoffTimeout) .empty calls =
        replies (FakeStore.exec handoffTimeout) .empty calls ↔
      NeverParts handoffTimeout .empty calls := by
  cases calls with
  | nil => exact ⟨fun _ => trivial, fun _ => rfl⟩
  | cons call calls =>
    refine @replies_eq_iff_of_simulates _ _ _ _ _ _ call.1 _ _ _ .empty ?_ hclock
    intro call' hmem
    rcases List.mem_cons.mp hmem with rfl | hmem
    · exact le_rfl
    · exact (List.pairwise_cons.mp hclock).1 call' hmem

/-- A lease of half a second, and a reservation of the same job after `wait` seconds. -/
def exSecondLease (wait : ℚ) : List (ℚ × Operation ℚ) :=
  [(0, .reserveLease ⟨1⟩ ⟨2⟩ ⟨3⟩ (1 / 2)), (wait, .reserveLease ⟨1⟩ ⟨4⟩ ⟨5⟩ 10),
    (wait, .activeCount ⟨4⟩)]

/-- After three quarters of a second only the dictionary grants it. -/
theorem exSecondLease_differs :
    replies (RedisStore.exec 90) .empty (exSecondLease (3 / 4)) ≠
      replies (FakeStore.exec 90) .empty (exSecondLease (3 / 4)) := by
  decide +kernel

/-- After a second both grant it. -/
theorem exSecondLease_agrees :
    replies (RedisStore.exec 90) .empty (exSecondLease 1) =
      replies (FakeStore.exec 90) .empty (exSecondLease 1) := by
  refine (replies_eq_iff 90 (exSecondLease 1) (by decide +kernel)).mpr ?_
  show ¬Parts _ _ _ _ ∧ ¬Parts _ _ _ _ ∧ ¬Parts _ _ _ _ ∧ True
  refine ⟨fun h => ?_, fun h => ?_, fun h => h, trivial⟩
  · exact absurd h.2 (by decide +kernel)
  · exact absurd h.2 (by decide +kernel)

end Trackpal.Store
