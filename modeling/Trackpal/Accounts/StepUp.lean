import Trackpal.Foundation.Runs
import Trackpal.Foundation.SortedSet
import Trackpal.Foundation.Threads

/-!
# Step-up authentication

An attempt of an actor is checked against the failures of the last fifteen minutes, has its
password verified, and records a failure or resets the counter. The attempts of the actor overlap,
so that the failures a check counts can lack the ones of the attempts that are under way.

Results:
1. `closed_of_reaches`: an attempt during which Redis failed has been rejected.
2. `guesses_of_reaches`.
-/

namespace Trackpal.Accounts

open Trackpal.Foundation

/-! ## The limiter -/

def stepUpWindowSeconds : Int := 15 * 60

def stepUpMaxAttempts : Nat := 3

/-- `StepUpError` and its subclass `StepUpRedisError`, with their texts. -/
inductive StepUpError where
  | stepUpError (text : String)
  | stepUpRedisError (text : String)
deriving DecidableEq, Repr

/-- What becomes of a pipeline: Redis executes it and answers, the answer is lost, or Redis
executes nothing. -/
inductive Reply where
  | answered
  | lost
  | unreachable
deriving DecidableEq, Repr

/-- What a pipeline that is executed leaves. -/
def Reply.write (reply : Reply) (before after : SortedSet String) : SortedSet String :=
  match reply with
  | .answered | .lost => after
  | .unreachable => before

/-- The member of a failure: `f"{now}:{uuid.uuid4().hex[:8]}"`. -/
def failureMember (now : Int) (hex : String) : String := toString now ++ ":" ++ hex

/-- `_do_get_count`. -/
def getCount (failures : SortedSet String) (now : Int) : SortedSet String × Nat :=
  let pruned := (failures.live now).zremrangebyscore 0 (now - stepUpWindowSeconds)
  (pruned.expire now stepUpWindowSeconds, pruned.zcard)

/-- `_do_record_failure`. -/
def recordFailure (failures : SortedSet String) (now : Int) (hex : String) : SortedSet String :=
  (((failures.live now).zadd (failureMember now hex) now).zremrangebyscore 0
    (now - stepUpWindowSeconds)).expire now stepUpWindowSeconds

/-- What `check` and `record_failure` raise if Redis fails. -/
def unavailable : StepUpError := .stepUpRedisError "Step-up rate limiter unavailable"

/-- What `check` raises for an actor who is blocked. -/
def blocked (remaining : Int) : StepUpError :=
  .stepUpError ("Too many failed attempts. Try again in " ++ toString remaining ++ " seconds.")

/-! ## The attempts -/

/-- What an attempt ends with. The last one is an error of Redis that nothing catches. -/
inductive Result where
  | verified
  | masterStepUpError (code : String) (statusCode : Nat)
  | redisError
deriving DecidableEq, Repr

/-- How `verify_master_step_up` reports an error of `check`. -/
def Result.ofCheck : StepUpError → Result
  | .stepUpRedisError _ => .masterStepUpError "step_up_unavailable" 503
  | .stepUpError _ => .masterStepUpError "step_up_rate_limited" 429

/-- How `verify_master_step_up` reports an error of `record_failure`. -/
def Result.ofRecord (_ : StepUpError) : Result := .masterStepUpError "step_up_unavailable" 503

/-- The next step of an attempt; `blocked` reads the TTL for its error. -/
inductive Phase where
  | checking
  | blocked
  | verifying
  | failing
  | succeeding
deriving DecidableEq, Repr

/-- A call of `verify_master_step_up`, with or without a limiter. -/
structure Attempt where
  password : String
  limiter : Bool
  phase : Phase
deriving DecidableEq, Repr

/-- What has happened to an attempt: its password passed the check, Redis failed in the check or
in recording the failure, or it ended. -/
inductive Event where
  | passed (pid : Nat) (now : Int) (password : String)
  | redisFailed (pid : Nat)
  | ended (pid : Nat) (result : Result)
deriving DecidableEq, Repr

/-- The failures and the attempts of one actor, the clock, and what has happened, latest first. -/
structure Actor where
  failures : SortedSet String
  attempts : Threads Attempt
  now : Int
  history : List Event

/-- No attempt has been made. -/
def Actor.init (now : Int) : Actor := ⟨.empty, .none, now, []⟩

/-- One step. -/
inductive Action where
  | tick (seconds : Nat)
  | begin (password : String) (limiter : Bool)
  | check (pid : Nat) (reply : Reply)
  | readTtl (pid : Nat) (reply : Reply)
  | verify (pid : Nat)
  | recordFailure (pid : Nat) (hex : String) (reply : Reply)
  | recordSuccess (pid : Nat) (reply : Reply)
deriving DecidableEq, Repr

namespace Actor

/-- An attempt goes on. -/
def proceed (a : Actor) (pid : Nat) (attempt : Attempt) (phase : Phase) : Actor :=
  { a with attempts := a.attempts.put pid (some { attempt with phase := phase }) }

/-- An attempt ends. -/
def finish (a : Actor) (pid : Nat) (result : Result) : Actor :=
  { a with attempts := a.attempts.put pid none, history := .ended pid result :: a.history }

def fail (a : Actor) (pid : Nat) (result : Result) : Actor :=
  { a.finish pid result with history := .redisFailed pid :: (a.finish pid result).history }

/-- The password of an attempt passes the check. -/
def pass (a : Actor) (pid : Nat) (attempt : Attempt) : Actor :=
  { a.proceed pid attempt .verifying with
    history := .passed pid a.now attempt.password :: a.history }

/-- The sorted set of the actor has changed. -/
def write (a : Actor) (failures : SortedSet String) : Actor := { a with failures := failures }

/-- `check`, up to the reading of the TTL. -/
def check (a : Actor) (pid : Nat) (attempt : Attempt) (reply : Reply) : Actor :=
  if !attempt.limiter then a.finish pid (.masterStepUpError "step_up_unavailable" 503)
  else
    let counted := a.write (reply.write a.failures (getCount a.failures a.now).1)
    if reply = .answered then
      if stepUpMaxAttempts ≤ (getCount a.failures a.now).2 then counted.proceed pid attempt .blocked
      else counted.pass pid attempt
    else counted.fail pid (.ofCheck unavailable)

/-- The end of `check` for an actor who is blocked: an error of the reading of the TTL is not
caught. -/
def readTtl (a : Actor) (pid : Nat) (reply : Reply) : Actor :=
  if reply = .answered then
    a.finish pid (.ofCheck (blocked ((a.failures.live a.now).ttl a.now)))
  else a.fail pid .redisError

/-- `record_failure`, and the rejection of the password. -/
def recordFailure (a : Actor) (pid : Nat) (hex : String) (reply : Reply) : Actor :=
  let recorded := a.write (reply.write a.failures (Accounts.recordFailure a.failures a.now hex))
  if reply = .answered then recorded.finish pid (.masterStepUpError "invalid_master_password" 401)
  else recorded.fail pid (.ofRecord unavailable)

/-- `record_success`, of which an error is ignored. -/
def recordSuccess (a : Actor) (pid : Nat) (reply : Reply) : Actor :=
  (a.write (reply.write a.failures .empty)).finish pid .verified

/-- The attempt `pid`, if `phase` is its next step. -/
def inPhase (a : Actor) (pid : Nat) (phase : Phase) : Option Attempt :=
  (a.attempts.get pid).filter (·.phase = phase)

/-- `step verifies a action`: `verifies` is `verify_password` against the hash of the actor. -/
def step (verifies : String → Bool) (a : Actor) : Action → Option Actor
  | .tick seconds => some { a with now := a.now + seconds }
  | .begin password limiter =>
    some { a with attempts := a.attempts.spawn ⟨password, limiter, .checking⟩ }
  | .check pid reply =>
    (a.inPhase pid .checking).map fun attempt => a.check pid attempt reply
  | .readTtl pid reply => (a.inPhase pid .blocked).map fun _ => a.readTtl pid reply
  | .verify pid =>
    (a.inPhase pid .verifying).map fun attempt =>
      a.proceed pid attempt (if verifies attempt.password then .succeeding else .failing)
  | .recordFailure pid hex reply =>
    (a.inPhase pid .failing).map fun _ => a.recordFailure pid hex reply
  | .recordSuccess pid reply =>
    (a.inPhase pid .succeeding).map fun _ => a.recordSuccess pid reply

end Actor

/-! ## What the claim on guesses is about -/

/-- The runs of at most `overlap` attempts at a time, in which Redis answers, the members of the
sorted set are distinct, and no password is right. -/
def guessing (verifies : String → Bool) (overlap : Nat) (a : Actor) : Action → Bool
  | .tick _ => true
  | .begin _ _ => a.attempts.running.length < overlap
  | .check _ reply | .readTtl _ reply | .recordSuccess _ reply => reply = .answered
  | .verify pid => (a.attempts.get pid).all fun attempt => !verifies attempt.password
  | .recordFailure _ hex reply =>
    reply = .answered ∧ (a.failures.live a.now).scores.get (failureMember a.now hex) = none

def Event.passedFrom (start : Int) : Event → Bool
  | .passed _ now _ => start ≤ now
  | _ => false

def Event.passedWithin (start : Int) : Event → Bool
  | .passed _ now _ => decide (start ≤ now) && decide (now < start + stepUpWindowSeconds)
  | _ => false

def Event.wrongWithin (verifies : String → Bool) (start : Int) : Event → Bool
  | .passed _ now password =>
    decide (start ≤ now) && decide (now < start + stepUpWindowSeconds) && !verifies password
  | _ => false

def Rejected (history : List Event) (pid : Nat) : Prop :=
  (∃ result, .ended pid result ∈ history) ∧ ∀ result, .ended pid result ∈ history → result ≠ .verified

/-- The password of the attempt passed the check. -/
def Passed (history : List Event) (pid : Nat) : Prop :=
  ∃ now password, .passed pid now password ∈ history

/-- The password was accepted, or refused as wrong. -/
def Result.judged (result : Result) : Bool :=
  result = .verified ∨ result = .masterStepUpError "invalid_master_password" 401

/-- The attempt is behind the check. -/
def Attempt.checked (attempt : Attempt) : Bool :=
  attempt.phase ≠ .checking ∧ attempt.phase ≠ .blocked

variable {verifies : String → Bool} {overlap pid : Nat} {a a' : Actor} {action : Action}
  {attempt : Attempt} {result : Result} {phase : Phase} {reply : Reply} {hex : String}
  {now now' start : Int} {failures : SortedSet String}

namespace StepUpLemmas

theorem inPhase_eq_some : a.inPhase pid phase = some attempt ↔
    a.attempts.get pid = some attempt ∧ attempt.phase = phase := by
  unfold Actor.inPhase
  rw [Option.filter_eq_some_iff, decide_eq_true_iff]

/-! ## The limiter -/

theorem countFrom_getCount (h : failures.Outlives stepUpWindowSeconds)
    (hstart : now - stepUpWindowSeconds < start) :
    (getCount failures now).1.countFrom start = failures.countFrom start := by
  unfold getCount
  rw [SortedSet.countFrom_expire, SortedSet.countFrom_zremrangebyscore hstart,
    SortedSet.countFrom_live h hstart]

theorem countFrom_le_getCount (h : failures.Outlives stepUpWindowSeconds)
    (hstart : now - stepUpWindowSeconds < start) :
    failures.countFrom start ≤ (getCount failures now).2 := by
  calc failures.countFrom start
      = ((failures.live now).zremrangebyscore 0 (now - stepUpWindowSeconds)).countFrom start := by
        rw [SortedSet.countFrom_zremrangebyscore hstart, SortedSet.countFrom_live h hstart]
    _ ≤ (getCount failures now).2 := SortedSet.countFrom_le_zcard

theorem past_getCount (h : failures.Past now) : (getCount failures now).1.Past now :=
  h.live.zremrangebyscore.expire

theorem outlives_getCount (h : failures.Past now) :
    (getCount failures now).1.Outlives stepUpWindowSeconds :=
  SortedSet.outlives_expire h.live.zremrangebyscore

theorem countFrom_recordFailure (h : failures.Outlives stepUpWindowSeconds)
    (hnew : (failures.live now).scores.get (failureMember now hex) = none)
    (hstart : now - stepUpWindowSeconds < start) :
    (recordFailure failures now hex).countFrom start =
      failures.countFrom start + if start ≤ now then 1 else 0 := by
  unfold recordFailure
  rw [SortedSet.countFrom_expire, SortedSet.countFrom_zremrangebyscore hstart,
    SortedSet.countFrom_zadd hnew, SortedSet.countFrom_live h hstart]

theorem past_recordFailure (h : failures.Past now) : (recordFailure failures now hex).Past now :=
  h.live.zadd.zremrangebyscore.expire

theorem outlives_recordFailure (h : failures.Past now) :
    (recordFailure failures now hex).Outlives stepUpWindowSeconds :=
  SortedSet.outlives_expire h.live.zadd.zremrangebyscore

end StepUpLemmas

open StepUpLemmas

/-! ## Redis fails -/

/-- What has ended has ended for good, it is rejected if Redis failed, and a password is judged only
after it has passed the check. -/
structure Closed (a : Actor) : Prop where
  ended : ∀ pid result, .ended pid result ∈ a.history →
    pid < a.attempts.list.length ∧ a.attempts.get pid = none
  failed : ∀ pid, .redisFailed pid ∈ a.history → Rejected a.history pid
  passed : ∀ pid attempt, a.attempts.get pid = some attempt → attempt.checked = true →
    Passed a.history pid
  judged : ∀ pid result, .ended pid result ∈ a.history → result.judged = true → Passed a.history pid

namespace StepUpLemmas

theorem ne_of_ended (h : Closed a) (hget : a.attempts.get pid = some attempt) {other : Nat}
    (hended : .ended other result ∈ a.history) : other ≠ pid := by
  rintro rfl
  have hnone := (h.ended other result hended).2
  rw [hget] at hnone
  cases hnone

theorem rejected_cons {event : Event} {history : List Event}
    (hevent : ∀ result, event ≠ .ended pid result) :
    Rejected (event :: history) pid ↔ Rejected history pid := by
  have hmem : ∀ result, .ended pid result ∈ event :: history ↔ .ended pid result ∈ history := by
    intro result
    rw [List.mem_cons, or_iff_right (hevent result).symm]
  simp only [Rejected, hmem]

theorem passed_cons {event : Event} {history : List Event} (h : Passed history pid) :
    Passed (event :: history) pid := by
  obtain ⟨now, password, hpassed⟩ := h
  exact ⟨now, password, List.mem_cons_of_mem _ hpassed⟩

theorem length_put {next : Option Attempt} :
    (a.attempts.put pid next).list.length = a.attempts.list.length := List.length_set

theorem closed_proceed (h : Closed a) (hget : a.attempts.get pid = some attempt)
    (hphase : phase = .blocked ∨ attempt.checked = true) :
    Closed (a.proceed pid attempt phase) where
  ended other result hended := by
    obtain ⟨hlt, hnone⟩ := h.ended other result hended
    have hne := ne_of_ended h hget hended
    exact ⟨hlt.trans_eq length_put.symm, (Threads.get_put_of_ne hne).trans hnone⟩
  failed := h.failed
  passed other moved hmoved hchecked := by
    by_cases heq : other = pid
    · subst heq
      cases (Threads.get_put_self hget).symm.trans hmoved
      rcases hphase with rfl | hbefore
      · cases hchecked
      · exact h.passed other attempt hget hbefore
    · exact h.passed other moved ((Threads.get_put_of_ne heq).symm.trans hmoved) hchecked
  judged := h.judged

theorem closed_pass (h : Closed a) (hget : a.attempts.get pid = some attempt) :
    Closed (a.pass pid attempt) where
  ended other result hended := by
    rcases List.mem_cons.mp hended with heq | hold
    · cases heq
    · obtain ⟨hlt, hnone⟩ := h.ended other result hold
      have hne := ne_of_ended h hget hold
      exact ⟨hlt.trans_eq length_put.symm, (Threads.get_put_of_ne hne).trans hnone⟩
  failed other hfailed := by
    rcases List.mem_cons.mp hfailed with heq | hold
    · cases heq
    · exact (rejected_cons fun _ => Event.noConfusion).mpr (h.failed other hold)
  passed other moved hmoved hchecked := by
    by_cases heq : other = pid
    · subst heq
      exact ⟨a.now, attempt.password, List.mem_cons_self⟩
    · exact passed_cons (h.passed other moved ((Threads.get_put_of_ne heq).symm.trans hmoved) hchecked)
  judged other found hended hjudged := by
    rcases List.mem_cons.mp hended with heq | hold
    · cases heq
    · exact passed_cons (h.judged other found hold hjudged)

theorem closed_finish (h : Closed a) (hget : a.attempts.get pid = some attempt)
    (hpassed : result.judged = true → attempt.checked = true) :
    Closed (a.finish pid result) where
  ended other found hended := by
    rcases List.mem_cons.mp hended with heq | hold
    · cases heq
      exact ⟨(Threads.lt_of_get hget).trans_eq length_put.symm, Threads.get_put_self hget⟩
    · obtain ⟨hlt, hnone⟩ := h.ended other found hold
      have hne := ne_of_ended h hget hold
      exact ⟨hlt.trans_eq length_put.symm, (Threads.get_put_of_ne hne).trans hnone⟩
  failed other hfailed := by
    rcases List.mem_cons.mp hfailed with heq | hold
    · cases heq
    · have hrejected := h.failed other hold
      obtain ⟨found, hfound⟩ := hrejected.1
      have hne := ne_of_ended h hget hfound
      refine (rejected_cons fun _ heq => ?_).mpr hrejected
      cases heq
      exact hne rfl
  passed other moved hmoved hchecked := by
    have hne : other ≠ pid := by
      rintro rfl
      cases (Threads.get_put_self hget).symm.trans hmoved
    exact passed_cons (h.passed other moved ((Threads.get_put_of_ne hne).symm.trans hmoved) hchecked)
  judged other found hended hjudged := by
    rcases List.mem_cons.mp hended with heq | hold
    · cases heq
      exact passed_cons (h.passed pid attempt hget (hpassed hjudged))
    · exact passed_cons (h.judged other found hold hjudged)

theorem rejected_finish (h : Closed a) (hget : a.attempts.get pid = some attempt)
    (hresult : result ≠ .verified) : Rejected (a.finish pid result).history pid := by
  refine ⟨⟨result, List.mem_cons_self⟩, fun found hfound => ?_⟩
  rcases List.mem_cons.mp hfound with heq | hold
  · cases heq
    exact hresult
  · exact absurd rfl (ne_of_ended h hget hold)

theorem closed_fail (h : Closed a) (hget : a.attempts.get pid = some attempt)
    (hresult : result.judged = false) : Closed (a.fail pid result) := by
  have hfinish : Closed (a.finish pid result) :=
    closed_finish h hget fun hjudged => by rw [hresult] at hjudged; cases hjudged
  refine ⟨fun other found hended => ?_, fun other hfailed => ?_, fun other moved hmoved hchecked =>
    passed_cons (hfinish.passed other moved hmoved hchecked), fun other found hended hjudged => ?_⟩
  · rcases List.mem_cons.mp hended with heq | hold
    · cases heq
    · exact hfinish.ended other found hold
  · refine (rejected_cons fun _ => Event.noConfusion).mpr ?_
    rcases List.mem_cons.mp hfailed with heq | hold
    · cases heq
      refine rejected_finish h hget fun heq => ?_
      rw [heq] at hresult
      cases hresult
    · exact hfinish.failed other hold
  · rcases List.mem_cons.mp hended with heq | hold
    · cases heq
    · exact passed_cons (hfinish.judged other found hold hjudged)

theorem closed_write (h : Closed a) : Closed (a.write failures) :=
  ⟨h.ended, h.failed, h.passed, h.judged⟩

theorem closed_spawn (h : Closed a) (hphase : attempt.phase = .checking) :
    Closed { a with attempts := a.attempts.spawn attempt } where
  ended other result hended := by
    obtain ⟨hlt, hnone⟩ := h.ended other result hended
    have hlength : (a.attempts.spawn attempt).list.length = a.attempts.list.length + 1 :=
      List.length_append
    refine ⟨hlength ▸ Nat.lt_succ_of_lt hlt, Option.eq_none_iff_forall_not_mem.mpr ?_⟩
    intro found hfound
    rcases Threads.get_spawn.mp hfound with hold | ⟨heq, -⟩
    · rw [hnone] at hold
      cases hold
    · exact absurd heq (Nat.ne_of_lt hlt)
  failed := h.failed
  passed pid found hfound hchecked := by
    rcases Threads.get_spawn.mp hfound with hold | ⟨-, rfl⟩
    · exact h.passed pid found hold hchecked
    · simp [Attempt.checked, hphase] at hchecked
  judged := h.judged

theorem closed_step (h : Closed a) (hstep : a.step verifies action = some a') : Closed a' := by
  have hjudged (error : StepUpError) : (Result.ofCheck error).judged = false := by
    cases error <;> rfl
  cases action with
  | tick seconds =>
    cases hstep
    exact ⟨h.ended, h.failed, h.passed, h.judged⟩
  | begin password limiter =>
    cases hstep
    exact closed_spawn h rfl
  | check pid reply =>
    obtain ⟨attempt, hphase, rfl⟩ := Option.map_eq_some_iff.mp hstep
    obtain ⟨hget, -⟩ := inPhase_eq_some.mp hphase
    unfold Actor.check
    split
    · exact closed_finish h hget fun hfalse => by cases hfalse
    · dsimp only
      split
      · split
        · exact closed_proceed (closed_write h) hget (.inl rfl)
        · exact closed_pass (closed_write h) hget
      · exact closed_fail (closed_write h) hget (hjudged _)
  | readTtl pid reply =>
    obtain ⟨attempt, hphase, rfl⟩ := Option.map_eq_some_iff.mp hstep
    obtain ⟨hget, -⟩ := inPhase_eq_some.mp hphase
    unfold Actor.readTtl
    split
    · exact closed_finish h hget fun hfalse => by rw [hjudged] at hfalse; cases hfalse
    · exact closed_fail h hget rfl
  | verify pid =>
    obtain ⟨attempt, hattempt, rfl⟩ := Option.map_eq_some_iff.mp hstep
    obtain ⟨hget, hphase⟩ := inPhase_eq_some.mp hattempt
    exact closed_proceed h hget (.inr (by simp [Attempt.checked, hphase]))
  | recordFailure pid hex reply =>
    obtain ⟨attempt, hattempt, rfl⟩ := Option.map_eq_some_iff.mp hstep
    obtain ⟨hget, hphase⟩ := inPhase_eq_some.mp hattempt
    unfold Actor.recordFailure
    dsimp only
    split
    · exact closed_finish (closed_write h) hget fun _ => by simp [Attempt.checked, hphase]
    · exact closed_fail (closed_write h) hget rfl
  | recordSuccess pid reply =>
    obtain ⟨attempt, hattempt, rfl⟩ := Option.map_eq_some_iff.mp hstep
    obtain ⟨hget, hphase⟩ := inPhase_eq_some.mp hattempt
    exact closed_finish (closed_write h) hget fun _ => by simp [Attempt.checked, hphase]

end StepUpLemmas

theorem closed_of_reaches {ok : Actor → Action → Prop}
    (h : Reaches (Actor.step verifies) ok (.init now) a) : Closed a :=
  h.invariant ⟨nofun, nofun, nofun, nofun⟩ fun _ _ _ hclosed _ hstep => closed_step hclosed hstep

/-! ## The guesses -/

def Attempt.underWay (attempt : Attempt) : Bool :=
  decide (attempt.phase = .verifying) || decide (attempt.phase = .failing)

/-- What passed the check within the window is in the sorted set, or under way. -/
structure Counted (overlap : Nat) (a : Actor) : Prop where
  overlaps : a.attempts.running.length ≤ overlap
  unverified : ∀ attempt ∈ a.attempts.running, attempt.phase ≠ .succeeding
  past : a.failures.Past a.now
  outlives : a.failures.Outlives stepUpWindowSeconds
  passedPast : ∀ pid now password, .passed pid now password ∈ a.history → now ≤ a.now
  counted : ∀ start, a.now - stepUpWindowSeconds < start →
    a.history.countP (Event.passedFrom start) ≤
      a.failures.countFrom start + a.attempts.running.countP Attempt.underWay
  bounded : ∀ start,
    a.history.countP (Event.passedWithin start) ≤ stepUpMaxAttempts + overlap - 1

namespace StepUpLemmas

theorem running_put (hget : a.attempts.get pid = some attempt) (next : Option Attempt) :
    (a.attempts.put pid next).running.length + 1 = a.attempts.running.length + next.toList.length ∧
      (a.attempts.put pid next).running.countP Attempt.underWay + attempt.underWay.toNat =
        a.attempts.running.countP Attempt.underWay + next.toList.countP Attempt.underWay := by
  obtain ⟨before, after, hbefore, hafter⟩ := Threads.running_put hget
  rw [hbefore, hafter]
  simp only [List.length_append, List.length_cons, List.countP_append, List.countP_cons]
  cases attempt.underWay <;> simp <;> omega

theorem passedFrom_eq_zero {history : List Event}
    (hpast : ∀ pid t password, .passed pid t password ∈ history → t ≤ now) (hstart : now < start) :
    history.countP (Event.passedFrom start) = 0 := by
  refine List.countP_eq_zero.mpr fun event hevent hfrom => ?_
  cases event with
  | passed pid t password =>
    have hle : start ≤ t := of_decide_eq_true hfrom
    have hpassed := hpast pid t password hevent
    omega
  | redisFailed => cases hfrom
  | ended => cases hfrom

theorem passedWithin_le {history : List Event} :
    history.countP (Event.passedWithin start) ≤ history.countP (Event.passedFrom start) := by
  refine List.countP_mono_left fun event _ hwithin => ?_
  cases event with
  | passed pid t password => exact (Bool.and_eq_true_iff.mp hwithin).1
  | redisFailed => cases hwithin
  | ended => cases hwithin

theorem wrongWithin_le {history : List Event} :
    history.countP (Event.wrongWithin verifies start) ≤
      history.countP (Event.passedWithin start) := by
  refine List.countP_mono_left fun event _ hwrong => ?_
  cases event with
  | passed pid t password => exact (Bool.and_eq_true_iff.mp hwrong).1
  | redisFailed => cases hwrong
  | ended => cases hwrong

theorem counted_tick (h : Counted overlap a) {seconds : Nat} :
    Counted overlap { a with now := a.now + seconds } where
  overlaps := h.overlaps
  unverified := h.unverified
  past := h.past.mono (Int.le_add_of_nonneg_right (Int.natCast_nonneg seconds))
  outlives := h.outlives
  passedPast pid t password hpassed := by
    have hle := h.passedPast pid t password hpassed
    show t ≤ a.now + seconds
    omega
  counted start hstart := by
    have hfrom : a.now + seconds - stepUpWindowSeconds < start := hstart
    exact h.counted start (by omega)
  bounded := h.bounded

theorem counted_spawn (h : Counted overlap a) (hoverlap : a.attempts.running.length < overlap)
    (hphase : attempt.phase = .checking) :
    Counted overlap { a with attempts := a.attempts.spawn attempt } where
  overlaps := by
    show (a.attempts.spawn attempt).running.length ≤ overlap
    rw [Threads.running_spawn, List.length_append]
    exact hoverlap
  unverified := Threads.forall_spawn h.unverified (by simp [hphase])
  past := h.past
  outlives := h.outlives
  passedPast := h.passedPast
  counted start hstart := by
    refine (h.counted start hstart).trans (Nat.add_le_add_left ?_ _)
    rw [Threads.running_spawn, List.countP_append]
    exact Nat.le_add_right _ _
  bounded := h.bounded

theorem counted_write (h : Counted overlap a) (hpast : failures.Past a.now)
    (houtlives : failures.Outlives stepUpWindowSeconds)
    (hcount : ∀ start, a.now - stepUpWindowSeconds < start →
      failures.countFrom start = a.failures.countFrom start) :
    Counted overlap (a.write failures) where
  overlaps := h.overlaps
  unverified := h.unverified
  past := hpast
  outlives := houtlives
  passedPast := h.passedPast
  counted start hstart := by
    show _ ≤ failures.countFrom start + _
    rw [hcount start hstart]
    exact h.counted start hstart
  bounded := h.bounded

theorem counted_proceed (h : Counted overlap a) (hget : a.attempts.get pid = some attempt)
    (hphase : phase ≠ .succeeding)
    (hunder : ({ attempt with phase := phase } : Attempt).underWay = attempt.underWay) :
    Counted overlap (a.proceed pid attempt phase) := by
  obtain ⟨hlength, hcount⟩ := running_put hget (some { attempt with phase := phase })
  simp only [Option.toList_some, List.length_singleton, List.countP_singleton, hunder]
    at hlength hcount
  have hsame : (a.attempts.put pid (some { attempt with phase := phase })).running.countP
      Attempt.underWay = a.attempts.running.countP Attempt.underWay := by
    cases hattempt : attempt.underWay <;> simpa [hattempt] using hcount
  exact
    { overlaps := by
        have hoverlaps := h.overlaps
        show (a.attempts.put pid _).running.length ≤ overlap
        omega
      unverified := Threads.forall_put h.unverified fun next hnext => by
        cases hnext
        exact hphase
      past := h.past
      outlives := h.outlives
      passedPast := h.passedPast
      counted := fun start hstart => by
        show _ ≤ a.failures.countFrom start + (a.attempts.put pid _).running.countP _
        rw [hsame]
        exact h.counted start hstart
      bounded := h.bounded }

theorem counted_finish (h : Counted overlap a) (hget : a.attempts.get pid = some attempt)
    (hunder : attempt.underWay = false) : Counted overlap (a.finish pid result) := by
  obtain ⟨hlength, hcount⟩ := running_put hget none
  simp only [Option.toList_none, List.length_nil, List.countP_nil, hunder, Bool.toNat_false,
    Nat.add_zero] at hlength hcount
  exact
    { overlaps := by
        have hoverlaps := h.overlaps
        show (a.attempts.put pid none).running.length ≤ overlap
        omega
      unverified := Threads.forall_put h.unverified nofun
      past := h.past
      outlives := h.outlives
      passedPast := fun pid t password hpassed => by
        rcases List.mem_cons.mp hpassed with heq | hold
        · cases heq
        · exact h.passedPast pid t password hold
      counted := fun start hstart => by
        show List.countP _ (_ :: a.history) ≤
          a.failures.countFrom start + (a.attempts.put pid none).running.countP _
        rw [List.countP_cons_of_neg Bool.false_ne_true, hcount]
        exact h.counted start hstart
      bounded := fun start => by
        show List.countP _ (_ :: a.history) ≤ _
        rw [List.countP_cons_of_neg Bool.false_ne_true]
        exact h.bounded start }

theorem counted_pass (h : Counted overlap a) (hget : a.attempts.get pid = some attempt)
    (hphase : attempt.phase = .checking)
    (hallowed : ∀ start, a.now - stepUpWindowSeconds < start →
      a.failures.countFrom start < stepUpMaxAttempts) :
    Counted overlap (a.pass pid attempt) := by
  have hidle : attempt.underWay = false := by simp [Attempt.underWay, hphase]
  have hbusy : ({ attempt with phase := .verifying } : Attempt).underWay = true := rfl
  obtain ⟨hlength, hcount⟩ := running_put hget (some { attempt with phase := .verifying })
  simp only [Option.toList_some, List.length_singleton, List.countP_singleton, hidle, hbusy,
    Bool.toNat_false, Nat.add_zero, if_true] at hlength hcount
  have hothers : a.attempts.running.countP Attempt.underWay + 1 ≤ overlap := by
    calc a.attempts.running.countP Attempt.underWay + 1
        = (a.attempts.put pid (some { attempt with phase := .verifying })).running.countP
            Attempt.underWay := hcount.symm
      _ ≤ (a.attempts.put pid (some { attempt with phase := .verifying })).running.length :=
        List.countP_le_length
      _ ≤ overlap := by
        have hoverlaps := h.overlaps
        omega
  exact
    { overlaps := by
        have hoverlaps := h.overlaps
        show (a.attempts.put pid _).running.length ≤ overlap
        omega
      unverified := Threads.forall_put h.unverified fun next hnext => by
        cases hnext
        exact Phase.noConfusion
      past := h.past
      outlives := h.outlives
      passedPast := fun pid t password hpassed => by
        rcases List.mem_cons.mp hpassed with heq | hold
        · cases heq
          exact le_rfl
        · exact h.passedPast pid t password hold
      counted := fun start hstart => by
        have hcounted := h.counted start hstart
        show List.countP _ (_ :: a.history) ≤
          a.failures.countFrom start + (a.attempts.put pid _).running.countP _
        rw [List.countP_cons, hcount]
        split <;> omega
      bounded := fun start => by
        show List.countP _ (_ :: a.history) ≤ _
        rw [List.countP_cons]
        split
        · next hwithin =>
          -- the window is not over, so that all of it that is recorded counts
          have hend : a.now < start + stepUpWindowSeconds :=
            of_decide_eq_true (Bool.and_eq_true_iff.mp hwithin).2
          have hstart : a.now - stepUpWindowSeconds < start := by omega
          have hwithin' := @passedWithin_le start a.history
          have hcounted := h.counted start hstart
          have hchecked := hallowed start hstart
          omega
        · exact h.bounded start }

theorem counted_record (h : Counted overlap a) (hget : a.attempts.get pid = some attempt)
    (hphase : attempt.phase = .failing)
    (hnew : (a.failures.live a.now).scores.get (failureMember a.now hex) = none) :
    Counted overlap ((a.write (recordFailure a.failures a.now hex)).finish pid result) := by
  have hbusy : attempt.underWay = true := by simp [Attempt.underWay, hphase]
  obtain ⟨hlength, hcount⟩ := running_put hget none
  simp only [Option.toList_none, List.length_nil, List.countP_nil, hbusy, Bool.toNat_true,
    Nat.add_zero] at hlength hcount
  exact
    { overlaps := by
        have hoverlaps := h.overlaps
        show (a.attempts.put pid none).running.length ≤ overlap
        omega
      unverified := Threads.forall_put h.unverified nofun
      past := past_recordFailure h.past
      outlives := outlives_recordFailure h.past
      passedPast := fun pid t password hpassed => by
        rcases List.mem_cons.mp hpassed with heq | hold
        · cases heq
        · exact h.passedPast pid t password hold
      counted := fun start hstart => by
        show List.countP _ (_ :: a.history) ≤
          (recordFailure a.failures a.now hex).countFrom start +
            (a.attempts.put pid none).running.countP _
        rw [List.countP_cons_of_neg Bool.false_ne_true,
          countFrom_recordFailure h.outlives hnew hstart]
        split
        · have hcounted := h.counted start hstart
          omega
        · next hfuture =>
          -- nothing has passed since an instant that is still to come
          rw [passedFrom_eq_zero h.passedPast (not_le.mp hfuture)]
          exact Nat.zero_le _
      bounded := fun start => by
        show List.countP _ (_ :: a.history) ≤ _
        rw [List.countP_cons_of_neg Bool.false_ne_true]
        exact h.bounded start }

theorem counted_check (h : Counted overlap a) (hget : a.attempts.get pid = some attempt)
    (hphase : attempt.phase = .checking) :
    Counted overlap (a.check pid attempt .answered) := by
  have hidle : attempt.underWay = false := by simp [Attempt.underWay, hphase]
  have hcounted : Counted overlap (a.write (getCount a.failures a.now).1) :=
    counted_write h (past_getCount h.past) (outlives_getCount h.past)
      fun start hstart => countFrom_getCount h.outlives hstart
  unfold Actor.check
  split
  · exact counted_finish h hget hidle
  · dsimp only [Reply.write]
    rw [if_pos rfl]
    split
    · exact counted_proceed hcounted hget Phase.noConfusion hidle.symm
    · next hfew =>
      refine counted_pass hcounted hget hphase fun start hstart => ?_
      calc (a.write (getCount a.failures a.now).1).failures.countFrom start
          = a.failures.countFrom start := countFrom_getCount h.outlives hstart
        _ ≤ (getCount a.failures a.now).2 := countFrom_le_getCount h.outlives hstart
        _ < stepUpMaxAttempts := not_le.mp hfew

theorem counted_step (h : Counted overlap a) (hok : guessing verifies overlap a action = true)
    (hstep : a.step verifies action = some a') : Counted overlap a' := by
  cases action with
  | tick seconds =>
    cases hstep
    exact counted_tick h
  | begin password limiter =>
    cases hstep
    exact counted_spawn h (of_decide_eq_true hok) rfl
  | check pid reply =>
    obtain rfl : reply = .answered := of_decide_eq_true hok
    obtain ⟨attempt, hattempt, rfl⟩ := Option.map_eq_some_iff.mp hstep
    obtain ⟨hget, hphase⟩ := inPhase_eq_some.mp hattempt
    exact counted_check h hget hphase
  | readTtl pid reply =>
    obtain rfl : reply = .answered := of_decide_eq_true hok
    obtain ⟨attempt, hattempt, rfl⟩ := Option.map_eq_some_iff.mp hstep
    obtain ⟨hget, hphase⟩ := inPhase_eq_some.mp hattempt
    exact counted_finish h hget (by simp [Attempt.underWay, hphase])
  | verify pid =>
    obtain ⟨attempt, hattempt, rfl⟩ := Option.map_eq_some_iff.mp hstep
    obtain ⟨hget, hphase⟩ := inPhase_eq_some.mp hattempt
    have hwrong : verifies attempt.password = false := by simpa [guessing, hget] using hok
    rw [hwrong]
    exact counted_proceed h hget Phase.noConfusion (by simp [Attempt.underWay, hphase])
  | recordFailure pid hex reply =>
    obtain ⟨rfl, hnew⟩ := of_decide_eq_true hok
    obtain ⟨attempt, hattempt, rfl⟩ := Option.map_eq_some_iff.mp hstep
    obtain ⟨hget, hphase⟩ := inPhase_eq_some.mp hattempt
    exact counted_record h hget hphase hnew
  | recordSuccess pid reply =>
    obtain ⟨attempt, hattempt, rfl⟩ := Option.map_eq_some_iff.mp hstep
    obtain ⟨hget, hphase⟩ := inPhase_eq_some.mp hattempt
    exact absurd hphase (h.unverified attempt (Threads.mem_running_of_get hget))

end StepUpLemmas

theorem counted_of_reaches (h : Reaches (Actor.step verifies) (guessing verifies overlap · ·)
    (.init now) a) : Counted overlap a := by
  refine h.invariant ?_ fun _ _ _ hcounted hok hstep => counted_step hcounted hok hstep
  exact
    { overlaps := Nat.zero_le _
      unverified := nofun
      past := SortedSet.past_empty
      outlives := SortedSet.outlives_empty
      passedPast := nofun
      counted := fun _ _ => Nat.zero_le _
      bounded := fun _ => Nat.zero_le _ }

/-- Within any fifteen minutes, at most `3 + overlap - 1` wrong passwords pass the check, an attempt
during which Redis fails is rejected, and no password is accepted or refused as wrong that has not
passed the check. -/
theorem guesses_of_reaches (verifies : String → Bool) (now : Int) :
    (∀ overlap a, Reaches (Actor.step verifies) (guessing verifies overlap · ·) (.init now) a →
      ∀ start, a.history.countP (Event.wrongWithin verifies start) ≤ 3 + overlap - 1) ∧
    ∀ a, Reaches (Actor.step verifies) Always (.init now) a →
      (∀ pid, .redisFailed pid ∈ a.history → Rejected a.history pid) ∧
      ∀ pid result, .ended pid result ∈ a.history → result.judged = true → Passed a.history pid :=
  ⟨fun _ _ h start => wrongWithin_le.trans ((counted_of_reaches h).bounded start),
    fun _ h => ⟨(closed_of_reaches h).failed, (closed_of_reaches h).judged⟩⟩

/-! ## Runs -/

def exVerifies (password : String) : Bool := password == "right"

def exGuesses : List Action :=
  [.begin "one" true, .check 0 .answered, .verify 0, .recordFailure 0 "a0" .answered,
    .tick 60, .begin "two" true, .check 1 .answered, .verify 1, .recordFailure 1 "b1" .answered,
    .tick 60, .begin "three" true, .check 2 .answered, .begin "four" true, .check 3 .answered,
    .verify 2, .recordFailure 2 "c2" .answered, .verify 3, .recordFailure 3 "d3" .answered,
    .begin "five" true, .check 4 .answered, .readTtl 4 .answered]

def exLost : List Action :=
  [.begin "one" true, .check 0 .answered, .verify 0, .recordFailure 0 "a0" .lost]

/-- Two attempts at a time get four passwords past the check, and none more. -/
theorem exGuesses_bounded :
    (∃ a, Reaches (Actor.step exVerifies) (guessing exVerifies 2 · ·) (.init 1000) a ∧
      a.history.countP (Event.wrongWithin exVerifies 1000) = 4 ∧
      a.history.countP (Event.wrongWithin exVerifies 1000) ≤ 3 + 2 - 1) ∧
    ∃ a, Reaches (Actor.step exVerifies) Always (.init 1000) a ∧
      .redisFailed 0 ∈ a.history ∧ Rejected a.history 0 := by
  have hguesses : (execWhere (Actor.step exVerifies) (guessing exVerifies 2) (.init 1000)
      exGuesses).any (fun a => a.history.countP (Event.wrongWithin exVerifies 1000) = 4) =
        true := by
    decide +kernel
  have hlost : (execWhere (Actor.step exVerifies) (fun _ _ => true) (.init 1000) exLost).any
      (fun a => .redisFailed 0 ∈ a.history) = true := by
    decide +kernel
  obtain ⟨a, hreach, ha⟩ := exists_of_execWhere hguesses
  obtain ⟨b, hreach', hb⟩ := exists_of_execWhere hlost
  have halways : Reaches (Actor.step exVerifies) Always (.init 1000) b :=
    hreach'.mono fun _ _ _ => trivial
  exact ⟨⟨a, hreach, of_decide_eq_true ha, (guesses_of_reaches exVerifies 1000).1 2 a hreach 1000⟩,
    b, halways, of_decide_eq_true hb,
    ((guesses_of_reaches exVerifies 1000).2 b halways).1 0 (of_decide_eq_true hb)⟩

end Trackpal.Accounts
