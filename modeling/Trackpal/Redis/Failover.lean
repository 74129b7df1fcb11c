import Trackpal.Foundation.Runs
import Trackpal.Foundation.Threads

/-!
# Failover between two Redis stores

`FailoverPolicy`, and the calls of `RedisConnectionManager.execute` in any order of their steps:
a call reads the state, sends its operation, and comes back with an outcome that it records.
The history has the events of a run, the latest first.

Results:
1. `recordFailure_cases`: when a failure opens the breaker.
2. `tracks_start`, `tracks_success`, `tracks_failure`: the state of the policy follows from the
   history.
-/

namespace Trackpal.Redis

open Trackpal.Foundation

/-! ## The policy -/

inductive FailoverState where
  | closed
  | «open»
  | halfOpen
deriving DecidableEq, Repr

structure Settings where
  failureThreshold : Nat
  openWindowSeconds : Int
  hasPrimary : Bool
  hasBackup : Bool

structure FailoverPolicy where
  state : FailoverState
  consecutiveFailures : Nat
  openedAt : Option Int
deriving DecidableEq, Repr

namespace FailoverPolicy

def initial : FailoverPolicy where
  state := .closed
  consecutiveFailures := 0
  openedAt := none

variable (settings : Settings) (policy : FailoverPolicy) (now : Int)

def checkOpenWindow : FailoverPolicy :=
  match policy.state, policy.openedAt with
  | .open, some openedAt =>
    if settings.openWindowSeconds ≤ now - openedAt then
      { policy with state := .halfOpen, openedAt := none }
    else policy
  | _, _ => policy

def recordSuccess : FailoverPolicy :=
  match policy.state with
  | .halfOpen => { state := .closed, consecutiveFailures := 0, openedAt := none }
  | _ => { policy with consecutiveFailures := 0 }

def recordFailure : FailoverPolicy :=
  let failures := policy.consecutiveFailures + 1
  match policy.state with
  | .closed =>
    if settings.failureThreshold ≤ failures then
      { state := .open, consecutiveFailures := failures, openedAt := some now }
    else { policy with consecutiveFailures := failures }
  | .halfOpen => { state := .open, consecutiveFailures := failures, openedAt := some now }
  | .open => { policy with consecutiveFailures := failures }

end FailoverPolicy

/-! ## Calls -/

/-- The branches of `execute`; the last one is also where the others fall back to. -/
inductive Route where
  | primary
  | probe
  | backup
deriving DecidableEq, Repr

def FailoverState.route : FailoverState → Route
  | .closed => .primary
  | .open => .backup
  | .halfOpen => .probe

/-- What the operation comes back with; `infra` is what `is_redis_infra_error` recognises. -/
inductive Outcome where
  | success
  | infra
  | other
deriving DecidableEq, Repr

inductive Call where
  | routed (route : Route)
  | sent (route : Route)
  | returned
  /-- `RuntimeError`: the store is not configured. -/
  | unconfigured
  /-- `RedisUnavailableError`. -/
  | unavailable
  | raised
deriving DecidableEq, Repr

inductive Event where
  | started (pid : Nat) (now : Int)
  | touched (pid : Nat)
  | succeeded
  | failed
  | opened (now : Int)
deriving DecidableEq, Repr

structure World where
  policy : FailoverPolicy
  calls : Threads Call
  now : Int
  history : List Event

inductive Action where
  | start (now : Int)
  | send (pid : Nat)
  | finish (pid : Nat) (outcome : Outcome) (now : Int)
deriving DecidableEq, Repr

def World.initial (now : Int) : World where
  policy := .initial
  calls := .none
  now := now
  history := []

def Settings.fallsBack (settings : Settings) (route : Route) (state : FailoverState) : Bool :=
  settings.hasBackup && (route = .probe || state = .open)

def failure (policy policy' : FailoverPolicy) (now : Int) : List Event :=
  if policy.state ≠ .open ∧ policy'.state = .open then [.opened now, .failed] else [.failed]

variable (settings : Settings)

/-- The outcome of a call of the primary. -/
def World.record (w : World) (pid : Nat) (route : Route) (now : Int) : Outcome → World
  | .success =>
    { w with
      policy := w.policy.recordSuccess
      calls := w.calls.put pid (some .returned)
      now := now
      history := .succeeded :: w.history }
  | .other => { w with calls := w.calls.put pid (some .raised), now := now }
  | .infra =>
    let policy := w.policy.recordFailure settings now
    { policy := policy
      calls := w.calls.put pid
        (some (if settings.fallsBack route policy.state then .routed .backup else .unavailable))
      now := now
      history := failure w.policy policy now ++ w.history }

def Outcome.fromBackup : Outcome → Call
  | .success => .returned
  | .infra => .unavailable
  | .other => .raised

def step (w : World) : Action → Option World
  | .start now =>
    if w.now ≤ now then
      let policy := w.policy.checkOpenWindow settings now
      some
        { policy := policy
          calls := w.calls.spawn (.routed policy.state.route)
          now := now
          history := .started w.calls.list.length now :: w.history }
    else none
  | .send pid =>
    match w.calls.get pid with
    | some (.routed .backup) =>
      let next := if settings.hasBackup then .sent .backup else .unconfigured
      some { w with calls := w.calls.put pid (some next) }
    | some (.routed route) =>
      if settings.hasPrimary then
        some
          { w with
            calls := w.calls.put pid (some (.sent route))
            history := .touched pid :: w.history }
      else some { w with calls := w.calls.put pid (some .unconfigured) }
    | _ => none
  | .finish pid outcome now =>
    if w.now ≤ now then
      match w.calls.get pid with
      | some (.sent .backup) =>
        some { w with calls := w.calls.put pid (some outcome.fromBackup), now := now }
      | some (.sent route) => some (w.record settings pid route now outcome)
      | _ => none
    else none

/-! ## Histories -/

/-- An event of the history, with the events before it, satisfies the condition. -/
def Somewhere (p : Event → List Event → Prop) (history : List Event) : Prop :=
  ∃ later e earlier, history = later ++ e :: earlier ∧ p e earlier

/-- The breaker opened at the time, and no call has started after its window since. -/
def Current (settings : Settings) (openedAt : Int) (history : List Event) : Prop :=
  ∃ later earlier, history = later ++ .opened openedAt :: earlier ∧
    ∀ pid now, .started pid now ∈ later → now < openedAt + settings.openWindowSeconds

def StartedWithin (settings : Settings) (pid : Nat) : List Event → Prop :=
  Somewhere fun e earlier => ∃ now openedAt, e = .started pid now ∧ .opened openedAt ∈ earlier ∧
    now < openedAt + settings.openWindowSeconds

def FirstAfter (settings : Settings) (pid : Nat) : List Event → Prop :=
  Somewhere fun e earlier => ∃ now openedAt, e = .started pid now ∧
    Current settings openedAt earlier ∧ openedAt + settings.openWindowSeconds ≤ now

/-- The outcomes of the primary, the latest first; a failure is `true`. -/
def outcomes (history : List Event) : List Bool :=
  history.filterMap fun
    | .succeeded => some false
    | .failed => some true
    | _ => none

variable {settings} {p : Event → List Event → Prop} {history : List Event} {e : Event}
  {policy : FailoverPolicy} {now now' openedAt : Int} {pid : Nat} {w w' : World} {a : Action}

theorem somewhere_cons : Somewhere p (e :: history) ↔ p e history ∨ Somewhere p history := by
  constructor
  · rintro ⟨later, e', earlier, heq, hp⟩
    cases later with
    | nil =>
      cases heq
      exact Or.inl hp
    | cons _ later =>
      cases heq
      exact Or.inr ⟨later, e', earlier, rfl, hp⟩
  · rintro (hp | ⟨later, e', earlier, rfl, hp⟩)
    · exact ⟨[], e, history, rfl, hp⟩
    · exact ⟨e :: later, e', earlier, rfl, hp⟩

theorem current_cons : Current settings openedAt (e :: history) ↔ e = .opened openedAt ∨
    Current settings openedAt history ∧
      ∀ pid now, e = .started pid now → now < openedAt + settings.openWindowSeconds := by
  constructor
  · rintro ⟨later, earlier, heq, hearly⟩
    cases later with
    | nil =>
      cases heq
      exact Or.inl rfl
    | cons first later =>
      cases heq
      refine Or.inr ⟨⟨later, earlier, rfl, fun pid now h => hearly pid now ?_⟩, fun pid now h => ?_⟩
      · exact List.mem_cons_of_mem _ h
      · exact hearly pid now (h ▸ List.mem_cons_self)
  · rintro (rfl | ⟨⟨later, earlier, rfl, hearly⟩, hfirst⟩)
    · exact ⟨[], history, rfl, by simp⟩
    · refine ⟨e :: later, earlier, rfl, fun pid now h => ?_⟩
      rcases List.mem_cons.mp h with heq | hlater
      · exact hfirst pid now heq.symm
      · exact hearly pid now hlater

theorem mem_of_current (h : Current settings openedAt history) : .opened openedAt ∈ history := by
  obtain ⟨later, earlier, rfl, -⟩ := h
  exact List.mem_append_right _ List.mem_cons_self

/-! ## The policy follows from the history -/

/-- How the state of the policy follows from the history. -/
structure Tracks (settings : Settings) (policy : FailoverPolicy) (now : Int)
    (history : List Event) : Prop where
  opened_iff : policy.openedAt.isSome = true ↔ policy.state = .open
  few : policy.state = .closed → policy.consecutiveFailures < settings.failureThreshold
  counted : policy.consecutiveFailures = ((outcomes history).takeWhile id).length
  past : ∀ pid t, .started pid t ∈ history → t ≤ now
  current : ∀ openedAt, Current settings openedAt history → policy.openedAt = some openedAt

namespace FailoverLemmas

theorem tracks_initial (h : 1 ≤ settings.failureThreshold) : Tracks settings .initial now [] where
  opened_iff := by simp [FailoverPolicy.initial]
  few _ := h
  counted := rfl
  past _ _ h := by cases h
  current openedAt h := by cases mem_of_current h

theorem tracks_later (h : Tracks settings policy now history) (hnow : now ≤ now') :
    Tracks settings policy now' history :=
  { h with past := fun pid t hmem => Int.le_trans (h.past pid t hmem) hnow }

theorem tracks_touch (h : Tracks settings policy now history) :
    Tracks settings policy now (.touched pid :: history) where
  opened_iff := h.opened_iff
  few := h.few
  counted := h.counted
  past pid t hmem := by
    rcases List.mem_cons.mp hmem with heq | hold
    · cases heq
    · exact h.past pid t hold
  current openedAt hcurrent := by
    rcases current_cons.mp hcurrent with heq | ⟨hold, -⟩
    · cases heq
    · exact h.current openedAt hold

theorem tracks_start (h : Tracks settings policy now history) (hnow : now ≤ now') :
    Tracks settings (policy.checkOpenWindow settings now') now' (.started pid now' :: history) := by
  have hpast : ∀ pid' t, .started pid' t ∈ .started pid now' :: history → t ≤ now' := by
    intro pid' t hmem
    rcases List.mem_cons.mp hmem with heq | hold
    · cases heq
      exact Int.le_refl _
    · exact Int.le_trans (h.past pid' t hold) hnow
  have hcounted : policy.consecutiveFailures =
      ((outcomes (.started pid now' :: history)).takeWhile id).length := h.counted
  have hcurrent : ∀ openedAt, Current settings openedAt (.started pid now' :: history) →
      policy.openedAt = some openedAt ∧ now' < openedAt + settings.openWindowSeconds := by
    intro openedAt hcurrent
    rcases current_cons.mp hcurrent with heq | ⟨hold, hearly⟩
    · cases heq
    · exact ⟨h.current openedAt hold, hearly pid now' rfl⟩
  unfold FailoverPolicy.checkOpenWindow
  split
  · next opened hstate hopened =>
    split
    · next hpassed =>
      refine ⟨by simp, nofun, hcounted, hpast, fun openedAt hcur => ?_⟩
      obtain ⟨heq, hlt⟩ := hcurrent openedAt hcur
      rw [hopened] at heq
      cases heq
      omega
    · exact ⟨h.opened_iff, h.few, hcounted, hpast, fun openedAt hcur => (hcurrent openedAt hcur).1⟩
  · exact ⟨h.opened_iff, h.few, hcounted, hpast, fun openedAt hcur => (hcurrent openedAt hcur).1⟩

theorem tracks_success (hthreshold : 1 ≤ settings.failureThreshold)
    (h : Tracks settings policy now history) :
    Tracks settings policy.recordSuccess now (.succeeded :: history) := by
  have hpast : ∀ pid t, .started pid t ∈ Event.succeeded :: history → t ≤ now := by
    intro pid t hmem
    rcases List.mem_cons.mp hmem with heq | hold
    · cases heq
    · exact h.past pid t hold
  have hcurrent : ∀ openedAt, Current settings openedAt (.succeeded :: history) →
      policy.openedAt = some openedAt := by
    intro openedAt hcurrent
    rcases current_cons.mp hcurrent with heq | ⟨hold, -⟩
    · cases heq
    · exact h.current openedAt hold
  unfold FailoverPolicy.recordSuccess
  split
  · next hstate =>
    refine ⟨by simp, fun _ => hthreshold, rfl, hpast, fun openedAt hcur => ?_⟩
    -- a breaker that is half open has no time of opening
    have hopen := h.opened_iff.mp (by rw [hcurrent openedAt hcur]; rfl)
    rw [hstate] at hopen
    cases hopen
  · exact ⟨h.opened_iff, fun _ => hthreshold, rfl, hpast, hcurrent⟩

theorem recordFailure_cases (settings : Settings) (policy : FailoverPolicy) (now : Int) :
    (policy.state = .halfOpen ∨ policy.state = .closed ∧
        settings.failureThreshold ≤ policy.consecutiveFailures + 1) ∧
      policy.recordFailure settings now =
        { state := .open
          consecutiveFailures := policy.consecutiveFailures + 1
          openedAt := some now } ∧
      failure policy (policy.recordFailure settings now) now = [.opened now, .failed] ∨
    (policy.state = .open ∨ policy.state = .closed ∧
        policy.consecutiveFailures + 1 < settings.failureThreshold) ∧
      policy.recordFailure settings now =
        { policy with consecutiveFailures := policy.consecutiveFailures + 1 } ∧
      failure policy (policy.recordFailure settings now) now = [.failed] := by
  obtain ⟨state, failures, openedAt⟩ := policy
  cases state with
  | closed =>
    by_cases hmet : settings.failureThreshold ≤ failures + 1
    · have hrecord : FailoverPolicy.recordFailure settings ⟨.closed, failures, openedAt⟩ now =
          ⟨.open, failures + 1, some now⟩ := if_pos hmet
      rw [hrecord]
      exact Or.inl ⟨Or.inr ⟨rfl, hmet⟩, rfl, rfl⟩
    · have hrecord : FailoverPolicy.recordFailure settings ⟨.closed, failures, openedAt⟩ now =
          ⟨.closed, failures + 1, openedAt⟩ := if_neg hmet
      rw [hrecord]
      exact Or.inr ⟨Or.inr ⟨rfl, Nat.lt_of_not_le hmet⟩, rfl, rfl⟩
  | halfOpen => exact Or.inl ⟨Or.inl rfl, rfl, rfl⟩
  | «open» => exact Or.inr ⟨Or.inl rfl, rfl, rfl⟩

theorem past_failed (h : Tracks settings policy now history) (pid : Nat) (t : Int)
    (hmem : .started pid t ∈ Event.failed :: history) : t ≤ now := by
  rcases List.mem_cons.mp hmem with heq | hold
  · cases heq
  · exact h.past pid t hold

theorem current_failed (h : Tracks settings policy now history)
    (hcurrent : Current settings openedAt (.failed :: history)) :
    policy.openedAt = some openedAt := by
  rcases current_cons.mp hcurrent with heq | ⟨hold, -⟩
  · cases heq
  · exact h.current openedAt hold

theorem tracks_failure (h : Tracks settings policy now history) :
    Tracks settings (policy.recordFailure settings now) now
      (failure policy (policy.recordFailure settings now) now ++ history) := by
  have hcounted : policy.consecutiveFailures + 1 =
      ((outcomes (.failed :: history)).takeWhile id).length := congrArg Nat.succ h.counted
  rcases recordFailure_cases settings policy now with ⟨hstate, hpolicy, hevents⟩ | ⟨hstate, hpolicy, hevents⟩
  · rw [hevents, hpolicy]
    refine ⟨by simp, nofun, hcounted, fun pid t hmem => ?_, fun openedAt hcur => ?_⟩
    · rcases List.mem_cons.mp hmem with heq | hold
      · cases heq
      · exact past_failed h pid t hold
    · rcases current_cons.mp hcur with heq | ⟨hold, -⟩
      · cases heq
        rfl
      · -- no opening was the current one before
        have hopen := h.opened_iff.mp (by rw [current_failed h hold]; rfl)
        rw [hopen] at hstate
        rcases hstate with hhalf | ⟨hclosed, -⟩
        · cases hhalf
        · cases hclosed
  · rw [hevents, hpolicy]
    refine ⟨h.opened_iff, fun hclosed => ?_, hcounted, past_failed h, fun openedAt hcur => ?_⟩
    · have hclosed' : policy.state = .closed := hclosed
      rw [hclosed'] at hstate
      exact (hstate.resolve_left nofun).2
    · have hopened : policy.openedAt = some openedAt := current_failed h hcur
      exact hopened

theorem current_of_opened (h : Tracks settings policy now history)
    (hopened : .opened openedAt ∈ history) (hearly : now < openedAt + settings.openWindowSeconds) :
    Current settings openedAt history := by
  obtain ⟨later, earlier, rfl⟩ := List.append_of_mem hopened
  refine ⟨later, earlier, rfl, fun pid t hmem => ?_⟩
  exact Int.lt_of_le_of_lt (h.past pid t (List.mem_append_left _ hmem)) hearly

theorem state_of_current (h : Tracks settings policy now history)
    (hcurrent : Current settings openedAt history) :
    policy.state = .open ∧ policy.openedAt = some openedAt := by
  have hopened := h.current openedAt hcurrent
  exact ⟨h.opened_iff.mp (by rw [hopened]; rfl), hopened⟩

end FailoverLemmas

end Trackpal.Redis
