import Trackpal.Foundation.Runs

/-!
# Polling for a linked phone

The hook `useWhatsAppLinkPolling` asks for the status of the link with an interval, until the
phone is connected, a timeout fires, or its caller ends it. A request that is under way outlives
all of this.
-/

namespace Trackpal.Browser.LinkPolling

open Trackpal.Foundation

/-- What the hook tells its caller. -/
inductive Callback where
  | onStatus (connected : Bool)
  | onConnected
  | onTimeout
  | onError
deriving DecidableEq, Repr

/-- The refs and the state of the hook; a timer is in its ref while it is set. The code does not
have the last two fields: the timers that run and are in no ref, and what was told since polling
was last enabled, latest first. -/
structure Hook where
  enabled : Bool
  mounted : Bool
  stopped : Bool
  calledConnected : Bool
  interval : Bool
  timeout : Bool
  isPolling : Bool
  elapsedMs : Nat
  requests : Nat
  lost : Nat
  told : List Callback
deriving DecidableEq, Repr

namespace Hook

def clearTimers (s : Hook) : Hook := { s with interval := false, timeout := false }

def stop (s : Hook) : Hook := { s.clearTimers with stopped := true, isPolling := false }

/-- `poll`, as far as its request. -/
def poll (s : Hook) : Hook :=
  if s.stopped || !s.mounted then s else { s with requests := s.requests + 1 }

def setTimers (s : Hook) : Hook :=
  { s with
    interval := true
    timeout := true
    lost := s.lost + s.interval.toNat + s.timeout.toNat }

/-- The effect that depends on `enabled`, behind the cleanup of the one before it. -/
def setEnabled (s : Hook) (enabled : Bool) : Hook :=
  let cleaned := if s.enabled then s.clearTimers else s
  if enabled then
    { cleaned with
      enabled := true
      stopped := false
      calledConnected := false
      elapsedMs := 0
      isPolling := true
      told := [] }.poll.setTimers
  else { cleaned with enabled := false }.stop

def mount (enabled : Bool) : Hook :=
  setEnabled ⟨false, true, false, false, false, false, false, 0, 0, 0, []⟩ enabled

def tell (s : Hook) (callback : Callback) : Hook := { s with told := callback :: s.told }

/-- `poll` behind the answer to its request. -/
def answered (s : Hook) (connected : Bool) : Hook :=
  let told := s.tell (.onStatus connected)
  if connected && !s.calledConnected then
    ({ told with calledConnected := true }.tell .onConnected).stop
  else told

end Hook

inductive Action where
  | setEnabled (enabled : Bool)
  | tick
  | fire
  /-- The answer to a request; `none` is a failure. -/
  | answer (connected : Option Bool)
  | stop
  | unmount
deriving DecidableEq, Repr

def step (intervalMs : Nat) (s : Hook) : Action → Option Hook
  | .setEnabled enabled =>
    if s.mounted && s.enabled != enabled then some (s.setEnabled enabled) else none
  | .tick => if s.interval then some { s with elapsedMs := s.elapsedMs + intervalMs }.poll else none
  | .fire =>
    if s.timeout then
      if !s.stopped && s.mounted then
        some ({ s.clearTimers with isPolling := false }.tell .onTimeout)
      else some { s with timeout := false }
    else none
  | .answer connected =>
    if s.requests = 0 then none
    else
      let s := { s with requests := s.requests - 1 }
      if s.stopped || !s.mounted then some s
      else match connected with
        | some connected => some (s.answered connected)
        | none => some (s.tell .onError)
  | .stop => some s.stop
  | .unmount => if s.mounted then some { s.clearTimers with mounted := false } else none

/-- The timers run while the hook polls, none of them is out of reach, and a connection is the
last thing that is told. -/
structure Sound (s : Hook) : Prop where
  interval : s.interval = (s.isPolling && s.mounted)
  timeout : s.timeout = (s.isPolling && s.mounted)
  polling : s.isPolling = true → s.enabled = true ∧ s.stopped = false
  lost : s.lost = 0
  connected : s.told.count .onConnected = s.calledConnected.toNat
  last : s.calledConnected = true → s.stopped = true ∧ s.told.head? = some .onConnected
  timeouts : s.told.count .onTimeout + s.isPolling.toNat ≤ 1

namespace LinkPollingLemmas

variable {s s' : Hook} {intervalMs : Nat}

theorem sound_stop (h : Sound s) : Sound s.stop where
  interval := rfl
  timeout := rfl
  polling := nofun
  lost := h.lost
  connected := h.connected
  last hcalled := ⟨rfl, (h.last hcalled).2⟩
  timeouts := Nat.le_of_add_right_le h.timeouts

theorem sound_poll (h : Sound s) : Sound s.poll := by
  unfold Hook.poll
  split
  · exact h
  · exact ⟨h.interval, h.timeout, h.polling, h.lost, h.connected, h.last, h.timeouts⟩

/-- A hook that is not enabled has no timer, so that its effect loses none. -/
theorem sound_setEnabled (h : Sound s) (hmounted : s.mounted = true) (enabled : Bool) :
    Sound (s.setEnabled enabled) := by
  have hidle : ∃ cleaned, (if s.enabled then s.clearTimers else s) = cleaned ∧
      cleaned = s.clearTimers := by
    refine ⟨_, rfl, ?_⟩
    cases henabled : s.enabled with
    | true => rfl
    | false =>
      have hpolling : s.isPolling = false := Bool.eq_false_iff.mpr fun hpolling =>
        Bool.false_ne_true (henabled.symm.trans (h.polling hpolling).1)
      have hinterval := h.interval
      have htimeout := h.timeout
      rw [hpolling, Bool.false_and] at hinterval htimeout
      cases s
      cases hinterval
      cases htimeout
      rfl
  obtain ⟨cleaned, hcleaned, rfl⟩ := hidle
  unfold Hook.setEnabled
  rw [hcleaned]
  cases enabled with
  | true =>
    simp only [Hook.poll, Hook.clearTimers, hmounted, if_true, Bool.false_or, Bool.not_true,
      Bool.false_eq_true, if_false]
    exact ⟨by simp [Hook.setTimers], by simp [Hook.setTimers], fun _ => ⟨rfl, rfl⟩, h.lost, rfl,
      nofun, Nat.le_refl 1⟩
  | false =>
    exact ⟨rfl, rfl, nofun, h.lost, h.connected, fun hcalled => ⟨rfl, (h.last hcalled).2⟩,
      Nat.le_of_add_right_le h.timeouts⟩

theorem sound_answered (h : Sound s) (hstopped : s.stopped = false) (connected : Bool) :
    Sound (s.answered connected) := by
  have hcalled : s.calledConnected = false := Bool.eq_false_iff.mpr fun hcalled =>
    Bool.false_ne_true (hstopped.symm.trans (h.last hcalled).1)
  have hnone := h.connected
  rw [hcalled] at hnone
  unfold Hook.answered
  rw [hcalled]
  cases connected with
  | true =>
    exact ⟨rfl, rfl, nofun, h.lost, by simp [Hook.stop, Hook.clearTimers, Hook.tell, hnone],
      fun _ => ⟨rfl, rfl⟩, by
        have htimeouts := h.timeouts
        simp [Hook.stop, Hook.clearTimers, Hook.tell]
        omega⟩
  | false =>
    exact ⟨h.interval, h.timeout, h.polling, h.lost, by simp [Hook.tell, hnone, hcalled],
      fun hcalled' => absurd (hcalled.symm.trans hcalled') Bool.false_ne_true, by
        simpa [Hook.tell] using h.timeouts⟩

theorem sound_step {a : Action} (h : Sound s) (hstep : step intervalMs s a = some s') :
    Sound s' := by
  unfold step at hstep
  cases a with
  | setEnabled enabled =>
    dsimp only at hstep
    split at hstep
    · next hguard =>
      cases hstep
      exact sound_setEnabled h (Bool.and_eq_true_iff.mp hguard).1 enabled
    · cases hstep
  | tick =>
    dsimp only at hstep
    split at hstep
    · cases hstep
      exact sound_poll ⟨h.interval, h.timeout, h.polling, h.lost, h.connected, h.last, h.timeouts⟩
    · cases hstep
  | fire =>
    dsimp only at hstep
    split at hstep
    · next hset =>
      have hrunning := Bool.and_eq_true_iff.mp (h.timeout.symm.trans hset)
      have hstopped := (h.polling hrunning.1).2
      rw [if_pos (by rw [hstopped, hrunning.2]; rfl)] at hstep
      cases hstep
      refine ⟨rfl, rfl, nofun, h.lost, ?_, fun hcalled => ?_, ?_⟩
      · simpa [Hook.tell, Hook.clearTimers] using h.connected
      · exact absurd (hstopped.symm.trans (h.last hcalled).1) Bool.false_ne_true
      · have htimeouts := h.timeouts
        rw [hrunning.1] at htimeouts
        simpa [Hook.tell, Hook.clearTimers] using htimeouts
    · cases hstep
  | answer connected =>
    dsimp only at hstep
    split at hstep
    · cases hstep
    have hsound : Sound { s with requests := s.requests - 1 } :=
      ⟨h.interval, h.timeout, h.polling, h.lost, h.connected, h.last, h.timeouts⟩
    split at hstep
    · cases hstep
      exact hsound
    · next hguard =>
      rw [Bool.or_eq_true, not_or] at hguard
      have hstopped := Bool.eq_false_iff.mpr hguard.1
      cases connected with
      | some connected =>
        cases hstep
        exact sound_answered hsound hstopped connected
      | none =>
        cases hstep
        exact ⟨h.interval, h.timeout, h.polling, h.lost, by simpa [Hook.tell] using h.connected,
          fun hcalled => absurd (hstopped.symm.trans (h.last hcalled).1) Bool.false_ne_true, by
            simpa [Hook.tell] using h.timeouts⟩
  | stop =>
    cases hstep
    exact sound_stop h
  | unmount =>
    dsimp only at hstep
    split at hstep
    · cases hstep
      exact ⟨(Bool.and_false _).symm, (Bool.and_false _).symm, h.polling, h.lost, h.connected,
        h.last, h.timeouts⟩
    · cases hstep

/-- Before it is enabled again, a hook that does not poll sends no request. -/
theorem quiet_step {a : Action} (h : Sound s) (hidle : s.isPolling = false)
    (ha : a ≠ .setEnabled true) (hstep : step intervalMs s a = some s') :
    s'.requests ≤ s.requests ∧ s'.isPolling = false := by
  have hinterval := h.interval
  have htimeout := h.timeout
  rw [hidle, Bool.false_and] at hinterval htimeout
  unfold step at hstep
  cases a with
  | setEnabled enabled =>
    cases enabled with
    | true => exact absurd rfl ha
    | false =>
      dsimp only at hstep
      split at hstep <;> cases hstep
      unfold Hook.setEnabled
      split <;> exact ⟨Nat.le_refl _, rfl⟩
  | tick =>
    rw [hinterval] at hstep
    cases hstep
  | fire =>
    rw [htimeout] at hstep
    cases hstep
  | answer connected =>
    dsimp only at hstep
    split at hstep
    · cases hstep
    split at hstep
    · cases hstep
      exact ⟨Nat.sub_le _ _, hidle⟩
    cases connected with
    | some connected =>
      cases hstep
      unfold Hook.answered
      split
      · exact ⟨Nat.sub_le _ _, rfl⟩
      · exact ⟨Nat.sub_le _ _, hidle⟩
    | none =>
      cases hstep
      exact ⟨Nat.sub_le _ _, hidle⟩
  | stop =>
    cases hstep
    exact ⟨Nat.le_refl _, rfl⟩
  | unmount =>
    dsimp only at hstep
    split at hstep <;> cases hstep
    exact ⟨Nat.le_refl _, hidle⟩

end LinkPollingLemmas

open LinkPollingLemmas

/-- In every run of renders, timers, answers and calls of the hook: its timers are set exactly
while it polls and is mounted, and no other one runs; since it was last enabled it told a
connection and a timeout once at most, and nothing after a connection; and while it does not poll,
only being enabled makes it send a request. -/
theorem polling_sound {intervalMs : Nat} {enabled : Bool} {s : Hook}
    (h : Reaches (step intervalMs) Always (Hook.mount enabled) s) :
    (s.interval = (s.isPolling && s.mounted) ∧ s.timeout = (s.isPolling && s.mounted) ∧
      s.lost = 0) ∧
    s.told.count .onTimeout ≤ 1 ∧ s.told.count .onConnected ≤ 1 ∧
    (.onConnected ∈ s.told → s.stopped = true ∧ s.told.head? = some .onConnected) ∧
    (s.isPolling = false → ∀ a s', a ≠ .setEnabled true → step intervalMs s a = some s' →
      s'.requests ≤ s.requests ∧ s'.isPolling = false) := by
  have hsound : Sound s := h.invariant
    (sound_setEnabled (s := ⟨false, true, false, false, false, false, false, 0, 0, 0, []⟩)
      ⟨rfl, rfl, fun hpolling => absurd hpolling Bool.false_ne_true, rfl, rfl,
        fun hcalled => absurd hcalled Bool.false_ne_true, Nat.zero_le _⟩ rfl enabled)
    fun _ _ _ hs _ hstep => sound_step hs hstep
  refine ⟨⟨hsound.interval, hsound.timeout, hsound.lost⟩,
    Nat.le_of_add_right_le hsound.timeouts, ?_, fun htold => hsound.last ?_,
    fun hidle _ _ ha hstep => quiet_step hsound hidle ha hstep⟩
  · rw [hsound.connected]
    exact Bool.toNat_le _
  · have hcount := hsound.connected ▸ List.count_pos_iff.mpr htold
    cases hcalled : s.calledConnected with
    | true => rfl
    | false =>
      rw [hcalled] at hcount
      exact absurd hcount (Nat.lt_irrefl 0)

/-- The answer to the first request tells the connection, and the second one is not told. -/
theorem connection_told_once : ∃ s,
    Reaches (step 5000) Always (Hook.mount true) s ∧
      s.told = [.onConnected, .onStatus true] ∧ s.told.count .onConnected ≤ 1 := by
  obtain ⟨s, hs⟩ : ∃ s, exec (step 5000) (Hook.mount true)
      [.tick, .answer (some true), .answer (some true)] = some s := ⟨_, rfl⟩
  have hrun := reaches_of_exec hs
  refine ⟨s, hrun, ?_, (polling_sound hrun).2.2.1⟩
  cases hs
  rfl

end Trackpal.Browser.LinkPolling
