import Trackpal.Redis.Failover

/-!
# The breaker under overlapping calls

The state in which a call starts decides its route, while the outcomes of other calls change the
state before it comes back. What the history has of the starts and the openings still decides
which calls touch the primary.

Results:
1. `sound_of_reaches`: how the state and the routes follow from the history.
2. `breaker_of_reaches`.
-/

namespace Trackpal.Redis

open Trackpal.Foundation FailoverLemmas

variable {settings : Settings} {p : Event → List Event → Prop} {history : List Event}
  {policy : FailoverPolicy} {now now' : Int} {pid : Nat} {w w' : World} {a : Action}

/-! ## The routes of the calls -/

/-- The policy tracks the history, a call that started within an open window goes to the backup,
and the first one after it to the primary. -/
structure Sound (settings : Settings) (w : World) : Prop where
  tracks : Tracks settings w.policy w.now w.history
  old : ∀ pid, (∃ now, .started pid now ∈ w.history) ∨ .touched pid ∈ w.history →
    pid < w.calls.list.length
  opened : ∀ openedAt, .opened openedAt ∈ w.history → settings.hasPrimary = true
  sent : ∀ pid route, w.calls.get pid = some (.sent route) → route ≠ .backup →
    settings.hasPrimary = true
  within : ∀ pid, StartedWithin settings pid w.history → .touched pid ∉ w.history ∧
    ∀ route, w.calls.get pid = some (.routed route) ∨ w.calls.get pid = some (.sent route) →
      route = .backup
  first : ∀ pid, FirstAfter settings pid w.history →
    .touched pid ∈ w.history ∨ w.calls.get pid = some (.routed .probe)

namespace BreakerLemmas

theorem somewhere_append {events : List Event}
    (h : ∀ e ∈ events, ∀ earlier, ¬p e earlier) :
    Somewhere p (events ++ history) ↔ Somewhere p history := by
  induction events with
  | nil => rfl
  | cons e events ih =>
    rw [List.forall_mem_cons] at h
    rw [List.cons_append, somewhere_cons, ih h.2]
    exact or_iff_right (h.1 _)

theorem sound_put (h : Sound settings w) {policy' : FailoverPolicy} {events : List Event}
    {call next : Call} (hget : w.calls.get pid = some call)
    (htracks : Tracks settings policy' now' (events ++ w.history))
    (hstarts : ∀ e ∈ events, ∀ pid t, e ≠ .started pid t)
    (htouches : ∀ pid', .touched pid' ∈ events → pid' = pid ∧ ∃ route ≠ .backup, call = .routed route)
    (hopens : ∀ t, .opened t ∈ events → settings.hasPrimary = true)
    (hrouted : ∀ route, next = .routed route → route = .backup)
    (hsent : ∀ route, next = .sent route → call = .routed route ∧
      (route ≠ .backup → settings.hasPrimary = true))
    (hprobe : call = .routed .probe → settings.hasPrimary = true → .touched pid ∈ events) :
    Sound settings ⟨policy', w.calls.put pid (some next), now', events ++ w.history⟩ where
  tracks := htracks
  old pid' hmem := by
    have hold : pid' < w.calls.list.length := by
      rcases hmem with ⟨t, hmem⟩ | hmem
      · rcases List.mem_append.mp hmem with hnew | hold
        · exact absurd rfl (hstarts _ hnew pid' t)
        · exact h.old pid' (Or.inl ⟨t, hold⟩)
      · rcases List.mem_append.mp hmem with hnew | hold
        · obtain ⟨rfl, -⟩ := htouches pid' hnew
          exact Threads.lt_of_get hget
        · exact h.old pid' (Or.inr hold)
    simpa [Threads.put] using hold
  opened t hmem := by
    rcases List.mem_append.mp hmem with hnew | hold
    · exact hopens t hnew
    · exact h.opened t hold
  sent pid' route hsent' hne := by
    by_cases hpid : pid' = pid
    · rw [hpid, Threads.get_put_self hget] at hsent'
      exact (hsent route (Option.some.inj hsent')).2 hne
    · rw [Threads.get_put_of_ne hpid] at hsent'
      exact h.sent pid' route hsent' hne
  within pid' hwithin := by
    have hold : StartedWithin settings pid' w.history := by
      refine (somewhere_append fun e he earlier => ?_).mp hwithin
      rintro ⟨t, _, heq, -⟩
      exact hstarts e he pid' t heq
    obtain ⟨htouched, hroute⟩ := h.within pid' hold
    refine ⟨fun hmem => ?_, fun route hor => ?_⟩
    · rcases List.mem_append.mp hmem with hnew | hmem
      · obtain ⟨rfl, route, hne, rfl⟩ := htouches pid' hnew
        exact hne (hroute route (Or.inl hget))
      · exact htouched hmem
    · by_cases hpid : pid' = pid
      · subst hpid
        rw [Threads.get_put_self hget] at hor
        rcases hor with hor | hor
        · exact hrouted route (Option.some.inj hor)
        · obtain ⟨rfl, -⟩ := hsent route (Option.some.inj hor)
          exact hroute route (Or.inl hget)
      · rw [Threads.get_put_of_ne hpid] at hor
        exact hroute route hor
  first pid' hfirst := by
    have hold : FirstAfter settings pid' w.history := by
      refine (somewhere_append fun e he earlier => ?_).mp hfirst
      rintro ⟨t, _, heq, -⟩
      exact hstarts e he pid' t heq
    rcases h.first pid' hold with htouched | hroute
    · exact Or.inl (List.mem_append_right _ htouched)
    · by_cases hpid : pid' = pid
      · subst hpid
        rw [hget] at hroute
        -- the breaker has opened, so that there is a primary
        obtain ⟨later, e, earlier, heq, t, openedAt, -, hcurrent, -⟩ := hold
        have hmem : .opened openedAt ∈ w.history := by
          rw [heq]
          exact List.mem_append_right _ (List.mem_cons_of_mem _ (mem_of_current hcurrent))
        exact Or.inl (List.mem_append_left _
          (hprobe (Option.some.inj hroute) (h.opened openedAt hmem)))
      · exact Or.inr (by rw [Threads.get_put_of_ne hpid]; exact hroute)

theorem sound_start (h : Sound settings w) (hnow : w.now ≤ now) :
    Sound settings
      { policy := w.policy.checkOpenWindow settings now
        calls := w.calls.spawn (.routed (w.policy.checkOpenWindow settings now).state.route)
        now := now
        history := .started w.calls.list.length now :: w.history } where
  tracks := tracks_start h.tracks hnow
  old pid hmem := by
    have hlen : (w.calls.spawn (.routed
        (w.policy.checkOpenWindow settings now).state.route)).list.length =
          w.calls.list.length + 1 := List.length_append
    rw [hlen]
    rcases hmem with ⟨t, hmem⟩ | hmem
    · rcases List.mem_cons.mp hmem with heq | hold
      · cases heq
        exact Nat.lt_succ_self _
      · exact Nat.lt_succ_of_lt (h.old pid (Or.inl ⟨t, hold⟩))
    · rcases List.mem_cons.mp hmem with heq | hold
      · cases heq
      · exact Nat.lt_succ_of_lt (h.old pid (Or.inr hold))
  opened t hmem := by
    rcases List.mem_cons.mp hmem with heq | hold
    · cases heq
    · exact h.opened t hold
  sent pid route hsent hne := by
    rcases Threads.get_spawn.mp hsent with hold | ⟨-, heq⟩
    · exact h.sent pid route hold hne
    · cases heq
  within pid hwithin := by
    rcases somewhere_cons.mp hwithin with ⟨t, openedAt, heq, hopened, hearly⟩ | hold
    · cases heq
      obtain ⟨hstate, hopenedAt⟩ :=
        state_of_current h.tracks (current_of_opened (tracks_later h.tracks hnow) hopened hearly)
      have hpolicy : w.policy.checkOpenWindow settings now = w.policy := by
        unfold FailoverPolicy.checkOpenWindow
        rw [hstate, hopenedAt]
        exact if_neg (by omega)
      rw [hpolicy, hstate]
      refine ⟨fun hmem => ?_, fun route hor => ?_⟩
      · rcases List.mem_cons.mp hmem with heq | hold
        · cases heq
        · exact Nat.lt_irrefl _ (h.old _ (Or.inr hold))
      · rcases hor with hor | hor
        · rcases Threads.get_spawn.mp hor with hold | ⟨-, heq⟩
          · exact absurd (Threads.lt_of_get hold) (Nat.lt_irrefl _)
          · cases heq
            rfl
        · rcases Threads.get_spawn.mp hor with hold | ⟨-, heq⟩
          · exact absurd (Threads.lt_of_get hold) (Nat.lt_irrefl _)
          · cases heq
    · obtain ⟨htouched, hroute⟩ := h.within pid hold
      have hpid : pid ≠ w.calls.list.length := by
        obtain ⟨later, e, earlier, heq, t, openedAt, rfl, -⟩ := hold
        refine Nat.ne_of_lt (h.old pid (Or.inl ⟨t, ?_⟩))
        rw [heq]
        exact List.mem_append_right _ List.mem_cons_self
      refine ⟨fun hmem => ?_, fun route hor => hroute route ?_⟩
      · rcases List.mem_cons.mp hmem with heq | hold
        · cases heq
        · exact htouched hold
      · exact hor.imp (fun hget => (Threads.get_spawn.mp hget).resolve_right fun hnew => hpid hnew.1)
          fun hget => (Threads.get_spawn.mp hget).resolve_right fun hnew => hpid hnew.1
  first pid hfirst := by
    rcases somewhere_cons.mp hfirst with ⟨t, openedAt, heq, hcurrent, hpassed⟩ | hold
    · cases heq
      obtain ⟨hstate, hopenedAt⟩ := state_of_current h.tracks hcurrent
      have hpolicy : (w.policy.checkOpenWindow settings now).state = .halfOpen := by
        unfold FailoverPolicy.checkOpenWindow
        rw [hstate, hopenedAt]
        exact congrArg FailoverPolicy.state (if_pos (by omega))
      rw [hpolicy]
      exact Or.inr (Threads.get_spawn.mpr (Or.inr ⟨rfl, rfl⟩))
    · rcases h.first pid hold with htouched | hroute
      · exact Or.inl (List.mem_cons_of_mem _ htouched)
      · exact Or.inr (Threads.get_spawn.mpr (Or.inl hroute))

theorem of_start (h : step settings w (.start now) = some w') : w.now ≤ now ∧ w' =
    { policy := w.policy.checkOpenWindow settings now
      calls := w.calls.spawn (.routed (w.policy.checkOpenWindow settings now).state.route)
      now := now
      history := .started w.calls.list.length now :: w.history } := by
  simp only [step, Option.ite_none_right_eq_some, Option.some.injEq] at h
  exact ⟨h.1, h.2.symm⟩

theorem of_send (h : step settings w (.send pid) = some w') :
    ∃ route, w.calls.get pid = some (.routed route) ∧
      (route ≠ .backup ∧ settings.hasPrimary = true ∧
          w' = { w with
            calls := w.calls.put pid (some (.sent route))
            history := .touched pid :: w.history } ∨
        ∃ next, (next = .sent .backup ∧ route = .backup ∨
            next = .unconfigured ∧ (route = .backup ∨ settings.hasPrimary = false)) ∧
          w' = { w with calls := w.calls.put pid (some next) }) := by
  simp only [step] at h
  split at h
  · next hget =>
    cases h
    refine ⟨.backup, hget, Or.inr ⟨_, ?_, rfl⟩⟩
    split
    · exact Or.inl ⟨rfl, rfl⟩
    · exact Or.inr ⟨rfl, Or.inl rfl⟩
  · next route hne hget =>
    refine ⟨route, hget, ?_⟩
    split at h
    · next hprimary =>
      cases h
      exact Or.inl ⟨hne, hprimary, rfl⟩
    · next hprimary =>
      cases h
      exact Or.inr ⟨_, Or.inr ⟨rfl, Or.inr (by simpa using hprimary)⟩, rfl⟩
  · cases h

theorem of_finish {outcome : Outcome} (h : step settings w (.finish pid outcome now) = some w') :
    w.now ≤ now ∧ ∃ route, w.calls.get pid = some (.sent route) ∧
      (route = .backup ∧
          w' = { w with calls := w.calls.put pid (some outcome.fromBackup), now := now } ∨
        route ≠ .backup ∧ w' = w.record settings pid route now outcome) := by
  simp only [step] at h
  split at h
  · next hnow =>
    split at h
    · next hget =>
      cases h
      exact ⟨hnow, .backup, hget, Or.inl ⟨rfl, rfl⟩⟩
    · next route hne hget =>
      cases h
      exact ⟨hnow, route, hget, Or.inr ⟨hne, rfl⟩⟩
    · cases h
  · cases h

theorem not_started_failure {policy' : FailoverPolicy} {t : Int} :
    .started pid t ∉ failure policy policy' now := by
  unfold failure
  split <;> simp

theorem not_touched_failure {policy' : FailoverPolicy} :
    .touched pid ∉ failure policy policy' now := by
  unfold failure
  split <;> simp

end BreakerLemmas

open BreakerLemmas

theorem sound_step (hthreshold : 1 ≤ settings.failureThreshold) (h : Sound settings w)
    (hstep : step settings w a = some w') : Sound settings w' := by
  cases a with
  | start now =>
    obtain ⟨hnow, rfl⟩ := of_start hstep
    exact sound_start h hnow
  | send pid =>
    obtain ⟨route, hget, ⟨hne, hprimary, rfl⟩ | ⟨next, hnext, rfl⟩⟩ := of_send hstep
    · have htracks : Tracks settings w.policy w.now ([Event.touched pid] ++ w.history) :=
        tracks_touch h.tracks
      refine sound_put h hget htracks (by simp) ?_ (by simp) (by simp) ?_ (by simp)
      · intro pid' hmem
        cases List.mem_singleton.mp hmem
        exact ⟨rfl, route, hne, rfl⟩
      · rintro route' heq
        cases heq
        exact ⟨rfl, fun _ => hprimary⟩
    · have htracks : Tracks settings w.policy w.now ([] ++ w.history) := h.tracks
      refine sound_put h hget htracks (by simp) (by simp) (by simp) ?_ ?_ ?_
      · rintro route' rfl
        rcases hnext with ⟨heq, -⟩ | ⟨heq, -⟩ <;> cases heq
      · rintro route' rfl
        rcases hnext with ⟨heq, rfl⟩ | ⟨heq, -⟩
        · cases heq
          exact ⟨rfl, fun hne => absurd rfl hne⟩
        · cases heq
      · rintro heq hprimary
        cases heq
        rcases hnext with ⟨-, heq⟩ | ⟨-, heq | hnone⟩
        · cases heq
        · cases heq
        · rw [hprimary] at hnone
          cases hnone
  | finish pid outcome now =>
    obtain ⟨hnow, route, hget, ⟨rfl, rfl⟩ | ⟨hne, rfl⟩⟩ := of_finish hstep
    · have htracks : Tracks settings w.policy now ([] ++ w.history) := tracks_later h.tracks hnow
      refine sound_put h hget htracks (by simp) (by simp) (by simp) ?_ ?_ nofun
      · rintro route' heq
        cases outcome <;> cases heq
      · rintro route' heq
        cases outcome <;> cases heq
    · have hprimary := h.sent pid route hget hne
      cases outcome with
      | success =>
        have htracks : Tracks settings w.policy.recordSuccess now ([Event.succeeded] ++ w.history) :=
          tracks_success hthreshold (tracks_later h.tracks hnow)
        exact sound_put h hget htracks (by simp) (by simp) (by simp) nofun nofun nofun
      | other =>
        have htracks : Tracks settings w.policy now ([] ++ w.history) := tracks_later h.tracks hnow
        exact sound_put h hget htracks (by simp) (by simp) (by simp) nofun nofun nofun
      | infra =>
        refine sound_put h hget (tracks_failure (tracks_later h.tracks hnow)) ?_ ?_
          (fun _ _ => hprimary) ?_ ?_ nofun
        · rintro e he pid' t rfl
          exact not_started_failure he
        · exact fun pid' hmem => absurd hmem not_touched_failure
        · rintro route' heq
          split at heq
          · cases heq
            rfl
          · cases heq
        · rintro route' heq
          split at heq <;> cases heq

theorem sound_initial (hthreshold : 1 ≤ settings.failureThreshold) :
    Sound settings (World.initial now) where
  tracks := tracks_initial hthreshold
  old pid h := by
    rcases h with ⟨t, h⟩ | h <;> cases h
  opened t h := by cases h
  sent pid route h := by cases h
  within pid h := by
    obtain ⟨later, e, earlier, heq, -⟩ := h
    exact absurd heq.symm (by simp [World.initial])
  first pid h := by
    obtain ⟨later, e, earlier, heq, -⟩ := h
    exact absurd heq.symm (by simp [World.initial])

theorem sound_of_reaches (hthreshold : 1 ≤ settings.failureThreshold)
    (h : Reaches (step settings) Always (World.initial now) w) : Sound settings w :=
  h.invariant (sound_initial hthreshold) fun _ _ _ hs _ => sound_step hthreshold hs

/-! ## The breaker -/

def BackupWorks (w : World) (a : Action) : Prop :=
  ∀ pid now, a = .finish pid .infra now → w.calls.get pid ≠ some (.sent .backup)

namespace BreakerLemmas

theorem take_of_takeWhile {l : List Bool} {n : Nat} (h : (l.takeWhile id).length = n) :
    l.take n = List.replicate n true := by
  induction l generalizing n with
  | nil =>
    cases h
    rfl
  | cons b l ih =>
    cases b with
    | false =>
      cases h
      rfl
    | true =>
      subst h
      exact congrArg (true :: ·) (ih rfl)

theorem of_opening (h : Sound settings w) (hstep : step settings w a = some w')
    (hnot : w.policy.state ≠ .open) (hopen : w'.policy.state = .open) :
    (∃ pid route now, a = .finish pid .infra now ∧ w.calls.get pid = some (.sent route) ∧
        route ≠ .backup) ∧
      (w.policy.state = .halfOpen ∨ (outcomes w'.history).take settings.failureThreshold =
        List.replicate settings.failureThreshold true) := by
  cases a with
  | start now =>
    obtain ⟨-, rfl⟩ := of_start hstep
    exfalso
    revert hopen
    show (w.policy.checkOpenWindow settings now).state ≠ .open
    unfold FailoverPolicy.checkOpenWindow
    split
    · split
      · exact nofun
      · exact hnot
    · exact hnot
  | send pid =>
    obtain ⟨route, -, ⟨-, -, rfl⟩ | ⟨next, -, rfl⟩⟩ := of_send hstep
    · exact absurd hopen hnot
    · exact absurd hopen hnot
  | finish pid outcome now =>
    obtain ⟨-, route, hget, ⟨-, rfl⟩ | ⟨hne, rfl⟩⟩ := of_finish hstep
    · exact absurd hopen hnot
    · cases outcome with
      | success =>
        exfalso
        revert hopen
        show w.policy.recordSuccess.state ≠ .open
        unfold FailoverPolicy.recordSuccess
        split
        · exact nofun
        · exact hnot
      | other => exact absurd hopen hnot
      | infra =>
        refine ⟨⟨pid, route, now, rfl, hget, hne⟩, ?_⟩
        rcases recordFailure_cases settings w.policy now with
          ⟨hhalf | ⟨hclosed, hmet⟩, -, hevents⟩ | ⟨-, hpolicy, -⟩
        · exact Or.inl hhalf
        · right
          have hfew := h.tracks.few hclosed
          have hfull : w.policy.consecutiveFailures + 1 = settings.failureThreshold := by omega
          show (outcomes (failure w.policy _ now ++ w.history)).take _ = _
          rw [hevents]
          refine take_of_takeWhile ?_
          rw [← hfull, h.tracks.counted]
          rfl
        · have hsame : (w.policy.recordFailure settings now).state = w.policy.state := by
            rw [hpolicy]
          exact absurd (hsame.symm.trans hopen) hnot

theorem of_unavailable (hbackup : settings.hasBackup = true) (hworks : BackupWorks w a)
    (hstep : step settings w a = some w') (hbefore : w.calls.get pid ≠ some .unavailable)
    (hafter : w'.calls.get pid = some .unavailable) :
    w'.policy.state = .closed ∧
      ∃ now, a = .finish pid .infra now ∧ w.calls.get pid = some (.sent .primary) := by
  -- only the call of the action moves
  have hmoved : ∀ {pid' : Nat} {call next : Call}, w.calls.get pid' = some call →
      (w.calls.put pid' (some next)).get pid = some .unavailable →
        pid = pid' ∧ next = .unavailable := by
    intro pid' call next hget hput
    by_cases hpid : pid = pid'
    · subst hpid
      rw [Threads.get_put_self hget] at hput
      exact ⟨rfl, Option.some.inj hput⟩
    · rw [Threads.get_put_of_ne hpid] at hput
      exact absurd hput hbefore
  cases a with
  | start now =>
    obtain ⟨-, rfl⟩ := of_start hstep
    rcases Threads.get_spawn.mp hafter with hold | ⟨-, heq⟩
    · exact absurd hold hbefore
    · cases heq
  | send pid' =>
    obtain ⟨route, hget, ⟨-, -, rfl⟩ | ⟨next, hnext, rfl⟩⟩ := of_send hstep
    · cases (hmoved hget hafter).2
    · rcases hnext with ⟨rfl, -⟩ | ⟨rfl, -⟩
      · cases (hmoved hget hafter).2
      · cases (hmoved hget hafter).2
  | finish pid' outcome now =>
    obtain ⟨-, route, hget, ⟨rfl, rfl⟩ | ⟨hne, rfl⟩⟩ := of_finish hstep
    · have hunavailable := (hmoved hget hafter).2
      cases outcome with
      | success => cases hunavailable
      | other => cases hunavailable
      | infra => exact absurd hget (hworks pid' now rfl)
    · cases outcome with
      | success => cases (hmoved hget hafter).2
      | other => cases (hmoved hget hafter).2
      | infra =>
        obtain ⟨rfl, hnext⟩ := hmoved hget hafter
        have hstays : settings.fallsBack route (w.policy.recordFailure settings now).state = false := by
          cases hback : settings.fallsBack route (w.policy.recordFailure settings now).state with
          | false => rfl
          | true =>
            rw [hback] at hnext
            cases hnext
        rw [Settings.fallsBack, hbackup, Bool.true_and, Bool.or_eq_false_iff] at hstays
        simp only [decide_eq_false_iff_not] at hstays
        obtain ⟨hprobe, hnotOpen⟩ := hstays
        have hroute : route = .primary := by
          cases route with
          | primary => rfl
          | probe => exact absurd rfl hprobe
          | backup => exact absurd rfl hne
        refine ⟨?_, now, rfl, hroute ▸ hget⟩
        show (w.policy.recordFailure settings now).state = .closed
        rcases recordFailure_cases settings w.policy now with
          ⟨-, hpolicy, -⟩ | ⟨hstate, hpolicy, -⟩
        · rw [hpolicy] at hnotOpen
          exact absurd rfl hnotOpen
        · rw [hpolicy] at hnotOpen ⊢
          exact (hstate.resolve_left hnotOpen).1

end BreakerLemmas

/-- In every state that overlapping calls reach: the time of opening is set in the open state only,
and fewer failures than the threshold are counted in the closed one; only so many failures of the
primary in a row, or one in the half-open state, open the breaker; a call that starts within the
open window does not touch the primary, and the first one after it does; and with a backup that
works, a call raises only where the breaker is closed after its failure was recorded. -/
theorem breaker_of_reaches (hthreshold : 1 ≤ settings.failureThreshold)
    (h : Reaches (step settings) Always (World.initial now) w) :
    ((w.policy.openedAt.isSome = true ↔ w.policy.state = .open) ∧
      (w.policy.state = .closed → w.policy.consecutiveFailures < settings.failureThreshold)) ∧
    (∀ a w', step settings w a = some w' → w.policy.state ≠ .open → w'.policy.state = .open →
      (∃ pid route now, a = .finish pid .infra now ∧ w.calls.get pid = some (.sent route) ∧
        route ≠ .backup) ∧
      (w.policy.state = .halfOpen ∨ (outcomes w'.history).take settings.failureThreshold =
        List.replicate settings.failureThreshold true)) ∧
    ((∀ pid, StartedWithin settings pid w.history → .touched pid ∉ w.history) ∧
      ∀ pid, FirstAfter settings pid w.history → .touched pid ∈ w.history ∨
        w.calls.get pid = some (.routed .probe) ∧
          ∀ w', step settings w (.send pid) = some w' → .touched pid ∈ w'.history) ∧
    (settings.hasBackup = true → ∀ a w' pid, BackupWorks w a → step settings w a = some w' →
      w.calls.get pid ≠ some .unavailable → w'.calls.get pid = some .unavailable →
        w'.policy.state = .closed ∧
          ∃ now, a = .finish pid .infra now ∧ w.calls.get pid = some (.sent .primary)) := by
  have hsound := sound_of_reaches hthreshold h
  refine ⟨⟨hsound.tracks.opened_iff, hsound.tracks.few⟩, fun a w' => of_opening hsound, ⟨?_, ?_⟩,
    fun hbackup a w' pid => of_unavailable hbackup⟩
  · exact fun pid hwithin => (hsound.within pid hwithin).1
  · intro pid hfirst
    refine (hsound.first pid hfirst).imp_right fun hget => ⟨hget, fun w' hstep => ?_⟩
    obtain ⟨later, e, earlier, heq, t, openedAt, -, hcurrent, -⟩ := id hfirst
    have hopened : .opened openedAt ∈ w.history := by
      rw [heq]
      exact List.mem_append_right _ (List.mem_cons_of_mem _ (mem_of_current hcurrent))
    have hprimary := hsound.opened openedAt hopened
    obtain ⟨route, hroute, ⟨-, -, rfl⟩ | ⟨next, hnext, -⟩⟩ := of_send hstep
    · exact List.mem_cons_self
    · rw [hget] at hroute
      cases hroute
      rcases hnext with ⟨-, heq⟩ | ⟨-, heq | hnone⟩
      · cases heq
      · cases heq
      · rw [hprimary] at hnone
        cases hnone

def exSettings : Settings where
  failureThreshold := 1
  openWindowSeconds := 30
  hasPrimary := true
  hasBackup := true

def exActions : List Action :=
  [.start 0, .start 0, .send 0, .send 1, .finish 0 .infra 5, .finish 1 .success 6, .start 20,
    .start 35]

def exWorld : World :=
  (exec (step exSettings) (World.initial 0) exActions).getD (World.initial 0)

theorem exWorld_reached : Reaches (step exSettings) Always (World.initial 0) exWorld :=
  have hexec : exec (step exSettings) (World.initial 0) exActions = some exWorld := by rfl
  reaches_of_exec hexec

theorem exWorld_probes : StartedWithin exSettings 2 exWorld.history ∧
    FirstAfter exSettings 3 exWorld.history ∧ .touched 2 ∉ exWorld.history ∧
      exWorld.calls.get 3 = some (.routed .probe) := by
  have hwithin : StartedWithin exSettings 2 exWorld.history :=
    ⟨[.started 3 35], .started 2 20, _, rfl, 20, 5, rfl, by decide, by decide⟩
  have hfirst : FirstAfter exSettings 3 exWorld.history :=
    ⟨[], .started 3 35, _, rfl, 35, 5, rfl, ⟨[.started 2 20, .succeeded], _, rfl, by
      intro pid now hmem
      simp only [List.mem_cons, Event.started.injEq, reduceCtorEq, List.not_mem_nil, or_false] at hmem
      obtain ⟨-, rfl⟩ := hmem
      decide⟩, by decide⟩
  obtain ⟨-, -, ⟨hshielded, hprobes⟩, -⟩ :=
    breaker_of_reaches (show 1 ≤ exSettings.failureThreshold by decide) exWorld_reached
  exact ⟨hwithin, hfirst, hshielded 2 hwithin,
    ((hprobes 3 hfirst).resolve_left (by decide)).1⟩

end Trackpal.Redis
