import Trackpal.Coordinator.DeliveryLog
import Trackpal.Coordinator.Machine

/-!
# The cleanup of the delivery log

`run_cleanup_once` of `mailbox_cleanup.py`, which runs beside the lookups once an hour.

Results:
1. `deliveries_retained`: no pass hides a delivery from a lookup whose window lies within the
   retention, and a code is delivered again only after it.
-/

namespace Trackpal.Coordinator

open Trackpal.Protocol Trackpal.Foundation

/-- The setting of the cleanup for the log, in microseconds. -/
structure CleanupSettings where
  logRetention : Int
deriving DecidableEq, Repr

def isOlder (cutoff : Int) (entry : MailCodeDeliveryLog) : Bool := entry.deliveredAt < cutoff

def deleteOlderThan (cutoff : Int) (log : List MailCodeDeliveryLog) :
    List MailCodeDeliveryLog × Nat :=
  (log.filter fun entry => !isOlder cutoff entry, log.countP (isOlder cutoff))

/-- The delivery log and the clock. `history`, which the code does not have, is every entry that
was inserted, with the time of its insertion, latest first. -/
structure DeliveryState where
  log : List MailCodeDeliveryLog
  history : List (Int × MailCodeDeliveryLog)
  now : Int
deriving DecidableEq, Repr

namespace DeliveryState

def initial (now : Int) : DeliveryState := ⟨[], [], now⟩

def entries (s : DeliveryState) : List MailCodeDeliveryLog := s.history.map Prod.snd

end DeliveryState

inductive DeliveryAction where
  | wait (duration : Nat)
  /-- An insert, with the time at which its values were collected. -/
  | record (scope : DeliveryScope) (key : LoggedKey) (deliveredAt : Int)
  /-- `delete_older_than` of a pass that read the clock at `readAt`. -/
  | cleanUp (readAt : Int)
deriving DecidableEq, Repr

def stepDelivery (settings : CleanupSettings) (s : DeliveryState) :
    DeliveryAction → Option DeliveryState
  | .wait duration => some { s with now := s.now + duration }
  | .record scope key deliveredAt =>
    let recorded := recordDeliveryAtomic s.log scope key deliveredAt
    if deliveredAt ≤ s.now then
      some { s with
        log := recorded.1
        history := if recorded.2 then (s.now, ⟨scope, key, deliveredAt⟩) :: s.history
          else s.history }
    else none
  | .cleanUp readAt =>
    if readAt ≤ s.now then
      some { s with log := (deleteOlderThan (readAt - settings.logRetention) s.log).1 }
    else none

/-- The entries of the log within the retention are those of the history, and one key is inserted
again only after it. -/
structure Retained (retention : Int) (s : DeliveryState) : Prop where
  window : ∀ since, s.now - retention ≤ since →
    s.log.filter (fun entry => since ≤ entry.deliveredAt) =
      s.entries.filter fun entry => since ≤ entry.deliveredAt
  apart : s.history.Pairwise fun later earlier =>
    later.2.scope = earlier.2.scope → later.2.key = earlier.2.key →
      earlier.2.deliveredAt + retention < later.1

namespace RetentionLemmas

variable {settings : CleanupSettings} {s s' : DeliveryState} {log log' : List MailCodeDeliveryLog}
  {scope : DeliveryScope} {key : LoggedKey} {since : Int}

theorem listDeliveryKeysSince_congr
    (h : log.filter (fun entry => since ≤ entry.deliveredAt) =
      log'.filter fun entry => since ≤ entry.deliveredAt) :
    listDeliveryKeysSince log scope since = listDeliveryKeysSince log' scope since := by
  have hsplit : ∀ rows : List MailCodeDeliveryLog,
      (rows.filter fun entry => entry.scope = scope ∧ since ≤ entry.deliveredAt) =
        (rows.filter fun entry => since ≤ entry.deliveredAt).filter fun entry =>
          entry.scope = scope := fun rows => by
    rw [List.filter_filter]
    simp only [Bool.decide_and]
  rw [listDeliveryKeysSince, listDeliveryKeysSince, hsplit, hsplit, h]

/-- A key that the log accepts was not delivered within the retention. -/
theorem apart_of_not_logged (h : Retained settings.logRetention s) (hnew : ¬Logged s.log scope key)
    {earlier : Int × MailCodeDeliveryLog} (hearlier : earlier ∈ s.history)
    (hscope : scope = earlier.2.scope) (hkey : key = earlier.2.key) :
    earlier.2.deliveredAt + settings.logRetention < s.now := by
  by_contra hlate
  have hmem : earlier.2 ∈ s.log.filter
      fun entry => s.now - settings.logRetention ≤ entry.deliveredAt := by
    rw [h.window _ le_rfl]
    exact List.mem_filter.mpr ⟨List.mem_map_of_mem hearlier, decide_eq_true (by omega)⟩
  exact hnew ⟨earlier.2, (List.mem_filter.mp hmem).1, hscope.symm, hkey.symm⟩

theorem retained_step {a : DeliveryAction} (h : Retained settings.logRetention s)
    (hstep : stepDelivery settings s a = some s') : Retained settings.logRetention s' := by
  cases a with
  | wait duration =>
    cases hstep
    exact ⟨fun since hsince => h.window since (by dsimp only at hsince; omega), h.apart⟩
  | record scope key deliveredAt =>
    dsimp only [stepDelivery] at hstep
    split at hstep
    · cases hstep
      by_cases hlogged : Logged s.log scope key
      · simp only [recordDeliveryAtomic, if_pos hlogged, Bool.false_eq_true, if_false]
        exact ⟨h.window, h.apart⟩
      · simp only [recordDeliveryAtomic, if_neg hlogged, if_true]
        refine ⟨fun since hsince => ?_, List.pairwise_cons.mpr ⟨fun earlier hearlier =>
          apart_of_not_logged h hlogged hearlier, h.apart⟩⟩
        change List.filter _ (_ :: s.log) = List.filter _ (_ :: s.entries)
        rw [List.filter_cons, List.filter_cons, h.window since hsince]
    · cases hstep
  | cleanUp readAt =>
    dsimp only [stepDelivery] at hstep
    split at hstep
    · next hread =>
      cases hstep
      refine ⟨fun since hsince => ?_, h.apart⟩
      refine Eq.trans ?_ (h.window since hsince)
      dsimp only [deleteOlderThan, isOlder] at hsince ⊢
      rw [List.filter_filter]
      refine List.filter_congr fun entry _ => ?_
      rw [← decide_not, ← Bool.decide_and, decide_eq_decide]
      omega
    · cases hstep

end RetentionLemmas

open RetentionLemmas

/-- In every run of deliveries and passes: a lookup whose window lies within the retention is told
the same keys as without any pass, and a key is delivered again only when its entry is older than
the retention. -/
theorem deliveries_retained {settings : CleanupSettings} {start : Int} {s : DeliveryState}
    (h : Reaches (stepDelivery settings) Always (.initial start) s) :
    (∀ scope since, s.now - settings.logRetention ≤ since →
      listDeliveryKeysSince s.log scope since = listDeliveryKeysSince s.entries scope since) ∧
    s.history.Pairwise fun later earlier =>
      later.2.scope = earlier.2.scope → later.2.key = earlier.2.key →
        earlier.2.deliveredAt + settings.logRetention < later.1 := by
  have hretained : Retained settings.logRetention s :=
    h.invariant ⟨fun _ _ => rfl, .nil⟩ fun _ _ _ hs _ hstep => retained_step hs hstep
  exact ⟨fun scope since hsince => listDeliveryKeysSince_congr (hretained.window since hsince),
    hretained.apart⟩

/-- A minute of retention. -/
def exCleanup : CleanupSettings := ⟨60 * second⟩

def exKey : LoggedKey := ⟨some "m1", "f1"⟩

/-- A code is delivered again after a pass behind the retention, and was refused before it. -/
theorem delivered_after_retention : ∃ s,
    Reaches (stepDelivery exCleanup) Always (.initial 0) s ∧ s.history.length = 2 ∧
      listDeliveryKeysSince s.log exJob.deliveryScope (s.now - 60 * second) =
        listDeliveryKeysSince s.entries exJob.deliveryScope (s.now - 60 * second) := by
  obtain ⟨s, hs⟩ : ∃ s, exec (stepDelivery exCleanup) (.initial 0)
      [.record exJob.deliveryScope exKey 0, .record exJob.deliveryScope exKey 0, .wait 60000001,
        .cleanUp 60000001, .record exJob.deliveryScope exKey 60000001] = some s := ⟨_, rfl⟩
  have hrun := reaches_of_exec hs
  refine ⟨s, hrun, ?_, (deliveries_retained hrun).1 _ _ le_rfl⟩
  cases hs
  rfl

end Trackpal.Coordinator
