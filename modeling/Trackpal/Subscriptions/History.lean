import Trackpal.Foundation.Runs
import Trackpal.Subscriptions.Reminders

/-!
# Histories of reminders

The statements of `reminder_log.py`, and histories of polls and reports in any order. A
poll is one transaction; its logs are committed with the items that it returns. The
subscriptions, the settings and the clock are new at each poll.

Results:
1. `logged_after`, `logged_of_returned`: a reminder that was returned has a log from then on.
2. `once_of_reaches`: no reminder is returned by two polls.
-/

namespace Trackpal.Subscriptions

open Trackpal.Protocol Trackpal.Foundation

/-! ## Reports -/

/-- What `mark_reminder_sent` writes. -/
def ReminderLog.markSent (log : ReminderLog) (now : Int) : ReminderLog :=
  { log with status := .sent, sentAt := some now, lastError := none }

/-- What `mark_reminder_failed` writes. -/
def ReminderLog.markFailed (log : ReminderLog) (reason : Option String) : ReminderLog :=
  { log with
    attemptCount := log.attemptCount + 1
    lastError := some (orElse reason "Unknown error")
    status := if 3 ≤ log.attemptCount + 1 then .failed else log.status }

theorem ReminderLog.id_markSent (log : ReminderLog) (now : Int) : (log.markSent now).id = log.id :=
  rfl

theorem ReminderLog.id_markFailed (log : ReminderLog) (reason : Option String) :
    (log.markFailed reason).id = log.id :=
  rfl

/-- `mark_reminder_sent`; the answer repeats the log, and there is none for an unknown id. -/
def markReminderSent (logs : ReminderLogs) (logId : UUID) (now : Int) :
    ReminderLogs × Option ReminderLog :=
  (logs.modify logId (·.markSent now) fun _ => rfl, (logs.get logId).map (·.markSent now))

def markReminderFailed (logs : ReminderLogs) (logId : UUID) (reason : Option String) :
    ReminderLogs × Option ReminderLog :=
  (logs.modify logId (·.markFailed reason) fun _ => rfl, (logs.get logId).map (·.markFailed reason))

/-! ## Histories -/

/-- The logs, the ids and keys that polls have returned, and the ids of the reports. -/
structure World where
  logs : ReminderLogs
  returned : List (UUID × ReminderKey)
  reported : List UUID

inductive Action where
  | poll (p : Poll)
  | markSent (logId : UUID) (now : Int)
  | markFailed (logId : UUID) (reason : Option String)

/-- The logs after the commit of a poll. -/
def record (logs : ReminderLogs) (items : List Item) : ReminderLogs :=
  items.foldl (fun t item => t.insert item.log) logs

def NewIds (logs : ReminderLogs) (items : List Item) : Prop :=
  (items.map (·.log.id)).Nodup ∧ ∀ item ∈ items, logs.get item.log.id = none

instance (logs : ReminderLogs) (items : List Item) : Decidable (NewIds logs items) :=
  inferInstanceAs (Decidable (_ ∧ _))

def step (env : Environment) (w : World) : Action → Option World
  | .poll p =>
    let items := returned env w.logs p
    if NewIds w.logs items then
      some
        { w with
          logs := record w.logs items
          returned := w.returned ++ items.map fun item => (item.log.id, item.key) }
    else none
  | .markSent logId now =>
    some
      { w with
        logs := (markReminderSent w.logs logId now).1
        reported := logId :: w.reported }
  | .markFailed logId reason =>
    some
      { w with
        logs := (markReminderFailed w.logs logId reason).1
        reported := logId :: w.reported }

theorem step_of_none {env : Environment} {w : World} {p : Poll} (h : returned env w.logs p = []) :
    step env w (.poll p) = some w := by
  simp [step, h, NewIds, record]

def Action.rewrite (a : Action) (log : ReminderLog) : ReminderLog :=
  match a with
  | .poll _ => log
  | .markSent logId now => if log.id = logId then log.markSent now else log
  | .markFailed logId reason => if log.id = logId then log.markFailed reason else log

/-! ## What a step keeps -/

variable {env : Environment} {logs : ReminderLogs} {items : List Item} {item : Item}
  {w w' w₀ : World} {a : Action} {p : Poll} {id : UUID} {log : ReminderLog} {key : ReminderKey}

@[simp] theorem Action.key_rewrite : (a.rewrite log).key = log.key := by
  cases a with
  | poll p => rfl
  | markSent logId now =>
    rw [rewrite]
    split <;> rfl
  | markFailed logId reason =>
    rw [rewrite]
    split <;> rfl

theorem logged_iff : logged logs key = true ↔ ∃ log ∈ logs.rows, log.key = key := by
  simp [logged]

theorem logged_of_get (h : logs.get id = some log) : logged logs log.key = true :=
  logged_iff.mpr ⟨log, (Table.get_eq_some.mp h).1, rfl⟩

theorem get_record_of_get (h : logs.get id = some log) : (record logs items).get id = some log := by
  induction items generalizing logs with
  | nil => exact h
  | cons item items ih => exact ih (Table.get_insert_of_get h)

theorem get_record (hids : NewIds logs items) (h : item ∈ items) :
    (record logs items).get item.log.id = some item.log := by
  induction items generalizing logs with
  | nil => cases h
  | cons first items ih =>
    obtain ⟨hfirst, hrest⟩ := List.nodup_cons.mp hids.1
    cases h with
    | head =>
      have hnew := hids.2 item List.mem_cons_self
      show (record (logs.insert item.log) items).get item.log.id = some item.log
      exact get_record_of_get (Table.get_insert_self hnew)
    | tail _ h =>
      show (record (logs.insert first.log) items).get item.log.id = some item.log
      refine ih ⟨hrest, fun other hother => ?_⟩ h
      have hne : other.log.id ≠ first.log.id := by
        intro heq
        exact hfirst (List.mem_map.mpr ⟨other, hother, heq⟩)
      rw [Table.get_insert_of_ne hne]
      exact hids.2 other (List.mem_cons_of_mem _ hother)

/-- A step keeps every log, and only a report changes it. -/
theorem get_after (h : step env w a = some w') (hget : w.logs.get id = some log) :
    w'.logs.get id = some (a.rewrite log) := by
  cases a with
  | poll p =>
    simp only [step] at h
    split at h
    · cases h
      exact get_record_of_get hget
    · cases h
  | markSent logId now =>
    cases h
    exact Table.get_modify_of_get (fun row => row.id_markSent now) hget
  | markFailed logId reason =>
    cases h
    exact Table.get_modify_of_get (fun row => row.id_markFailed reason) hget

theorem logged_after (h : step env w a = some w') (hlog : logged w.logs key = true) :
    logged w'.logs key = true := by
  obtain ⟨log, hmem, rfl⟩ := logged_iff.mp hlog
  have hget := get_after h (Table.get_of_mem hmem)
  simpa using logged_of_get hget

theorem logged_of_returned (h : step env w (.poll p) = some w')
    (hitem : item ∈ returned env w.logs p) : logged w'.logs item.key = true := by
  simp only [step] at h
  split at h
  · next hids =>
    cases h
    exact logged_of_get (get_record hids hitem)
  · cases h

theorem not_logged_of_returned (h : item ∈ returned env logs p) : logged logs item.key = false := by
  have hfresh := fresh_of_returned h
  rw [returned_of_fresh hfresh] at h
  exact hfresh.2 item h

/-! ## Returned once -/

/-- What a history says of the reminders that it has returned. -/
structure Once (w : World) : Prop where
  logged : ∀ r ∈ w.returned, logged w.logs r.2 = true
  nodup : (w.returned.map (·.2)).Nodup

theorem once_after (hw : Once w) (h : step env w a = some w') : Once w' where
  logged r hr := by
    cases a with
    | poll p =>
      have hstep := h
      simp only [step] at h
      split at h
      · cases h
        rcases List.mem_append.mp hr with hold | hnew
        · exact logged_after hstep (hw.logged r hold)
        · obtain ⟨item, hitem, rfl⟩ := List.mem_map.mp hnew
          exact logged_of_returned hstep hitem
      · cases h
    | markSent logId now =>
      have hstep := h
      cases h
      exact logged_after hstep (hw.logged r hr)
    | markFailed logId reason =>
      have hstep := h
      cases h
      exact logged_after hstep (hw.logged r hr)
  nodup := by
    cases a with
    | poll p =>
      simp only [step] at h
      split at h
      · cases h
        have hkeys : ((returned env w.logs p).map Item.key).Nodup := by
          rw [returned_eq]
          split
          · next hfresh => exact hfresh.1
          · exact List.nodup_nil
        rw [List.map_append, List.map_map]
        refine List.nodup_append.mpr ⟨hw.nodup, hkeys, fun key hold other hnew heq => ?_⟩
        obtain ⟨r, hr, rfl⟩ := List.mem_map.mp hold
        obtain ⟨item, hitem, rfl⟩ := List.mem_map.mp hnew
        have hnot := not_logged_of_returned hitem
        have hlogged := hw.logged r hr
        rw [heq] at hlogged
        exact absurd (hlogged.symm.trans hnot) (by decide)
      · cases h
    | markSent logId now =>
      cases h
      exact hw.nodup
    | markFailed logId reason =>
      cases h
      exact hw.nodup

theorem once_of_reaches {ok : World → Action → Prop} (h : Reaches (step env) ok w₀ w)
    (hstart : w₀.returned = []) : Once w := by
  refine h.invariant ⟨by simp [hstart], by simp [hstart]⟩ fun w a w' hw _ hstep => ?_
  exact once_after hw hstep

end Trackpal.Subscriptions
