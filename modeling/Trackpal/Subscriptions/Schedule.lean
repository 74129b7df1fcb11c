import Trackpal.Foundation.Text

/-!
# When a reminder is due

`reminder_schedule.py`, and the validators of `SubscriptionReminderSettingsUpdate`. An
instant is in microseconds since the epoch and a date is its day since the epoch. A zone is
what `zoneinfo` knows of it: how far its clocks are ahead of UTC at an instant. An instant
outside the years that `datetime` has is left out.

Results:
1. `clock_of_accepted`: a reminder time that the settings accept is a minute of the day.
2. `isReminderTimeOk_iff`: for such a time, the check compares it with the local clock.
-/

namespace Trackpal.Subscriptions

open Trackpal.Foundation

/-! ## Local time -/

structure Zone where
  offset : Int → Int

/-- `ZoneInfo(name)`, which raises for a name that it does not know. -/
abbrev ZoneInfo := String → Option Zone

def minute : Int := 60000000

def dayLength : Int := 1440 * minute

def Zone.localTime (zone : Zone) (instant : Int) : Int := instant + zone.offset instant

def Zone.localDate (zone : Zone) (instant : Int) : Int := zone.localTime instant / dayLength

def Zone.timeOfDay (zone : Zone) (instant : Int) : Int := zone.localTime instant % dayLength

/-! ## The reminder time -/

/-- The time of day of two numbers, which `datetime.replace` accepts in these bounds. -/
def timeAt (h m : Int) : Option Int :=
  if 0 ≤ h ∧ h ≤ 23 ∧ 0 ≤ m ∧ m ≤ 59 then some ((h * 60 + m) * minute) else none

/-- The time of day that a text names. -/
def clock (reminderTime : String) : Option Int :=
  match reminderTime.toList.splitOn ':' with
  | [h, m] => do timeAt (← readInt h) (← readInt m)
  | _ => none

/-- `is_reminder_time_ok`: an unknown zone and a text that is no time of day pass. -/
def isReminderTimeOk (zoneInfo : ZoneInfo) (nowUtc : Int) (reminderTime tzName : String) : Bool :=
  match zoneInfo tzName with
  | none => true
  | some zone =>
    match clock reminderTime with
    | none => true
    | some time => time ≤ zone.timeOfDay nowUtc

/-- `compute_days_until_expiry`, in a zone that is known. -/
def computeDaysUntilExpiry (zone : Zone) (expiresAt nowUtc : Int) : Int :=
  zone.localDate expiresAt - zone.localDate nowUtc

/-! ## The settings that are accepted -/

inductive SettingsError where
  /-- `reminder_time must be in HH:MM format`. -/
  | reminderTimeFormat
  /-- `reminder_time must be a valid time in HH:MM format`. -/
  | reminderTimeInvalid
  /-- `recipient_mode must be one of …`. -/
  | recipientMode
deriving DecidableEq, Repr

def validateReminderTime (v : String) : Except SettingsError String :=
  match v.toList.splitOn ':' with
  | [first, second] =>
    match readInt first, readInt second with
    | some h, some m =>
      if 0 ≤ h ∧ h ≤ 23 ∧ 0 ≤ m ∧ m ≤ 59 then .ok v else .error .reminderTimeInvalid
    | _, _ => .error .reminderTimeInvalid
  | _ => .error .reminderTimeFormat

def validModes : List String :=
  ["tenant_only", "client_only", "tenant_client", "tenant_and_client", "both"]

def validateRecipientMode (v : String) : Except SettingsError String :=
  if v ∈ validModes then .ok v else .error .recipientMode

/-- The columns of `subscription_reminder_settings` that a reminder uses. The list of warning
days may be missing, since the update accepts `null` for it. -/
structure ReminderSettings where
  warningDays : Option (List Int)
  reminderTime : String
  recipientMode : String
  remindersEnabled : Bool
deriving DecidableEq

def ReminderSettings.accepted (settings : ReminderSettings) : Bool :=
  (validateReminderTime settings.reminderTime).isOk &&
    (validateRecipientMode settings.recipientMode).isOk

/-- The row that `get_reminder_settings` makes for a tenant without one. -/
def defaultSettings : ReminderSettings where
  warningDays := some [7, 3, 1]
  reminderTime := "09:00"
  recipientMode := "tenant_only"
  remindersEnabled := false

example : defaultSettings.accepted = true := by decide

/-! ## What the check of the time does -/

variable {zoneInfo : ZoneInfo} {zone : Zone} {tzName reminderTime : String} {now time : Int}

theorem clock_of_accepted (h : (validateReminderTime reminderTime).isOk = true) :
    ∃ time, clock reminderTime = some time := by
  unfold validateReminderTime at h
  unfold clock
  split at h
  · split at h
    · next hours minutes hhours hminutes =>
      split at h
      · next hbounds =>
        refine ⟨(hours * 60 + minutes) * minute, ?_⟩
        simp [hhours, hminutes, timeAt, hbounds]
      · cases h
    · cases h
  · cases h

theorem ReminderSettings.clock_of_accepted {settings : ReminderSettings}
    (h : settings.accepted = true) : ∃ time, clock settings.reminderTime = some time :=
  Subscriptions.clock_of_accepted (Bool.and_eq_true_iff.mp h).1

theorem isReminderTimeOk_iff (hzone : zoneInfo tzName = some zone)
    (htime : clock reminderTime = some time) :
    isReminderTimeOk zoneInfo now reminderTime tzName = true ↔ time ≤ zone.timeOfDay now := by
  unfold isReminderTimeOk
  rw [hzone, htime]
  exact decide_eq_true_iff

end Trackpal.Subscriptions
