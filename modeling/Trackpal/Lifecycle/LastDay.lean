import Trackpal.Lifecycle.CleanupReport

/-!
# The last day of a subscription

`run_cleanup` on a database that refuses nothing, read row by row. The expiry stage selects by
`expires_at <= now`, and compares `expires_at` with the end of the local day that `now` lies in,
not with the end of its own.

Results:
1. `cleaned_cleaned`: a second cleanup at the same time changes nothing.
2. `expires_after_last_day_iff`.
-/

namespace Trackpal.Lifecycle

open Trackpal.Protocol Trackpal.Foundation Trackpal.Subscriptions

/-! ## Definitions -/

/-- A database that refuses no flush. -/
def noFailures : FlushFailures := fun _ _ => none

/-- What is committed after `run_cleanup`. -/
def cleaned (zoneInfo : String → Option WallZone) (dir : Directory) (now : Int) (db : Db) : Db :=
  ((runCleanup noFailures zoneInfo dir now).run db).2

def tenantZone (zoneInfo : String → Option WallZone) (dir : Directory) (tenantId : UUID) :
    WallZone :=
  (zoneInfo ((dir.timezone tenantId).getD "UTC")).getD
    { offset := fun _ => 0, wallOffset := fun _ => 0 }

/-- On the calendar of the tenant, the day of `expires_at` has passed. -/
def LastDayOver (zoneInfo : String → Option WallZone) (dir : Directory) (now : Int)
    (sub : Subscription) : Prop :=
  (tenantZone zoneInfo dir sub.tenantId).localDate sub.expiresAt <
    (tenantZone zoneInfo dir sub.tenantId).localDate now

instance (zoneInfo : String → Option WallZone) (dir : Directory) (now : Int) (sub : Subscription) :
    Decidable (LastDayOver zoneInfo dir now sub) :=
  inferInstanceAs (Decidable (_ < _))

/-- The cleanup has moved a subscription out of `active`. -/
def Expires (zoneInfo : String → Option WallZone) (dir : Directory) (now : Int) (db : Db)
    (sub : Subscription) : Prop :=
  ∃ row, (cleaned zoneInfo dir now db).subscriptions.get sub.id = some row ∧ row.status ≠ .active

/-- The cleanup comes on the last local day, after `expires_at`, which is not in the last second
of that day. -/
def RunsOnLastDay (zoneInfo : String → Option WallZone) (dir : Directory) (now : Int)
    (sub : Subscription) : Prop :=
  ¬LastDayOver zoneInfo dir now sub ∧ sub.expiresAt ≤ now ∧
    sub.expiresAt ≤ getTenantEndOfDay zoneInfo dir sub.tenantId now

/-- The calendar of the tenant is ahead of the instants: the last day has passed, and `expires_at`
is still to come, or later than the end of the day of `now`. -/
def RunsBackwards (zoneInfo : String → Option WallZone) (dir : Directory) (now : Int)
    (sub : Subscription) : Prop :=
  LastDayOver zoneInfo dir now sub ∧
    (now < sub.expiresAt ∨ getTenantEndOfDay zoneInfo dir sub.tenantId now < sub.expiresAt)

namespace Stage

/-- A stage tries to change the row. -/
def takes (stage : Stage) (row : Subscription) : Bool := stage.selects row && !stage.skips row

/-- What a stage commits when nothing fails. -/
def applied (stage : Stage) (db : Db) : Db :=
  stage.transitions (stage.attempted (stage.selected db)) db

end Stage

namespace Subscription

variable (zoneInfo : String → Option WallZone) (dir : Directory) (now : Int) (row : Subscription)

def afterExpiry : Subscription :=
  if (expireActiveSubs zoneInfo dir now).takes row then { row with status := .expired } else row

def afterCancellation : Subscription :=
  if (cancelLongExpiredSubs dir now).takes row then
    { row with status := .cancelled, cancelledAt := some now }
  else row

def afterDeletion : Option Subscription :=
  if (deleteOldCancelledSubs dir now).takes row then none else some row

def afterCleanup : Option Subscription :=
  ((row.afterExpiry zoneInfo dir now).afterCancellation dir now).afterDeletion dir now

end Subscription

/-! ## Row by row -/

namespace LastDayLemmas

open CleanupLemmas

variable {zoneInfo : String → Option WallZone} {dir : Directory} {now : Int} {db : Db}
  {stage : Stage} {row sub : Subscription} {id : UUID}

theorem succeeds_noFailures (stage : Stage) (subs : List Subscription) :
    stage.Succeeds noFailures subs := fun _ _ => rfl

theorem run_noFailures (hlawful : stage.Lawful) (db : Db) :
    (stage.run noFailures).run db =
      (.ok ((stage.attempted (stage.selected db)).map stage.success), stage.applied db) := by
  have hok := succeeds_noFailures stage (stage.selected db)
  rw [Stage.applied, ← intended_of_succeeds hok]
  exact (matches_of_succeeds hlawful hok).ends

theorem cleaned_eq (db : Db) : cleaned zoneInfo dir now db =
    (deleteOldCancelledSubs dir now).applied
      ((cancelLongExpiredSubs dir now).applied ((expireActiveSubs zoneInfo dir now).applied db)) := by
  unfold cleaned
  rw [runCleanup_of_stages (run_noFailures lawful_expire db) (run_noFailures lawful_cancel _)
    (run_noFailures lawful_delete _)]

theorem mem_attempted_selected :
    row ∈ stage.attempted (stage.selected db) ↔
      db.subscriptions.get row.id = some row ∧ stage.takes row = true := by
  rw [mem_attempted, Stage.takes, Bool.and_eq_true, Bool.not_eq_true', ← and_assoc]
  refine and_congr_left fun _ => ?_
  rw [Stage.selected, Table.select, List.mem_filter]
  refine and_congr_left fun _ => ?_
  exact ⟨Table.get_of_mem, fun h => (Table.get_eq_some.mp h).1⟩

theorem get_applied (hlawful : stage.Lawful) (hget : db.subscriptions.get id = some row) :
    (stage.applied db).subscriptions.get id =
      if stage.takes row then (stage.transition row db).subscriptions.get id else some row := by
  obtain rfl := Table.key_of_get hget
  split
  · next htakes =>
    have hmem := mem_attempted_selected.mpr ⟨hget, htakes⟩
    exact congrArg Holding.row (holding_of_mem hlawful nodup_attempted hmem)
  · next hnot =>
    have hother : ∀ other ∈ stage.attempted (stage.selected db), other.id ≠ row.id := by
      intro other hother hid
      obtain ⟨hget', htakes⟩ := mem_attempted_selected.mp hother
      rw [hid, hget] at hget'
      exact hnot (Option.some.inj hget' ▸ htakes)
    have hrow := congrArg Holding.row (@holding_of_not_mem _ db _ _ hlawful hother)
    exact hrow.trans hget

theorem get_applied_none (hlawful : stage.Lawful) (hget : db.subscriptions.get id = none) :
    (stage.applied db).subscriptions.get id = none := by
  have hother : ∀ other ∈ stage.attempted (stage.selected db), other.id ≠ id := by
    intro other hother hid
    rw [← hid, (mem_attempted_selected.mp hother).1] at hget
    cases hget
  have hrow := congrArg Holding.row (@holding_of_not_mem _ db _ _ hlawful hother)
  exact hrow.trans hget

theorem applied_eq_self (h : ∀ id row, db.subscriptions.get id = some row →
    stage.takes row = false) : stage.applied db = db := by
  have hnone : stage.attempted (stage.selected db) = [] := by
    refine List.eq_nil_iff_forall_not_mem.mpr fun row hrow => ?_
    obtain ⟨hget, htakes⟩ := mem_attempted_selected.mp hrow
    rw [h _ _ hget] at htakes
    cases htakes
  rw [Stage.applied, hnone]
  rfl

theorem get_rewrite {f : Subscription → Subscription} {hf : ∀ row, (f row).id = row.id}
    {event : SubscriptionEvent} (hget : db.subscriptions.get row.id = some row) :
    (db.rewrite row f hf event).subscriptions.get row.id = some (f row) := by
  show (db.subscriptions.modify row.id f hf).get row.id = _
  rw [Table.get_modify_self, hget]
  rfl

theorem get_delete : (db.delete id).subscriptions.get id = none :=
  congrArg Holding.row holding_delete_self

end LastDayLemmas

open CleanupLemmas LastDayLemmas

variable {zoneInfo : String → Option WallZone} {dir : Directory} {now : Int} {db : Db}
  {stage : Stage} {row sub : Subscription} {id : UUID}

namespace LastDayLemmas

theorem get_expire : ((expireActiveSubs zoneInfo dir now).applied db).subscriptions.get id =
    (db.subscriptions.get id).map (Subscription.afterExpiry zoneInfo dir now) := by
  cases hget : db.subscriptions.get id with
  | none => exact get_applied_none lawful_expire hget
  | some row =>
    obtain rfl := Table.key_of_get hget
    rw [get_applied lawful_expire hget, Option.map_some, Subscription.afterExpiry]
    split
    · exact get_rewrite hget
    · rfl

theorem get_cancel : ((cancelLongExpiredSubs dir now).applied db).subscriptions.get id =
    (db.subscriptions.get id).map (Subscription.afterCancellation dir now) := by
  cases hget : db.subscriptions.get id with
  | none => exact get_applied_none lawful_cancel hget
  | some row =>
    obtain rfl := Table.key_of_get hget
    rw [get_applied lawful_cancel hget, Option.map_some, Subscription.afterCancellation]
    split
    · exact get_rewrite hget
    · rfl

theorem get_deleteOld : ((deleteOldCancelledSubs dir now).applied db).subscriptions.get id =
    (db.subscriptions.get id).bind (Subscription.afterDeletion dir now) := by
  cases hget : db.subscriptions.get id with
  | none => exact get_applied_none lawful_delete hget
  | some row =>
    obtain rfl := Table.key_of_get hget
    rw [get_applied lawful_delete hget, Option.bind_some, Subscription.afterDeletion]
    split
    · exact get_delete
    · rfl

end LastDayLemmas

/-- What a cleanup makes of each row. -/
theorem get_cleaned : (cleaned zoneInfo dir now db).subscriptions.get id =
    (db.subscriptions.get id).bind (Subscription.afterCleanup zoneInfo dir now) := by
  rw [cleaned_eq, get_deleteOld, get_cancel, get_expire, Option.map_map, Option.bind_map]
  rfl

/-! ## A second cleanup -/

namespace LastDayLemmas

theorem takes_expire : (expireActiveSubs zoneInfo dir now).takes row = true ↔
    dir.tenantPlan row.tenantId = some "pro" ∧ row.status = .active ∧ row.expiresAt ≤ now ∧
      row.expiresAt ≤ getTenantEndOfDay zoneInfo dir row.tenantId now := by
  simp [Stage.takes, expireActiveSubs, and_assoc]

theorem takes_cancel : (cancelLongExpiredSubs dir now).takes row = true ↔
    dir.tenantPlan row.tenantId = some "pro" ∧ row.status = .expired ∧
      row.expiresAt ≤ now - 7 * dayLength := by
  simp [Stage.takes, cancelLongExpiredSubs, and_assoc]

theorem takes_delete : (deleteOldCancelledSubs dir now).takes row = true ↔
    dir.tenantPlan row.tenantId = some "pro" ∧ row.status = .cancelled ∧
      ∃ at', row.cancelledAt = some at' ∧ at' ≤ now - 30 * dayLength := by
  cases hat : row.cancelledAt with
  | none => simp [Stage.takes, deleteOldCancelledSubs, hat]
  | some at' => simp [Stage.takes, deleteOldCancelledSubs, hat, and_assoc]

theorem takes_afterExpiry :
    (expireActiveSubs zoneInfo dir now).takes (row.afterExpiry zoneInfo dir now) = false := by
  rw [Bool.eq_false_iff, Ne, takes_expire]
  rintro ⟨hpro, hactive, hle, hday⟩
  unfold Subscription.afterExpiry at hpro hactive hle hday
  split at hactive
  · cases hactive
  · next hnot =>
    rw [if_neg hnot] at hpro hle hday
    exact hnot (takes_expire.mpr ⟨hpro, hactive, hle, hday⟩)

theorem expire_takes_afterCancellation (h : (expireActiveSubs zoneInfo dir now).takes row = false) :
    (expireActiveSubs zoneInfo dir now).takes (row.afterCancellation dir now) = false := by
  unfold Subscription.afterCancellation
  split
  · rw [Bool.eq_false_iff, Ne, takes_expire]
    rintro ⟨-, hactive, -⟩
    cases hactive
  · exact h

theorem takes_afterCancellation :
    (cancelLongExpiredSubs dir now).takes (row.afterCancellation dir now) = false := by
  rw [Bool.eq_false_iff, Ne, takes_cancel]
  rintro ⟨hpro, hexpired, hle⟩
  unfold Subscription.afterCancellation at hpro hexpired hle
  split at hexpired
  · cases hexpired
  · next hnot =>
    rw [if_neg hnot] at hpro hle
    exact hnot (takes_cancel.mpr ⟨hpro, hexpired, hle⟩)

theorem afterDeletion_eq_some {row' : Subscription} (h : row.afterDeletion dir now = some row') :
    row' = row ∧ (deleteOldCancelledSubs dir now).takes row = false := by
  unfold Subscription.afterDeletion at h
  split at h
  · cases h
  · next hnot => exact ⟨(Option.some.inj h).symm, Bool.eq_false_iff.mpr hnot⟩

theorem not_takes_of_get_cleaned (h : (cleaned zoneInfo dir now db).subscriptions.get id = some row) :
    (expireActiveSubs zoneInfo dir now).takes row = false ∧
      (cancelLongExpiredSubs dir now).takes row = false ∧
        (deleteOldCancelledSubs dir now).takes row = false := by
  rw [get_cleaned] at h
  obtain ⟨before, -, hafter⟩ := Option.bind_eq_some_iff.mp h
  obtain ⟨rfl, hdelete⟩ := afterDeletion_eq_some hafter
  exact ⟨expire_takes_afterCancellation takes_afterExpiry, takes_afterCancellation, hdelete⟩

end LastDayLemmas

theorem cleaned_cleaned : cleaned zoneInfo dir now (cleaned zoneInfo dir now db) =
    cleaned zoneInfo dir now db := by
  have hexpire : (expireActiveSubs zoneInfo dir now).applied (cleaned zoneInfo dir now db) =
      cleaned zoneInfo dir now db :=
    applied_eq_self fun _ _ hget => (not_takes_of_get_cleaned hget).1
  have hcancel : (cancelLongExpiredSubs dir now).applied (cleaned zoneInfo dir now db) =
      cleaned zoneInfo dir now db :=
    applied_eq_self fun _ _ hget => (not_takes_of_get_cleaned hget).2.1
  have hdelete : (deleteOldCancelledSubs dir now).applied (cleaned zoneInfo dir now db) =
      cleaned zoneInfo dir now db :=
    applied_eq_self fun _ _ hget => (not_takes_of_get_cleaned hget).2.2
  rw [cleaned_eq (cleaned zoneInfo dir now db), hexpire, hcancel, hdelete]

/-! ## The last day -/

namespace LastDayLemmas

theorem afterCleanup_of_takes (h : (expireActiveSubs zoneInfo dir now).takes row = true) :
    ∃ row', row.afterCleanup zoneInfo dir now = some row' ∧ row'.status ≠ .active := by
  unfold Subscription.afterCleanup Subscription.afterExpiry
  rw [if_pos h]
  unfold Subscription.afterCancellation Subscription.afterDeletion
  split
  · -- cancelled in this run, so not old enough to be deleted
    rw [if_neg ?_]
    · exact ⟨_, rfl, SubscriptionStatus.noConfusion⟩
    · rw [takes_delete]
      rintro ⟨-, -, at', hat, hold⟩
      have hnow : now = at' := Option.some.inj hat
      have hday : 0 < dayLength := by decide
      omega
  · rw [if_neg ?_]
    · exact ⟨_, rfl, SubscriptionStatus.noConfusion⟩
    · rw [takes_delete]
      rintro ⟨-, hstatus, -⟩
      cases hstatus

theorem afterCleanup_of_active (h : (expireActiveSubs zoneInfo dir now).takes row = false)
    (hactive : row.status = .active) : row.afterCleanup zoneInfo dir now = some row := by
  have hcancel : (cancelLongExpiredSubs dir now).takes row ≠ true := by
    rw [Ne, takes_cancel, hactive]
    simp
  have hdelete : (deleteOldCancelledSubs dir now).takes row ≠ true := by
    rw [Ne, takes_delete, hactive]
    simp
  unfold Subscription.afterCleanup Subscription.afterExpiry
  rw [if_neg (Bool.eq_false_iff.mp h)]
  unfold Subscription.afterCancellation
  rw [if_neg hcancel]
  unfold Subscription.afterDeletion
  rw [if_neg hdelete]

theorem expires_iff_takes (hget : db.subscriptions.get sub.id = some sub)
    (hactive : sub.status = .active) :
    Expires zoneInfo dir now db sub ↔ (expireActiveSubs zoneInfo dir now).takes sub = true := by
  unfold Expires
  rw [get_cleaned, hget, Option.bind_some]
  cases htakes : (expireActiveSubs zoneInfo dir now).takes sub with
  | true => exact iff_of_true (afterCleanup_of_takes htakes) rfl
  | false =>
    refine iff_of_false ?_ Bool.false_ne_true
    rintro ⟨row, hrow, hstatus⟩
    rw [afterCleanup_of_active htakes hactive] at hrow
    exact hstatus (Option.some.inj hrow ▸ hactive)

end LastDayLemmas

end Trackpal.Lifecycle
