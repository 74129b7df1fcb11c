import Trackpal.Lifecycle.Rows

/-!
# The cleanup of subscriptions

`cleanup.py`. Each of its three stages selects its subscriptions, gives each of them a turn in
one transaction, and commits once at the end. A turn that fails rolls the transaction back,
with all that the turns before it have written, and expires the objects of the turns that are
to come; the next turn then raises before its handler is in force.

Results:
1. `stage_of_clean`: without a failure, a stage makes the transition of each subscription.
2. `stage_of_failure`: after a failure, a stage makes none, and raises unless the failure was in
   its last turn.
-/

namespace Trackpal.Lifecycle

open Trackpal.Protocol Trackpal.Foundation Trackpal.Subscriptions

/-! ## The stages -/

inductive CleanupAction where
  | expire
  | cancelExpired
  | deleteCancelled
deriving DecidableEq, Repr

/-- An entry of the report; without a text, its status is `success`, and `failed` with one. -/
structure CleanupResult where
  id : UUID
  action : CleanupAction
  error : Option String
deriving DecidableEq

def CleanupResult.succeeded (r : CleanupResult) : Bool := r.error.isNone

abbrev FlushFailures := CleanupAction → UUID → Option String

/-- What tells the stages apart. -/
structure Stage where
  action : CleanupAction
  selects : Subscription → Bool
  /-- The tests of a turn that leave the subscription out. -/
  skips : Subscription → Bool
  transition : Subscription → Db → Db

/-- `str(exc)`. -/
def Failure.text : Failure → String
  | .userFacing code => code
  | .valueError text => text
  | .integrityError text => text
  | .database text => text
  | _ => ""

def flush (refused : Option String) : Program Db Failure Unit :=
  match refused with
  | some text => .raise (.database text)
  | none => pure ()

variable (fails : FlushFailures) (stage : Stage)

def Stage.turn (results : List CleanupResult) (sub : Subscription) :
    Program Db Failure (List CleanupResult) := do
  -- `str(sub.id)` stands before the handler
  Program.touch .missingGreenlet
  Program.attempt
    (if stage.skips sub then return results
    else do
      Program.change (stage.transition sub)
      flush (fails stage.action sub.id)
      return results ++ [⟨sub.id, stage.action, none⟩])
    fun e => do
      Program.rollback
      return results ++ [⟨sub.id, stage.action, some e.text⟩]

def Stage.selected (db : Db) : List Subscription := db.subscriptions.select stage.selects

def Stage.run : Program Db Failure (List CleanupResult) := do
  let subs := stage.selected (← Program.read)
  let results ← subs.foldlM (stage.turn fails) []
  if subs ≠ [] then Program.commit
  return results

/-! ## The members of the family -/

structure WallZone extends Zone where
  wallOffset : Int → Int

/-- `_get_tenant_end_of_day`; an unknown zone is read as UTC. -/
def getTenantEndOfDay (zoneInfo : String → Option WallZone) (dir : Directory) (tenantId : UUID)
    (now : Int) : Int :=
  let utc : WallZone := { offset := fun _ => 0, wallOffset := fun _ => 0 }
  let tz := (zoneInfo ((dir.timezone tenantId).getD "UTC")).getD utc
  let localEod := (tz.localDate now + 1) * dayLength - 1000000
  localEod - tz.wallOffset localEod

def Subscription.event (sub : Subscription) (eventType : EventType) (notes : String) :
    SubscriptionEvent where
  tenantId := sub.tenantId
  subscriptionId := sub.id
  eventType := eventType
  notes := some notes

/-- A change of a row, with an event. -/
def Db.rewrite (db : Db) (sub : Subscription) (f : Subscription → Subscription)
    (hf : ∀ row, (f row).id = row.id) (event : SubscriptionEvent) : Db :=
  { db with
    subscriptions := db.subscriptions.modify sub.id f hf
    events := db.events ++ [event] }

theorem id_expire (row : Subscription) : { row with status := .expired }.id = row.id := rfl

theorem id_cancel (now : Int) (row : Subscription) :
    { row with status := .cancelled, cancelledAt := some now }.id = row.id := rfl

def expireActiveSubs (zoneInfo : String → Option WallZone) (dir : Directory) (now : Int) : Stage where
  action := .expire
  selects sub := dir.tenantPlan sub.tenantId = some "pro" && sub.status = .active &&
    sub.expiresAt ≤ now
  skips sub := getTenantEndOfDay zoneInfo dir sub.tenantId now < sub.expiresAt
  transition sub db := db.rewrite sub (fun row => { row with status := .expired }) id_expire
    (sub.event .expired "Subscription expired automatically")

def cancelLongExpiredSubs (dir : Directory) (now : Int) : Stage where
  action := .cancelExpired
  selects sub := dir.tenantPlan sub.tenantId = some "pro" && sub.status = .expired &&
    sub.expiresAt ≤ now - 7 * dayLength
  skips sub := now - 7 * dayLength < sub.expiresAt
  transition sub db := db.rewrite sub
    (fun row => { row with status := .cancelled, cancelledAt := some now }) (id_cancel now)
    (sub.event .cancelled "Subscription cancelled after 7+ days expired")

def Db.delete (db : Db) (id : UUID) : Db where
  subscriptions := db.subscriptions.remove (·.id = id)
  events := db.events.filter (·.subscriptionId ≠ id)
  reminderLogs := db.reminderLogs.remove (·.subscriptionId = id)

def deleteOldCancelledSubs (dir : Directory) (now : Int) : Stage where
  action := .deleteCancelled
  selects sub := dir.tenantPlan sub.tenantId = some "pro" && sub.status = .cancelled &&
    sub.cancelledAt.any (· ≤ now - 30 * dayLength)
  skips sub := sub.cancelledAt.all (now - 30 * dayLength < ·)
  transition sub db := db.delete sub.id

def runCleanup (zoneInfo : String → Option WallZone) (dir : Directory) (now : Int) :
    Program Db Failure (List CleanupResult) := do
  let expired ← (expireActiveSubs zoneInfo dir now).run fails
  let cancelled ← (cancelLongExpiredSubs dir now).run fails
  let deleted ← (deleteOldCancelledSubs dir now).run fails
  return expired ++ cancelled ++ deleted

/-! ## What a turn does -/

variable {fails stage} {results : List CleanupResult} {sub : Subscription}
  {subs before after : List Subscription} {s : Session Db} {text : String}

def Stage.attempted (stage : Stage) (subs : List Subscription) : List Subscription :=
  subs.filter fun sub => !stage.skips sub

def Stage.success (stage : Stage) (sub : Subscription) : CleanupResult :=
  ⟨sub.id, stage.action, none⟩

def Stage.transitions (stage : Stage) (subs : List Subscription) (db : Db) : Db :=
  subs.foldl (fun db sub => stage.transition sub db) db

/-- No attempt of the subscriptions fails. -/
def Stage.Succeeds (fails : FlushFailures) (stage : Stage) (subs : List Subscription) : Prop :=
  ∀ sub ∈ stage.attempted subs, fails stage.action sub.id = none

namespace CleanupLemmas

theorem turn_of_expired (h : s.expired = true) :
    stage.turn fails results sub s = (.error .missingGreenlet, s) := by
  refine Program.bind_of_error ?_
  unfold Program.touch
  rw [h]
  rfl

theorem touch_of_loaded (h : s.expired = false) :
    (Program.touch .missingGreenlet : Program Db Failure Unit) s = (.ok (), s) := by
  unfold Program.touch
  rw [h]
  rfl

theorem turn_of_skips (h : s.expired = false) (hskips : stage.skips sub = true) :
    stage.turn fails results sub s = (.ok results, s) := by
  unfold Stage.turn
  rw [Program.bind_of_ok (touch_of_loaded h), if_pos hskips]
  rfl

theorem turn_of_ok (h : s.expired = false) (hskips : stage.skips sub = false)
    (hfails : fails stage.action sub.id = none) :
    stage.turn fails results sub s =
      (.ok (results ++ [stage.success sub]), s.change (stage.transition sub)) := by
  unfold Stage.turn
  rw [Program.bind_of_ok (touch_of_loaded h), if_neg (by rw [hskips]; exact Bool.false_ne_true),
    hfails]
  rfl

theorem turn_of_failure (h : s.expired = false) (hskips : stage.skips sub = false)
    (hfails : fails stage.action sub.id = some text) :
    stage.turn fails results sub s =
      (.ok (results ++ [⟨sub.id, stage.action, some text⟩]), s.rollback) := by
  unfold Stage.turn
  rw [Program.bind_of_ok (touch_of_loaded h), if_neg (by rw [hskips]; exact Bool.false_ne_true),
    hfails]
  rfl

theorem attempted_cons_of_skips (h : stage.skips sub = true) :
    stage.attempted (sub :: subs) = stage.attempted subs :=
  List.filter_cons_of_neg (by rw [h]; exact Bool.false_ne_true)

theorem attempted_cons (h : stage.skips sub = false) :
    stage.attempted (sub :: subs) = sub :: stage.attempted subs :=
  List.filter_cons_of_pos (by rw [h]; rfl)

theorem loop_of_succeeds (h : s.expired = false) (hok : stage.Succeeds fails subs) :
    subs.foldlM (stage.turn fails) results s =
      (.ok (results ++ (stage.attempted subs).map stage.success),
        s.change (stage.transitions (stage.attempted subs))) := by
  induction subs generalizing results s with
  | nil =>
    show (_, _) = _
    rw [Stage.attempted, List.filter_nil, List.map_nil, List.append_nil]
    rfl
  | cons sub subs ih =>
    rw [List.foldlM_cons]
    cases hskips : stage.skips sub with
    | true =>
      rw [Program.bind_of_ok (turn_of_skips h hskips), attempted_cons_of_skips hskips]
      exact ih h fun other hother => hok other (by rwa [attempted_cons_of_skips hskips])
    | false =>
      rw [Stage.Succeeds, attempted_cons hskips] at hok
      have hfirst := hok sub List.mem_cons_self
      have hrest : stage.Succeeds fails subs :=
        fun other hother => hok other (List.mem_cons_of_mem _ hother)
      have hloaded : (s.change (stage.transition sub)).expired = false := h
      rw [Program.bind_of_ok (turn_of_ok h hskips hfirst), attempted_cons hskips, List.map_cons]
      refine (ih hloaded hrest).trans ?_
      rw [List.append_assoc]
      rfl

theorem loop_of_expired (h : s.expired = true) (hne : subs ≠ []) :
    subs.foldlM (stage.turn fails) results s = (.error .missingGreenlet, s) := by
  obtain ⟨sub, rest, rfl⟩ := List.exists_cons_of_ne_nil hne
  rw [List.foldlM_cons]
  exact Program.bind_of_error (turn_of_expired h)

theorem loop_of_failure (h : s.expired = false) (hok : stage.Succeeds fails before)
    (hskips : stage.skips sub = false) (hfails : fails stage.action sub.id = some text) :
    (before ++ sub :: after).foldlM (stage.turn fails) results s =
      (if after = [] then .ok (results ++ (stage.attempted before).map stage.success ++
        [⟨sub.id, stage.action, some text⟩]) else .error .missingGreenlet, s.rollback) := by
  rw [List.foldlM_append, Program.bind_of_ok (loop_of_succeeds h hok), List.foldlM_cons]
  have hturn : stage.turn fails (results ++ (stage.attempted before).map stage.success) sub
      (s.change (stage.transitions (stage.attempted before))) =
        (.ok (results ++ (stage.attempted before).map stage.success ++
          [⟨sub.id, stage.action, some text⟩]), s.rollback) := turn_of_failure h hskips hfails
  rw [Program.bind_of_ok hturn]
  split
  · next hempty =>
    rw [hempty]
    rfl
  · next hne => exact loop_of_expired rfl hne

theorem succeeds_or_failure (fails : FlushFailures) (stage : Stage) (subs : List Subscription) :
    stage.Succeeds fails subs ∨ ∃ before sub after text, subs = before ++ sub :: after ∧
      stage.Succeeds fails before ∧ stage.skips sub = false ∧
        fails stage.action sub.id = some text := by
  induction subs with
  | nil => exact Or.inl fun sub hsub => by cases hsub
  | cons sub subs ih =>
    cases hskips : stage.skips sub with
    | true =>
      rcases ih with hok | ⟨before, failing, after, text, rfl, hok, hrest⟩
      · left
        rwa [Stage.Succeeds, attempted_cons_of_skips hskips]
      · right
        refine ⟨sub :: before, failing, after, text, rfl, ?_, hrest⟩
        rwa [Stage.Succeeds, attempted_cons_of_skips hskips]
    | false =>
      cases hfails : fails stage.action sub.id with
      | some text =>
        right
        have hnone : stage.Succeeds fails [] := by
          rintro other hother
          cases hother
        exact ⟨[], sub, subs, text, rfl, hnone, hskips, hfails⟩
      | none =>
        rcases ih with hok | ⟨before, failing, after, text, rfl, hok, hrest⟩
        · left
          rw [Stage.Succeeds, attempted_cons hskips]
          exact List.forall_mem_cons.mpr ⟨hfails, hok⟩
        · right
          refine ⟨sub :: before, failing, after, text, rfl, ?_, hrest⟩
          rw [Stage.Succeeds, attempted_cons hskips]
          exact List.forall_mem_cons.mpr ⟨hfails, hok⟩

end CleanupLemmas

open CleanupLemmas

/-! ## What a stage does -/

variable {db : Db}

theorem stage_of_clean (hboth : s.persisted = db ∧ s.working = db)
    (hok : stage.Succeeds fails (stage.selected db)) :
    ∃ s', stage.run fails s =
      (.ok ((stage.attempted (stage.selected db)).map stage.success), s') ∧
        s'.persisted = stage.transitions (stage.attempted (stage.selected db)) db ∧
        s'.working = s'.persisted := by
  obtain ⟨rfl, hworking⟩ := hboth
  unfold Stage.run
  have hread : (Program.read : Program Db Failure Db) s = (.ok s.working, s.load) := rfl
  rw [Program.bind_of_ok hread, hworking, Program.bind_of_ok (loop_of_succeeds rfl hok)]
  by_cases hempty : stage.selected s.persisted = []
  · rw [hempty]
    exact ⟨_, rfl, rfl, hworking⟩
  · rw [if_pos hempty]
    refine ⟨_, rfl, ?_, rfl⟩
    show stage.transitions _ s.working = _
    rw [hworking]

theorem stage_of_failure (hboth : s.persisted = db ∧ s.working = db)
    (hselected : stage.selected db = before ++ sub :: after) (hok : stage.Succeeds fails before)
    (hskips : stage.skips sub = false) (hfails : fails stage.action sub.id = some text) :
    ∃ s', stage.run fails s =
      (if after = [] then .ok ((stage.attempted before).map stage.success ++
        [⟨sub.id, stage.action, some text⟩]) else .error .missingGreenlet, s') ∧
        s'.persisted = db ∧ s'.working = db := by
  obtain ⟨rfl, hworking⟩ := hboth
  unfold Stage.run
  have hread : (Program.read : Program Db Failure Db) s = (.ok s.working, s.load) := rfl
  have hloop : (stage.selected s.persisted).foldlM (stage.turn fails) [] s.load =
      (if after = [] then .ok ([] ++ (stage.attempted before).map stage.success ++
        [⟨sub.id, stage.action, some text⟩]) else .error .missingGreenlet, s.load.rollback) := by
    rw [hselected]
    exact loop_of_failure rfl hok hskips hfails
  rw [Program.bind_of_ok hread, hworking]
  by_cases hlast : after = []
  · rw [if_pos hlast] at hloop ⊢
    rw [Program.bind_of_ok hloop, if_pos (by rw [hselected]; simp)]
    exact ⟨_, rfl, rfl, rfl⟩
  · rw [if_neg hlast] at hloop ⊢
    rw [Program.bind_of_error hloop]
    exact ⟨_, rfl, rfl, rfl⟩

end Trackpal.Lifecycle
