import Trackpal.Foundation.Runs
import Trackpal.Lifecycle.CleanupReport
import Trackpal.Lifecycle.Mutations

/-!
# Subscriptions over whole histories

Histories of requests and of the stages of the cleanup, in any order. Each request and each
stage is a transaction of its own.
-/

namespace Trackpal.Lifecycle

open Trackpal.Protocol Trackpal.Foundation Trackpal.Subscriptions MutationLemmas CleanupLemmas

/-! ## Histories -/

/-- The requests; those of which the schema rejects the payload raise too. -/
inductive Operation where
  | create (payload : SubscriptionCreate)
  | update (subscriptionId : UUID) (payload : SubscriptionUpdate)
  | cancel (subscriptionId : UUID) (notes : Option String)
  | reactivate (subscriptionId : UUID) (durationType : String)
      (startsAt expiresAt : Option DateTime) (notes : Option String)
  | renew (subscriptionId : UUID) (durationType : String) (expiresAt : Option DateTime)
      (notes : Option String)

def Operation.perform (dir : Directory) (fernet : Fernet) (req : Request) :
    Operation → Program Db Failure (Option Subscription)
  | .create payload => do
    liftExcept payload.validate
    createSubscription dir fernet req payload
  | .update subscriptionId payload => do
    liftExcept payload.validate
    updateSubscription dir fernet req subscriptionId payload
  | .cancel subscriptionId notes => cancelSubscription req subscriptionId notes
  | .reactivate subscriptionId durationType startsAt expiresAt notes =>
    reactivateSubscription req subscriptionId durationType startsAt expiresAt notes
  | .renew subscriptionId durationType expiresAt notes =>
    renewSubscription req subscriptionId durationType expiresAt notes

inductive Step where
  | request (req : Request) (op : Operation)
  | cleanup (now : Int) (fails : FlushFailures) (action : CleanupAction)

def stageOf (zoneInfo : String → Option WallZone) (dir : Directory) (now : Int) :
    CleanupAction → Stage
  | .expire => expireActiveSubs zoneInfo dir now
  | .cancelExpired => cancelLongExpiredSubs dir now
  | .deleteCancelled => deleteOldCancelledSubs dir now

def step (zoneInfo : String → Option WallZone) (dir : Directory) (fernet : Fernet) (db : Db) :
    Step → Option Db
  | .request req op => some ((op.perform dir fernet req).run db).2
  | .cleanup now fails action => some (((stageOf zoneInfo dir now action).run fails).run db).2

/-! ## Integrity -/

variable (dir : Directory) (fernet : Fernet)

/-- What is to hold of a subscription; only the PIN that is not the empty text needs a profile. -/
structure Intact (sub : Subscription) : Prop where
  consistent : Consistent dir sub.tenantId sub.clientId sub.serviceId sub.planId
  token : sub.profilePinEncrypted ≠ some ""
  pin : ∀ token ∈ sub.profilePinEncrypted, fernet.decrypt token ≠ some "" →
    truthy sub.profileName = true
  cancelled : sub.status = .cancelled ↔ sub.cancelledAt.isSome = true

def AllIntact (db : Db) : Prop := ∀ sub ∈ db.subscriptions.rows, Intact dir fernet sub

/-- A request that ends has written one row, with one event, or has found nothing. -/
def Served (db after : Db) : Option Subscription → Prop
  | none => after = db
  | some sub => (∃ event, event.subscriptionId = sub.id ∧ after.events = db.events ++ [event]) ∧
      after.reminderLogs = db.reminderLogs ∧ after.subscriptions.get sub.id = some sub ∧
      ∀ id, id ≠ sub.id → after.subscriptions.get id = db.subscriptions.get id

/-- A stage has written some rows, with one event for each, or deleted them with theirs. -/
def Cleaned (action : CleanupAction) (db after : Db) : Prop :=
  if action = .deleteCancelled then
    ∀ id, after.holding id = db.holding id ∨ after.holding id = ⟨none, [], []⟩
  else ∃ events, after.events = db.events ++ events ∧ (events.map (·.subscriptionId)).Nodup ∧
    ∀ id, after.subscriptions.get id ≠ db.subscriptions.get id ↔ id ∈ events.map (·.subscriptionId)

structure StepsKeep (zoneInfo : String → Option WallZone) (db : Db) : Prop where
  request : ∀ req op, match (Operation.perform dir fernet req op).run db with
    | (.error _, after) => after = db
    | (.ok result, after) => Served db after result
  cleanup : ∀ now fails action, match ((stageOf zoneInfo dir now action).run fails).run db with
    | (.error _, after) => after = db
    | (.ok _, after) => Cleaned action db after

variable {dir fernet} {req : Request} {db : Db} {sub : Subscription}
  {zoneInfo : String → Option WallZone} {id : UUID}

def Commits (dir : Directory) (fernet : Fernet) (db : Db) (result : Option Subscription)
    (s : Session Db) : Prop :=
  Served db s.persisted result ∧ ∀ sub ∈ result,
    (∀ old, db.subscriptions.get sub.id = some old → Intact dir fernet old) → Intact dir fernet sub

namespace IntegrityLemmas

theorem commits_of_put {w : Db} {event : SubscriptionEvent} {s : Session Db}
    (h : s.persisted = w.log event) (hself : w.subscriptions.get sub.id = some sub)
    (hother : ∀ id, id ≠ sub.id → w.subscriptions.get id = db.subscriptions.get id)
    (hevents : w.events = db.events) (hlogs : w.reminderLogs = db.reminderLogs)
    (hevent : event.subscriptionId = sub.id)
    (hintact : (∀ old, db.subscriptions.get sub.id = some old → Intact dir fernet old) →
      Intact dir fernet sub) :
    Commits dir fernet db (some sub) s := by
  refine ⟨?_, ?_⟩
  · rw [h]
    refine ⟨⟨event, hevent, ?_⟩, hlogs, hself, hother⟩
    show w.events ++ [event] = db.events ++ [event]
    rw [hevents]
  · rintro _ ⟨⟩
    exact hintact

theorem of_get {tenantId : UUID}
    (h : some sub = (db.subscriptions.get id).filter (·.tenantId = tenantId)) :
    db.subscriptions.get id = some sub ∧ sub.id = id ∧ sub.tenantId = tenantId := by
  obtain ⟨hget, htenant⟩ := Option.filter_eq_some_iff.mp h.symm
  exact ⟨hget, Table.key_of_get hget, by simpa using htenant⟩

theorem triple_none : Triple (Wrote db db) (pure none) (Commits dir fernet db) (Kept db) := by
  refine Triple.pure fun s h => ⟨h.1, ?_⟩
  rintro _ ⟨⟩

theorem triple_put_finish {eventType : EventType} {notes errCode : String}
    (hget : (db.subscriptions.get sub.id).isSome = true)
    (hintact : (∀ old, db.subscriptions.get sub.id = some old → Intact dir fernet old) →
      Intact dir fernet sub) :
    Triple (Wrote db db) (do
      putRow sub
      finish req sub eventType notes errCode) (Commits dir fernet db) (Kept db) := by
  refine Triple.bind _ triple_change fun _ => ?_
  refine Triple.consequence triple_finish (fun _ h => h) ?_ fun _ _ h => h
  rintro _ s ⟨rfl, h⟩
  exact commits_of_put h (get_put_self hget) (fun id hid => get_put_of_ne hid) rfl rfl rfl hintact

theorem triple_cancel {notes : Option String} :
    Triple (Wrote db db) (cancelSubscription req id notes) (Commits dir fernet db) (Kept db) := by
  unfold cancelSubscription
  refine Triple.bind _ triple_get fun found => Triple.pull fun hfound => ?_
  cases found with
  | none => exact triple_none
  | some sub =>
    obtain ⟨hget, rfl, -⟩ := of_get hfound
    refine triple_put_finish (by rw [hget]; rfl) fun hold => ?_
    have h := hold sub hget
    exact ⟨h.consistent, h.token, h.pin, iff_of_true rfl rfl⟩

theorem triple_reactivate {durationType : String} {startsAt expiresAt : Option DateTime}
    {notes : Option String} :
    Triple (Wrote db db) (reactivateSubscription req id durationType startsAt expiresAt notes)
      (Commits dir fernet db) (Kept db) := by
  unfold reactivateSubscription
  refine Triple.bind _ triple_get fun found => Triple.pull fun hfound => ?_
  cases found with
  | none => exact triple_none
  | some sub =>
    obtain ⟨hget, rfl, -⟩ := of_get hfound
    refine Triple.bind _ triple_liftExcept fun calculated => Triple.pull fun _ => ?_
    refine triple_put_finish (by rw [hget]; rfl) fun hold => ?_
    have h := hold sub hget
    exact ⟨h.consistent, h.token, h.pin, iff_of_false nofun (by simp)⟩

theorem triple_renew {durationType : String} {expiresAt : Option DateTime} {notes : Option String} :
    Triple (Wrote db db) (renewSubscription req id durationType expiresAt notes)
      (Commits dir fernet db) (Kept db) := by
  unfold renewSubscription
  refine Triple.bind _ triple_get fun found => Triple.pull fun hfound => ?_
  cases found with
  | none => exact triple_none
  | some sub =>
    obtain ⟨hget, rfl, -⟩ := of_get hfound
    refine Triple.bind _ triple_liftExcept fun calculated => Triple.pull fun _ => ?_
    refine triple_put_finish (by rw [hget]; rfl) fun hold => ?_
    have h := hold sub hget
    exact ⟨h.consistent, h.token, h.pin, iff_of_false nofun (by simp)⟩

theorem truthy_iff {value : Option String} : truthy value = true ↔ ∃ text, value = some text ∧ text ≠ "" := by
  simp [truthy, Option.any_eq_true]

theorem pin_of_created {pin name : Option String} {draw : Nat} {token : String}
    (hcheck : (truthy pin && !truthy name) = false) (htoken : token ∈ encryptValue fernet draw pin)
    (hpin : fernet.decrypt token ≠ some "") : truthy name = true := by
  obtain ⟨text, htext, rfl⟩ := Option.map_eq_some_iff.mp htoken
  rw [fernet.decrypt_encrypt] at hpin
  have htruthy : truthy pin = true := truthy_iff.mpr ⟨text, htext, fun h => hpin (congrArg some h)⟩
  rw [htruthy] at hcheck
  simpa using hcheck

theorem encryptValue_ne {draw : Nat} {value : Option String} :
    encryptValue fernet draw value ≠ some "" := by
  intro h
  obtain ⟨text, -, htext⟩ := Option.map_eq_some_iff.mp h
  exact fernet.encrypt_ne draw text htext

theorem triple_create {payload : SubscriptionCreate} :
    Triple (Wrote db db) (createSubscription dir fernet req payload) (Commits dir fernet db)
      (Kept db) := by
  unfold createSubscription
  refine Triple.bind _ triple_validateIds fun _ => Triple.pull fun hids => ?_
  refine Triple.bind _ triple_raiseIf fun _ => Triple.pull fun hpin => ?_
  refine Triple.bind _ triple_liftExcept fun calculated => Triple.pull fun _ => ?_
  refine Triple.bind _ triple_read fun read => Triple.pull fun hread => ?_
  obtain rfl : db = read := hread.symm
  refine Triple.bind _ triple_raiseIf fun _ => Triple.pull fun hnew => ?_
  refine Triple.bind _ triple_change fun _ => Triple.bind _ triple_flush fun _ => ?_
  refine Triple.consequence triple_finish (fun _ h => h) ?_ fun _ _ h => h
  rintro _ s ⟨rfl, h⟩
  obtain ⟨_, _, _, ⟨⟩, ⟨⟩, ⟨⟩, hconsistent⟩ := hids
  have hfresh : db.subscriptions.get req.uuid4 = none := by simpa using hnew
  refine commits_of_put h (Table.get_insert_self hfresh) (fun id hid => Table.get_insert_of_ne hid)
    rfl rfl rfl fun _ => ?_
  exact ⟨hconsistent, encryptValue_ne, fun token htoken hne => pin_of_created hpin htoken hne,
    iff_of_false (by simp) (by simp)⟩

theorem updatedSecret_ne {draw : Nat} {old : Option String} {value : Option (Option String)}
    (hold : old ≠ some "") : updatedSecret fernet draw old value ≠ some "" := by
  cases value with
  | none => exact hold
  | some value => exact encryptValue_ne

theorem triple_update {payload : SubscriptionUpdate} :
    Triple (Wrote db db) (updateSubscription dir fernet req id payload) (Commits dir fernet db)
      (Kept db) := by
  unfold updateSubscription
  refine Triple.bind _ triple_get fun found => Triple.pull fun hfound => ?_
  cases found with
  | none => exact triple_none
  | some sub =>
    obtain ⟨hget, rfl, htenant⟩ := of_get hfound
    refine Triple.bind _ triple_raiseIf fun _ => Triple.pull fun _ => ?_
    refine Triple.bind _ triple_validateIds fun _ => Triple.pull fun hids => ?_
    obtain ⟨c, v, p, hc, hv, hp, hconsistent⟩ := hids
    refine Triple.bind _ triple_change fun _ => ?_
    refine Triple.bind _ triple_raiseIf fun _ => Triple.pull fun hpin => ?_
    refine Triple.bind _ triple_liftExcept fun times => Triple.pull fun _ => ?_
    match times with
    | (none, _, _) => exact Triple.raise fun _ h => h.1
    | (some _, none, _) => exact Triple.raise fun _ h => h.1
    | (some _, some _, none) => exact Triple.raise fun _ h => h.1
    | (some startsAt, some durationType, some expiresAt) =>
      refine Triple.bind _ triple_change fun _ => ?_
      refine Triple.bind _ triple_raiseIf fun _ => Triple.pull fun _ => ?_
      refine Triple.consequence triple_finish (fun _ h => h) ?_ fun _ _ h => h
      rintro _ s ⟨rfl, h⟩
      have hold : (db.subscriptions.get sub.id).isSome = true := by
        rw [hget]
        rfl
      refine commits_of_put h (get_put_self ?_) (fun id hid => ?_) rfl rfl rfl fun hintact => ?_
      · rw [isSome_get_put]
        exact hold
      · exact (get_put_of_ne hid).trans (get_put_of_ne hid)
      · have hsub := hintact sub hget
        have htoken : updatedSecret fernet req.pinDraw sub.profilePinEncrypted payload.profilePin ≠
            some "" := updatedSecret_ne hsub.token
        refine ⟨?_, htoken, fun token hmem _ => ?_, hsub.cancelled⟩
        · show Consistent dir sub.tenantId ((payload.clientId.getD (some sub.clientId)).getD _)
            ((payload.serviceId.getD (some sub.serviceId)).getD _)
            ((payload.planId.getD (some sub.planId)).getD _)
          rw [hc, hv, hp, htenant]
          exact hconsistent
        · have htruthy : truthy (updatedSecret fernet req.pinDraw sub.profilePinEncrypted
              payload.profilePin) = true :=
            truthy_iff.mpr ⟨token, hmem, fun hempty => htoken (by rw [← hempty]; exact hmem)⟩
          rw [htruthy] at hpin
          simpa using hpin

theorem triple_perform {op : Operation} :
    Triple (Wrote db db) (op.perform dir fernet req) (Commits dir fernet db) (Kept db) := by
  cases op with
  | create payload =>
    exact Triple.bind _ triple_liftExcept fun _ => Triple.pull fun _ => triple_create
  | update id payload =>
    exact Triple.bind _ triple_liftExcept fun _ => Triple.pull fun _ => triple_update
  | cancel id notes => exact triple_cancel
  | reactivate id durationType startsAt expiresAt notes => exact triple_reactivate
  | renew id durationType expiresAt notes => exact triple_renew

theorem run_perform (dir : Directory) (fernet : Fernet) (req : Request) (op : Operation) (db : Db) :
    (∀ result after, (op.perform dir fernet req).run db = (.ok result, after) →
      ∃ s, s.persisted = after ∧ Commits dir fernet db result s) ∧
    ∀ failure after, (op.perform dir fernet req).run db = (.error failure, after) → after = db := by
  have hstart : Triple (· = .start db) (op.perform dir fernet req) (Commits dir fernet db) (Kept db) :=
    Triple.consequence triple_perform (fun s h => by rw [h]; exact ⟨rfl, rfl⟩) (fun _ _ h => h)
      fun _ _ h => h
  refine ⟨hstart.run.1, fun failure after h => ?_⟩
  obtain ⟨s, rfl, hkept⟩ := hstart.run.2 failure after h
  exact hkept

theorem intact_of_commits {result : Option Subscription} {s : Session Db}
    (h : Commits dir fernet db result s) (hall : AllIntact dir fernet db) :
    AllIntact dir fernet s.persisted := by
  intro sub hsub
  have hget := Table.get_of_mem hsub
  have hold : ∀ id old, db.subscriptions.get id = some old → Intact dir fernet old :=
    fun id old hget => hall old (Table.get_eq_some.mp hget).1
  obtain ⟨hserved, hintact⟩ := h
  cases result with
  | none =>
    rw [show s.persisted = db from hserved] at hget
    exact hold _ _ hget
  | some written =>
    obtain ⟨-, -, hself, hother⟩ := hserved
    by_cases hid : sub.id = written.id
    · rw [hid, hself] at hget
      obtain rfl := Option.some.inj hget
      exact hintact _ rfl fun old hget => hold _ _ hget
    · rw [hother _ hid] at hget
      exact hold _ _ hget

/-! ## The cleanup -/

theorem run_stage {stage : Stage} {fails : FlushFailures} :
    (∀ results after, (stage.run fails).run db = (.ok results, after) →
      after = stage.transitions (stage.attempted (stage.selected db)) db ∨ after = db) ∧
    ∀ failure after, (stage.run fails).run db = (.error failure, after) → after = db := by
  rcases succeeds_or_failure fails stage (stage.selected db) with
    hok | ⟨before, sub, rest, text, hselected, hok, hskips, hfails⟩
  · obtain ⟨s, hrun, hpersisted, -⟩ := stage_of_clean (both_start db) hok
    rw [run_eq hrun, hpersisted]
    constructor
    · rintro results after ⟨⟩
      exact Or.inl rfl
    · rintro failure after ⟨⟩
  · obtain ⟨s, hrun, hpersisted, -⟩ := stage_of_failure (both_start db) hselected hok hskips hfails
    rw [run_eq hrun, hpersisted]
    constructor
    · rintro results after h
      exact Or.inr (Prod.mk.inj h).2.symm
    · rintro failure after h
      exact (Prod.mk.inj h).2.symm

theorem after_stage {stage : Stage} {fails : FlushFailures} :
    ((stage.run fails).run db).2 = stage.transitions (stage.attempted (stage.selected db)) db ∨
      ((stage.run fails).run db).2 = db := by
  cases hrun : (stage.run fails).run db with
  | mk result after =>
    cases result with
    | ok results => exact run_stage.1 results after hrun
    | error failure => exact Or.inr (run_stage.2 failure after hrun)

section

variable {stage : Stage} {f : Subscription → Subscription} {hf : ∀ row, (f row).id = row.id}
  {event : Subscription → SubscriptionEvent} {subs : List Subscription}

theorem events_of_rewrite
    (htransition : ∀ sub db, stage.transition sub db = db.rewrite sub f hf (event sub)) :
    (stage.transitions subs db).events = db.events ++ subs.map event := by
  induction subs generalizing db with
  | nil => exact (List.append_nil _).symm
  | cons sub subs ih =>
    refine ih.trans ?_
    show (stage.transition sub db).events ++ subs.map event = _
    rw [htransition, List.map_cons]
    exact List.append_assoc _ _ _

theorem get_of_attempted (hlawful : stage.Lawful)
    (htransition : ∀ sub db, stage.transition sub db = db.rewrite sub f hf (event sub))
    (h : sub ∈ stage.attempted (stage.selected db)) :
    (stage.transitions (stage.attempted (stage.selected db)) db).subscriptions.get sub.id =
      some (f sub) := by
  have hselected := (mem_attempted.mp h).1
  have hrow : (stage.transitions (stage.attempted (stage.selected db)) db).holding sub.id =
      (stage.transition sub db).holding sub.id := holding_of_mem hlawful nodup_attempted h
  refine (congrArg Holding.row hrow).trans ?_
  rw [htransition]
  show (db.subscriptions.modify sub.id f hf).get sub.id = some (f sub)
  rw [Table.get_modify_self, get_of_selected hselected, Option.map_some]

theorem get_of_not_attempted (hlawful : stage.Lawful)
    (h : ∀ sub ∈ stage.attempted (stage.selected db), sub.id ≠ id) :
    (stage.transitions (stage.attempted (stage.selected db)) db).subscriptions.get id =
      db.subscriptions.get id :=
  congrArg Holding.row (holding_of_not_mem hlawful h)

theorem cleaned_of_rewrite {fails : FlushFailures} (hlawful : stage.Lawful)
    (htransition : ∀ sub db, stage.transition sub db = db.rewrite sub f hf (event sub))
    (hevent : ∀ sub, (event sub).subscriptionId = sub.id)
    (hchanges : ∀ sub ∈ stage.selected db, f sub ≠ sub) {results : List CleanupResult} {after : Db}
    (h : (stage.run fails).run db = (.ok results, after)) :
    ∃ events, after.events = db.events ++ events ∧ (events.map (·.subscriptionId)).Nodup ∧
      ∀ id, after.subscriptions.get id ≠ db.subscriptions.get id ↔
        id ∈ events.map (·.subscriptionId) := by
  rcases run_stage.1 results after h with rfl | rfl
  · have hids : ((stage.attempted (stage.selected db)).map event).map (·.subscriptionId) =
        (stage.attempted (stage.selected db)).map (·.id) := by
      rw [List.map_map]
      exact List.map_congr_left fun sub _ => hevent sub
    refine ⟨_, events_of_rewrite htransition, by rw [hids]; exact nodup_attempted, fun id => ?_⟩
    rw [hids]
    constructor
    · intro hne
      by_contra hnone
      refine hne (get_of_not_attempted hlawful fun sub hsub hid => hnone ?_)
      exact List.mem_map.mpr ⟨sub, hsub, hid⟩
    · intro hmem
      obtain ⟨sub, hsub, rfl⟩ := List.mem_map.mp hmem
      have hselected := (mem_attempted.mp hsub).1
      rw [get_of_attempted hlawful htransition hsub, get_of_selected hselected]
      exact fun heq => hchanges sub hselected (Option.some.inj heq)
  · exact ⟨[], (List.append_nil _).symm, List.nodup_nil, fun id => by simp⟩

theorem intact_of_rewrite {fails : FlushFailures} (hlawful : stage.Lawful)
    (htransition : ∀ sub db, stage.transition sub db = db.rewrite sub f hf (event sub))
    (hintact : ∀ sub ∈ stage.selected db, Intact dir fernet sub → Intact dir fernet (f sub))
    (hall : AllIntact dir fernet db) :
    AllIntact dir fernet ((stage.run fails).run db).2 := by
  rcases after_stage with heq | heq
  · rw [heq]
    intro row hrow
    have hget := Table.get_of_mem hrow
    by_cases hattempted : ∃ sub ∈ stage.attempted (stage.selected db), sub.id = row.id
    · obtain ⟨sub, hsub, hid⟩ := hattempted
      have hselected := (mem_attempted.mp hsub).1
      rw [← hid, get_of_attempted hlawful htransition hsub] at hget
      obtain rfl := Option.some.inj hget
      exact hintact sub hselected (hall sub (Table.get_eq_some.mp (get_of_selected hselected)).1)
    · rw [get_of_not_attempted hlawful fun sub hsub hid => hattempted ⟨sub, hsub, hid⟩] at hget
      exact hall row (Table.get_eq_some.mp hget).1
  · rw [heq]
    exact hall

end

theorem holding_of_delete (dir : Directory) (now : Int) (fails : FlushFailures) (db : Db)
    (id : UUID) :
    (((deleteOldCancelledSubs dir now).run fails).run db).2.holding id = db.holding id ∨
      (((deleteOldCancelledSubs dir now).run fails).run db).2.holding id = ⟨none, [], []⟩ := by
  rcases after_stage with heq | heq
  · rw [heq]
    by_cases hattempted : ∃ sub ∈ (deleteOldCancelledSubs dir now).attempted
        ((deleteOldCancelledSubs dir now).selected db), sub.id = id
    · obtain ⟨sub, hsub, rfl⟩ := hattempted
      exact Or.inr ((holding_of_mem lawful_delete nodup_attempted hsub).trans holding_delete_self)
    · exact Or.inl (holding_of_not_mem lawful_delete fun sub hsub hid =>
        hattempted ⟨sub, hsub, hid⟩)
  · rw [heq]
    exact Or.inl rfl

theorem intact_of_perform {op : Operation} (hall : AllIntact dir fernet db) :
    AllIntact dir fernet ((op.perform dir fernet req).run db).2 := by
  have hrun := run_perform dir fernet req op db
  cases h : (op.perform dir fernet req).run db with
  | mk result after =>
    cases result with
    | error failure =>
      rw [hrun.2 failure after h]
      exact hall
    | ok result =>
      obtain ⟨s, rfl, hcommits⟩ := hrun.1 result after h
      exact intact_of_commits hcommits hall

end IntegrityLemmas

open IntegrityLemmas

variable (zoneInfo dir) in
theorem status_of_selected (now : Int) :
    (∀ sub ∈ (expireActiveSubs zoneInfo dir now).selected db, sub.status = .active) ∧
      ∀ sub ∈ (cancelLongExpiredSubs dir now).selected db, sub.status = .expired := by
  constructor
  · intro sub hsub
    have h := (Table.get_of_mem_select hsub).2
    simp only [expireActiveSubs, Bool.and_eq_true, decide_eq_true_eq] at h
    exact h.1.2
  · intro sub hsub
    have h := (Table.get_of_mem_select hsub).2
    simp only [cancelLongExpiredSubs, Bool.and_eq_true, decide_eq_true_eq] at h
    exact h.1.2

theorem intact_of_stage {now : Int} {fails : FlushFailures} {action : CleanupAction}
    (hall : AllIntact dir fernet db) :
    AllIntact dir fernet (((stageOf zoneInfo dir now action).run fails).run db).2 := by
  cases action with
  | expire =>
    refine intact_of_rewrite lawful_expire (fun _ _ => rfl) (fun sub hsub h => ?_) hall
    refine ⟨h.consistent, h.token, h.pin, iff_of_false nofun fun hsome => ?_⟩
    have hcancelled := h.cancelled.mpr hsome
    rw [(status_of_selected dir zoneInfo now).1 sub hsub] at hcancelled
    cases hcancelled
  | cancelExpired =>
    refine intact_of_rewrite lawful_cancel (fun _ _ => rfl) (fun sub hsub h => ?_) hall
    exact ⟨h.consistent, h.token, h.pin, iff_of_true rfl rfl⟩
  | deleteCancelled =>
    intro row hrow
    have hget := Table.get_of_mem hrow
    rcases holding_of_delete dir now fails db row.id with hsame | hnone
    · exact hall row (Table.get_eq_some.mp ((congrArg Holding.row hsame).symm.trans hget)).1
    · have hgone := (congrArg Holding.row hnone).symm.trans hget
      cases hgone

/-- What raises changes nothing, a request that ends has one event for its row, and a stage of the
cleanup one for each row that it changes. -/
theorem stepsKeep (zoneInfo : String → Option WallZone) (db : Db) :
    StepsKeep dir fernet zoneInfo db where
  request req op := by
    have hrun := run_perform dir fernet req op db
    split
    · next failure after h => exact hrun.2 failure after h
    · next result after h =>
      obtain ⟨s, rfl, hserved, -⟩ := hrun.1 result after h
      exact hserved
  cleanup now fails action := by
    split
    · next failure after h => exact run_stage.2 failure after h
    · next results after h =>
      cases action with
      | expire =>
        refine cleaned_of_rewrite lawful_expire (fun _ _ => rfl) (fun _ => rfl) ?_ h
        intro sub hsub heq
        have hstatus := congrArg Subscription.status heq
        rw [(status_of_selected dir zoneInfo now).1 sub hsub] at hstatus
        cases hstatus
      | cancelExpired =>
        refine cleaned_of_rewrite lawful_cancel (fun _ _ => rfl) (fun _ => rfl) ?_ h
        intro sub hsub heq
        have hstatus := congrArg Subscription.status heq
        rw [(status_of_selected dir zoneInfo now).2 sub hsub] at hstatus
        cases hstatus
      | deleteCancelled =>
        intro id
        have hdelete : after = (((deleteOldCancelledSubs dir now).run fails).run db).2 :=
          (congrArg Prod.snd h).symm
        rw [hdelete]
        exact holding_of_delete dir now fails db id

/-- Over a history, every subscription is as it is to be, and each step keeps to its events. -/
theorem integrity_of_reaches {db₀ : Db} (hall : AllIntact dir fernet db₀)
    (h : Reaches (step zoneInfo dir fernet) Always db₀ db) :
    AllIntact dir fernet db ∧ StepsKeep dir fernet zoneInfo db := by
  refine ⟨Reaches.invariant h hall fun before a after hbefore _ hstep => ?_, stepsKeep zoneInfo db⟩
  cases a with
  | request req op =>
    obtain rfl : ((op.perform dir fernet req).run before).2 = after := Option.some.inj hstep
    exact intact_of_perform hbefore
  | cleanup now fails action =>
    obtain rfl : (((stageOf zoneInfo dir now action).run fails).run before).2 = after :=
      Option.some.inj hstep
    exact intact_of_stage hbefore

def exFernet : Fernet where
  encrypt _ value := "g" ++ value
  decrypt token :=
    match token.toList with
    | 'g' :: value => some (String.ofList value)
    | _ => none
  encrypt_ne draw value h := by
    have hlist := congrArg String.toList h
    rw [String.toList_append] at hlist
    cases hlist
  decrypt_encrypt draw value := by
    rw [String.toList_append]
    exact congrArg some (String.ofList_toList)

def exRequest : Request where
  tenantId := ⟨2⟩
  now := 0
  uuid4 := ⟨7⟩
  passwordDraw := 0
  pinDraw := 0
  refuses _ := none

def exStart : DateTime where
  year := 1970
  month := 1
  day := 1
  hour := 0
  minute := 0
  second := 0
  microsecond := 0
  offset := none

def exCreate : SubscriptionCreate where
  clientId := ⟨3⟩
  serviceId := ⟨4⟩
  planId := ⟨5⟩
  streamingEmail := "ana@example.com"
  streamingPassword := none
  profileName := none
  profilePin := some ""
  durationType := "1_month"
  startsAt := exStart
  expiresAt := none

theorem exDb_intact : AllIntact exDirectory exFernet exDb := by
  intro sub hsub
  have hall : ∀ sub ∈ exDb.subscriptions.rows, sub.tenantId = ⟨2⟩ ∧ sub.clientId = ⟨3⟩ ∧
      sub.serviceId = ⟨4⟩ ∧ sub.planId = ⟨5⟩ ∧ sub.profilePinEncrypted = none ∧
        sub.cancelledAt = none ∧ sub.status = .active := by decide
  obtain ⟨htenant, hclient, hservice, hplan, hpin, hcancelled, hstatus⟩ := hall sub hsub
  constructor
  · rw [htenant, hclient, hservice, hplan]
    exact ⟨⟨_, List.mem_singleton_self _, rfl, rfl⟩, ⟨_, List.mem_singleton_self _, rfl, rfl⟩,
      ⟨_, List.mem_singleton_self _, rfl, rfl, rfl⟩⟩
  · rw [hpin]
    exact (Option.some_ne_none _).symm
  · intro token htoken
    rw [hpin] at htoken
    cases htoken
  · rw [hcancelled, hstatus]
    decide

/-- The subscriptions of the example, after the stage that expires them. -/
theorem expired_intact : AllIntact exDirectory exFernet
      (((expireActiveSubs (fun _ => none) exDirectory dayLength).run fun _ _ => none).run exDb).2 ∧
    StepsKeep exDirectory exFernet (fun _ => none)
      (((expireActiveSubs (fun _ => none) exDirectory dayLength).run fun _ _ => none).run exDb).2 := by
  have hstep : step (fun _ => none) exDirectory exFernet exDb
      (.cleanup dayLength (fun _ _ => none) .expire) = some
        (((expireActiveSubs (fun _ => none) exDirectory dayLength).run fun _ _ => none).run exDb).2 :=
    rfl
  exact integrity_of_reaches exDb_intact (.tail .refl trivial hstep)

/-- A cleanup that ends has an event for each of the two subscriptions, and a request stores a
token for the empty PIN without a profile. -/
theorem two_events_of_cleanup :
    ((runCleanup (fun _ _ => none) (fun _ => none) exDirectory dayLength).run exDb).1 =
        .ok [⟨⟨1⟩, .expire, none⟩, ⟨⟨6⟩, .expire, none⟩] ∧
      ((runCleanup (fun _ _ => none) (fun _ => none) exDirectory dayLength).run exDb).2.events.length =
        exDb.events.length + 2 ∧
      ((((Operation.create exCreate).perform exDirectory exFernet exRequest).run exDb
        ).2.subscriptions.get ⟨7⟩).map (fun sub => (sub.profilePinEncrypted, sub.profileName)) =
          some (some "g", none) := by
  refine ⟨by decide +kernel, by decide +kernel, by decide +kernel⟩

end Trackpal.Lifecycle
