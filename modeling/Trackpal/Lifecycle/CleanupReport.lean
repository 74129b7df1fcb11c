import Trackpal.Lifecycle.Cleanup

/-!
# What the cleanup reports

A report is to say of each subscription that a stage selected what was committed for it. The
stages are compared with the transitions that they make without failures.
-/

namespace Trackpal.Lifecycle

open Trackpal.Protocol Trackpal.Foundation Trackpal.Subscriptions CleanupLemmas

/-! ## Reports that match -/

/-- What was committed before and after a stage holds the same of a subscription. -/
def Unchanged (id : UUID) (before after : Db) : Prop := after.holding id = before.holding id

def Stage.Committed (stage : Stage) (sub : Subscription) (before after : Db) : Prop :=
  after.holding sub.id = (stage.transition sub before).holding sub.id

structure StageMatches (fails : FlushFailures) (stage : Stage) (before : Db)
    (results : List CleanupResult) (after : Db) : Prop where
  ends : (stage.run fails).run before = (.ok results, after)
  success_iff : ∀ sub ∈ stage.selected before,
    (∃ r ∈ results, r.id = sub.id ∧ r.succeeded = true) ↔ stage.Committed sub before after
  failed_unchanged : ∀ r ∈ results, r.succeeded = false → Unchanged r.id before after
  others : ∀ sub ∈ stage.attempted (stage.selected before), fails stage.action sub.id = none →
    ∃ r ∈ results, r.id = sub.id ∧ r.succeeded = true
  reported_or_unchanged : ∀ sub ∈ stage.selected before,
    (∃ r ∈ results, r.id = sub.id) ∨ Unchanged sub.id before after

def ReportMatches (fails : FlushFailures) (zoneInfo : String → Option WallZone) (dir : Directory)
    (now : Int) (db : Db) : Prop :=
  ∃ r₁ d₁ r₂ d₂ r₃ d₃,
    (runCleanup fails zoneInfo dir now).run db = (.ok (r₁ ++ r₂ ++ r₃), d₃) ∧
      StageMatches fails (expireActiveSubs zoneInfo dir now) db r₁ d₁ ∧
      StageMatches fails (cancelLongExpiredSubs dir now) d₁ r₂ d₂ ∧
      StageMatches fails (deleteOldCancelledSubs dir now) d₂ r₃ d₃

/-- No attempt of a stage fails, or only that of the last subscription it selected, and there is
none before it. -/
def Stage.Clean (fails : FlushFailures) (stage : Stage) (db : Db) : Prop :=
  stage.Succeeds fails (stage.selected db) ∨ ∃ before sub, stage.selected db = before ++ [sub] ∧
    stage.attempted before = [] ∧ stage.skips sub = false ∧ fails stage.action sub.id ≠ none

/-- The transitions of the attempts that do not fail. -/
def Stage.intended (fails : FlushFailures) (stage : Stage) (db : Db) : Db :=
  stage.transitions
    ((stage.attempted (stage.selected db)).filter fun sub => fails stage.action sub.id = none) db

/-! ## Transitions -/

/-- A transition changes what the tables hold of its subscription, as a function of that, and
nothing else. -/
structure Stage.Lawful (stage : Stage) : Prop where
  frame : ∀ {sub : Subscription} {db : Db} {id : UUID}, id ≠ sub.id →
    (stage.transition sub db).holding id = db.holding id
  local' : ∀ {sub : Subscription} {db db' : Db}, db.holding sub.id = db'.holding sub.id →
    (stage.transition sub db).holding sub.id = (stage.transition sub db').holding sub.id
  changes : ∀ {sub : Subscription} {db : Db}, sub ∈ stage.selected db →
    (stage.transition sub db).holding sub.id ≠ db.holding sub.id

variable {fails : FlushFailures} {stage : Stage} {sub : Subscription} {db : Db} {id : UUID}
  {subs : List Subscription} {f : Subscription → Subscription} {event : SubscriptionEvent}
  {zoneInfo : String → Option WallZone} {dir : Directory} {now : Int}

namespace CleanupLemmas

theorem holding_rewrite_self {hf : ∀ row, (f row).id = row.id} (hevent : event.subscriptionId = sub.id) :
    (db.rewrite sub f hf event).holding sub.id =
      { db.holding sub.id with
        row := (db.holding sub.id).row.map f
        events := (db.holding sub.id).events ++ [event] } := by
  unfold Db.holding Db.rewrite
  dsimp only
  rw [Table.get_modify_self, List.filter_append, List.filter_cons_of_pos (by simpa using hevent),
    List.filter_nil]

theorem holding_rewrite_of_ne {hf : ∀ row, (f row).id = row.id}
    (hevent : event.subscriptionId = sub.id) (h : id ≠ sub.id) :
    (db.rewrite sub f hf event).holding id = db.holding id := by
  have hother : ¬event.subscriptionId = id := fun heq => h (heq ▸ hevent)
  unfold Db.holding Db.rewrite
  dsimp only
  rw [Table.get_modify_of_ne h, List.filter_append, List.filter_cons_of_neg (by simpa using hother),
    List.filter_nil, List.append_nil]

theorem lawful_rewrite (f : Subscription → Subscription → Subscription)
    (hf : ∀ sub row, (f sub row).id = row.id) (event : Subscription → SubscriptionEvent)
    (hevent : ∀ sub, (event sub).subscriptionId = sub.id)
    (htransition : ∀ sub db, stage.transition sub db = db.rewrite sub (f sub) (hf sub) (event sub)) :
    stage.Lawful where
  frame {sub db id} h := by
    rw [htransition, holding_rewrite_of_ne (hevent sub) h]
  local' {sub db db'} h := by
    rw [htransition, htransition, holding_rewrite_self (hevent sub),
      holding_rewrite_self (hevent sub), h]
  changes {sub db} _ heq := by
    rw [htransition, holding_rewrite_self (hevent sub)] at heq
    have hevents := congrArg (fun h => h.events.length) heq
    simp at hevents

theorem lawful_expire : (expireActiveSubs zoneInfo dir now).Lawful :=
  lawful_rewrite (fun _ row => { row with status := .expired }) (fun _ => id_expire)
    (fun sub => sub.event .expired "Subscription expired automatically") (fun _ => rfl)
    fun _ _ => rfl

theorem lawful_cancel : (cancelLongExpiredSubs dir now).Lawful :=
  lawful_rewrite (fun _ row => { row with status := .cancelled, cancelledAt := some now })
    (fun _ => id_cancel now)
    (fun sub => sub.event .cancelled "Subscription cancelled after 7+ days expired") (fun _ => rfl)
    fun _ _ => rfl

theorem holding_delete_self : (db.delete id).holding id = ⟨none, [], []⟩ := by
  unfold Db.holding Db.delete
  dsimp only
  rw [Table.get_remove, List.filter_filter]
  congr 1
  · cases hget : db.subscriptions.get id with
    | none => rfl
    | some row => simp [Table.key_of_get hget]
  · simp
  · simp [Table.remove, List.filter_filter]

theorem holding_delete_of_ne {id' : UUID} (h : id' ≠ id) :
    (db.delete id).holding id' = db.holding id' := by
  unfold Db.holding Db.delete
  dsimp only
  rw [Table.get_remove, List.filter_filter]
  congr 1
  · cases hget : db.subscriptions.get id' with
    | none => rfl
    | some row => simp [Table.key_of_get hget, h]
  · refine List.filter_congr fun event _ => ?_
    by_cases heq : event.subscriptionId = id' <;> simp [heq, h]
  · simp only [Table.remove, List.filter_filter]
    refine List.filter_congr fun log _ => ?_
    by_cases heq : log.subscriptionId = id' <;> simp [heq, h]

theorem get_of_selected (h : sub ∈ stage.selected db) : db.subscriptions.get sub.id = some sub :=
  (Table.get_of_mem_select h).1

theorem lawful_delete : (deleteOldCancelledSubs dir now).Lawful where
  frame {sub db id} h := holding_delete_of_ne h
  local' {sub db db'} _ := by
    show (db.delete sub.id).holding sub.id = (db'.delete sub.id).holding sub.id
    rw [holding_delete_self, holding_delete_self]
  changes {sub db} hmem heq := by
    have hrow : (db.delete sub.id).holding sub.id = db.holding sub.id := heq
    rw [holding_delete_self] at hrow
    have hnone : none = db.subscriptions.get sub.id := congrArg Holding.row hrow
    rw [get_of_selected hmem] at hnone
    cases hnone

theorem holding_of_not_mem (hlawful : stage.Lawful) (h : ∀ sub ∈ subs, sub.id ≠ id) :
    (stage.transitions subs db).holding id = db.holding id := by
  induction subs generalizing db with
  | nil => rfl
  | cons sub subs ih =>
    rw [List.forall_mem_cons] at h
    exact (ih h.2).trans (hlawful.frame (Ne.symm h.1))

theorem holding_of_mem (hlawful : stage.Lawful) (hnodup : (subs.map (·.id)).Nodup)
    (h : sub ∈ subs) :
    (stage.transitions subs db).holding sub.id = (stage.transition sub db).holding sub.id := by
  induction subs generalizing db with
  | nil => cases h
  | cons first subs ih =>
    rw [List.map_cons, List.nodup_cons] at hnodup
    have hfresh : ∀ other ∈ subs, other.id ≠ first.id := fun other hother heq =>
      hnodup.1 (List.mem_map.mpr ⟨other, hother, heq⟩)
    rcases List.mem_cons.mp h with rfl | hrest
    · exact holding_of_not_mem hlawful hfresh
    · refine (ih hnodup.2 hrest).trans (hlawful.local' ?_)
      exact hlawful.frame (hfresh sub hrest)

theorem nodup_selected : ((stage.selected db).map (·.id)).Nodup :=
  db.subscriptions.nodup.sublist (List.filter_sublist.map _)

theorem nodup_attempted : ((stage.attempted (stage.selected db)).map (·.id)).Nodup :=
  nodup_selected.sublist (List.filter_sublist.map _)

theorem mem_attempted : sub ∈ stage.attempted subs ↔ sub ∈ subs ∧ stage.skips sub = false := by
  simp [Stage.attempted, List.mem_filter]

theorem attempted_append {before after : List Subscription} :
    stage.attempted (before ++ after) = stage.attempted before ++ stage.attempted after :=
  List.filter_append _ _

theorem eq_of_selected {sub' : Subscription} (h : sub ∈ stage.selected db)
    (h' : sub' ∈ stage.selected db) (hid : sub.id = sub'.id) : sub = sub' :=
  List.inj_on_of_nodup_map nodup_selected h h' hid

theorem intended_of_succeeds (h : stage.Succeeds fails (stage.selected db)) :
    stage.intended fails db = stage.transitions (stage.attempted (stage.selected db)) db := by
  unfold Stage.intended
  rw [List.filter_eq_self.mpr fun sub hsub => by simpa using h sub hsub]

/-! ## One stage -/

theorem run_eq {s' : Session Db} {result : Except Failure (List CleanupResult)}
    (h : stage.run fails (.start db) = (result, s')) :
    (stage.run fails).run db = (result, s'.persisted) := by
  unfold Program.run
  rw [h]

variable (hlawful : stage.Lawful)

theorem both_start (db : Db) : (Session.start db).persisted = db ∧ (Session.start db).working = db :=
  ⟨rfl, rfl⟩

include hlawful

theorem matches_of_succeeds
    (h : stage.Succeeds fails (stage.selected db)) :
    StageMatches fails stage db ((stage.attempted (stage.selected db)).map stage.success)
      (stage.intended fails db) := by
  obtain ⟨s', hrun, hpersisted, -⟩ := stage_of_clean (both_start db) h
  rw [intended_of_succeeds h]
  have hreported : ∀ sub ∈ stage.attempted (stage.selected db),
      ∃ r ∈ (stage.attempted (stage.selected db)).map stage.success, r.id = sub.id ∧
        r.succeeded = true := fun sub hsub =>
    ⟨stage.success sub, List.mem_map_of_mem hsub, rfl, rfl⟩
  have hskipped : ∀ sub ∈ stage.selected db, stage.skips sub = true →
      Unchanged sub.id db (stage.transitions (stage.attempted (stage.selected db)) db) := by
    intro sub hsub hskips
    refine holding_of_not_mem hlawful fun other hother heq => ?_
    obtain ⟨hother, hkept⟩ := mem_attempted.mp hother
    rw [eq_of_selected hother hsub heq, hskips] at hkept
    cases hkept
  constructor
  · rw [run_eq hrun, hpersisted]
  · intro sub hsub
    cases hskips : stage.skips sub with
    | false =>
      have hmem := mem_attempted.mpr ⟨hsub, hskips⟩
      exact iff_of_true (hreported sub hmem) (holding_of_mem hlawful nodup_attempted hmem)
    | true =>
      refine iff_of_false ?_ fun hcommitted => ?_
      · rintro ⟨r, hr, hid, -⟩
        obtain ⟨other, hother, rfl⟩ := List.mem_map.mp hr
        obtain ⟨hother, hkept⟩ := mem_attempted.mp hother
        rw [eq_of_selected hother hsub hid, hskips] at hkept
        cases hkept
      · exact hlawful.changes hsub (hcommitted.symm.trans (hskipped sub hsub hskips))
  · intro r hr hfailed
    obtain ⟨other, -, rfl⟩ := List.mem_map.mp hr
    cases hfailed
  · exact fun sub hsub _ => hreported sub hsub
  · intro sub hsub
    cases hskips : stage.skips sub with
    | false =>
      obtain ⟨r, hr, hid, -⟩ := hreported sub (mem_attempted.mpr ⟨hsub, hskips⟩)
      exact Or.inl ⟨r, hr, hid⟩
    | true => exact Or.inr (hskipped sub hsub hskips)

theorem matches_of_last {before : List Subscription}
    (hselected : stage.selected db = before ++ [sub]) (hbefore : stage.attempted before = [])
    (hskips : stage.skips sub = false) (hfails : fails stage.action sub.id ≠ none) :
    StageMatches fails stage db [⟨sub.id, stage.action, fails stage.action sub.id⟩] db ∧
      stage.intended fails db = db := by
  obtain ⟨text, htext⟩ := Option.ne_none_iff_exists'.mp hfails
  have hok : stage.Succeeds fails before := by
    rw [Stage.Succeeds, hbefore]
    simp
  obtain ⟨s', hrun, hpersisted, -⟩ := stage_of_failure (both_start db) hselected hok hskips htext
  rw [if_pos rfl, hbefore, List.map_nil, List.nil_append] at hrun
  have hattempted : stage.attempted (stage.selected db) = [sub] := by
    rw [hselected, attempted_append, hbefore, attempted_cons hskips]
    rfl
  rw [htext]
  refine ⟨?_, ?_⟩
  · constructor
    · rw [run_eq hrun, hpersisted]
    · intro other hother
      refine iff_of_false ?_ fun hcommitted => hlawful.changes hother hcommitted.symm
      rintro ⟨r, hr, -, hsucceeded⟩
      rw [List.mem_singleton.mp hr] at hsucceeded
      cases hsucceeded
    · exact fun _ _ _ => rfl
    · intro other hother hnone
      rw [hattempted, List.mem_singleton] at hother
      rw [hother, htext] at hnone
      cases hnone
    · exact fun _ _ => Or.inr rfl
  · rw [Stage.intended, hattempted, List.filter_cons_of_neg (by simp [htext])]
    rfl

theorem clean_of_matches {results : List CleanupResult} {after : Db}
    (h : StageMatches fails stage db results after) :
    stage.Clean fails db ∧ after = stage.intended fails db := by
  have hends := h.ends
  rcases succeeds_or_failure fails stage (stage.selected db) with
    hok | ⟨before, sub, rest, text, hselected, hok, hskips, hfails⟩
  · refine ⟨Or.inl hok, ?_⟩
    rw [(matches_of_succeeds hlawful hok).ends] at hends
    cases hends
    rfl
  · have hmem : ∀ other ∈ before, other ∈ stage.selected db := fun other hother => by
      rw [hselected]
      exact List.mem_append_left _ hother
    obtain ⟨s', hrun, hpersisted, -⟩ := stage_of_failure (both_start db) hselected hok hskips hfails
    rw [run_eq hrun] at hends
    by_cases hlast : rest = []
    · rw [if_pos hlast] at hends
      cases hends
      -- an attempt before the failure is reported as a success and was undone
      have hbefore : stage.attempted before = [] := by
        refine List.eq_nil_iff_forall_not_mem.mpr fun other hother => ?_
        have hselected' := hmem other (mem_attempted.mp hother).1
        have hcommitted := (h.success_iff other hselected').mp
          ⟨stage.success other, List.mem_append_left _ (List.mem_map_of_mem hother), rfl, rfl⟩
        rw [Stage.Committed, hpersisted] at hcommitted
        exact hlawful.changes hselected' hcommitted.symm
      have hne : fails stage.action sub.id ≠ none := by
        rw [hfails]
        exact Option.some_ne_none _
      rw [hlast] at hselected
      refine ⟨Or.inr ⟨before, sub, hselected, hbefore, hskips, hne⟩, ?_⟩
      rw [(matches_of_last hlawful hselected hbefore hskips hne).2, hpersisted]
    · rw [if_neg hlast] at hends
      cases hends

theorem exists_matches_iff :
    (∃ results after, StageMatches fails stage db results after) ↔ stage.Clean fails db := by
  constructor
  · rintro ⟨results, after, h⟩
    exact (clean_of_matches hlawful h).1
  · rintro (hok | ⟨before, sub, hselected, hbefore, hskips, hfails⟩)
    · exact ⟨_, _, matches_of_succeeds hlawful hok⟩
    · exact ⟨_, _, (matches_of_last hlawful hselected hbefore hskips hfails).1⟩

omit hlawful in
theorem run_in_session {s : Session Db} {results : List CleanupResult} {after : Db}
    (hboth : s.persisted = db ∧ s.working = db)
    (h : (stage.run fails).run db = (.ok results, after)) :
    ∃ s', stage.run fails s = (.ok results, s') ∧ s'.persisted = after ∧ s'.working = after := by
  rcases succeeds_or_failure fails stage (stage.selected db) with
    hok | ⟨before, sub, rest, text, hselected, hok, hskips, hfails⟩
  · obtain ⟨s₀, hstart, hpersisted₀, -⟩ := stage_of_clean (both_start db) hok
    obtain ⟨s', hrun, hpersisted, hworking⟩ := stage_of_clean hboth hok
    rw [run_eq hstart, hpersisted₀] at h
    cases h
    exact ⟨s', hrun, hpersisted, hworking.trans hpersisted⟩
  · obtain ⟨s₀, hstart, hpersisted₀, -⟩ :=
      stage_of_failure (both_start db) hselected hok hskips hfails
    obtain ⟨s', hrun, hpersisted, hworking⟩ := stage_of_failure hboth hselected hok hskips hfails
    rw [run_eq hstart, hpersisted₀] at h
    obtain ⟨hresults, rfl⟩ := Prod.mk.inj h
    rw [hresults] at hrun
    exact ⟨s', hrun, hpersisted, hworking⟩

end CleanupLemmas

theorem runCleanup_of_stages {r₁ r₂ r₃ : List CleanupResult} {d₁ d₂ d₃ : Db}
    (h₁ : ((expireActiveSubs zoneInfo dir now).run fails).run db = (.ok r₁, d₁))
    (h₂ : ((cancelLongExpiredSubs dir now).run fails).run d₁ = (.ok r₂, d₂))
    (h₃ : ((deleteOldCancelledSubs dir now).run fails).run d₂ = (.ok r₃, d₃)) :
    (runCleanup fails zoneInfo dir now).run db = (.ok (r₁ ++ r₂ ++ r₃), d₃) := by
  obtain ⟨s₁, hrun₁, hboth₁⟩ := run_in_session (both_start db) h₁
  obtain ⟨s₂, hrun₂, hboth₂⟩ := run_in_session hboth₁ h₂
  obtain ⟨s₃, hrun₃, hpersisted, -⟩ := run_in_session hboth₂ h₃
  unfold Program.run runCleanup
  rw [Program.bind_of_ok hrun₁, Program.bind_of_ok hrun₂, Program.bind_of_ok hrun₃, ← hpersisted]
  rfl

/-- The report of a cleanup matches what was committed if and only if each of its stages is clean,
after the transitions of the stages before it. -/
theorem report_matches_iff : ReportMatches fails zoneInfo dir now db ↔
    (expireActiveSubs zoneInfo dir now).Clean fails db ∧
      (cancelLongExpiredSubs dir now).Clean fails
        ((expireActiveSubs zoneInfo dir now).intended fails db) ∧
      (deleteOldCancelledSubs dir now).Clean fails
        ((cancelLongExpiredSubs dir now).intended fails
          ((expireActiveSubs zoneInfo dir now).intended fails db)) := by
  constructor
  · rintro ⟨r₁, d₁, r₂, d₂, r₃, d₃, -, h₁, h₂, h₃⟩
    obtain ⟨hclean₁, rfl⟩ := clean_of_matches lawful_expire h₁
    obtain ⟨hclean₂, rfl⟩ := clean_of_matches lawful_cancel h₂
    obtain ⟨hclean₃, -⟩ := clean_of_matches lawful_delete h₃
    exact ⟨hclean₁, hclean₂, hclean₃⟩
  · rintro ⟨hclean₁, hclean₂, hclean₃⟩
    obtain ⟨r₁, d₁, h₁⟩ := (exists_matches_iff lawful_expire).mpr hclean₁
    obtain ⟨-, rfl⟩ := clean_of_matches lawful_expire h₁
    obtain ⟨r₂, d₂, h₂⟩ := (exists_matches_iff lawful_cancel).mpr hclean₂
    obtain ⟨-, rfl⟩ := clean_of_matches lawful_cancel h₂
    obtain ⟨r₃, d₃, h₃⟩ := (exists_matches_iff lawful_delete).mpr hclean₃
    exact ⟨r₁, _, r₂, _, r₃, d₃, runCleanup_of_stages h₁.ends h₂.ends h₃.ends, h₁, h₂, h₃⟩

def exRow : Subscription where
  id := ⟨1⟩
  tenantId := ⟨2⟩
  clientId := ⟨3⟩
  serviceId := ⟨4⟩
  planId := ⟨5⟩
  streamingEmail := "ana@example.com"
  streamingPasswordEncrypted := none
  profileName := none
  profilePinEncrypted := none
  durationType := "1_month"
  startsAt := -30 * dayLength
  expiresAt := 0
  cancelledAt := none
  status := .active

def exDb : Db where
  subscriptions := ⟨[exRow, { exRow with id := ⟨6⟩ }], by decide⟩
  events := []
  reminderLogs := Table.empty

def exDirectory : Directory where
  clients := [⟨⟨3⟩, ⟨2⟩⟩]
  services := [⟨⟨4⟩, ⟨2⟩⟩]
  plans := [⟨⟨5⟩, ⟨2⟩, ⟨4⟩⟩]
  tenantPlan _ := some "pro"
  timezone _ := none

def exFails : FlushFailures := fun _ id => if id = ⟨6⟩ then some "deadlock" else none

/-- The expiry of the first subscription is reported as a success, and it is active still. -/
theorem undone_success_reported :
    ((runCleanup exFails (fun _ => none) exDirectory dayLength).run exDb).1 =
        .ok [⟨⟨1⟩, .expire, none⟩, ⟨⟨6⟩, .expire, some "deadlock"⟩] ∧
      ((runCleanup exFails (fun _ => none) exDirectory dayLength).run exDb).2.subscriptions.get ⟨1⟩ =
        some exRow ∧
      ¬ReportMatches exFails (fun _ => none) exDirectory dayLength exDb := by
  refine ⟨by decide +kernel, by decide +kernel, ?_⟩
  rintro ⟨r₁, d₁, r₂, d₂, r₃, d₃, -, h, -, -⟩
  have hselected : (expireActiveSubs (fun _ => none) exDirectory dayLength).selected exDb =
      [exRow, { exRow with id := ⟨6⟩ }] := by decide +kernel
  have hskips : (expireActiveSubs (fun _ => none) exDirectory dayLength).skips exRow = false := by
    decide +kernel
  rcases (clean_of_matches lawful_expire h).1 with hok | ⟨before, sub, hlast, hbefore, -⟩
  · have hnone := hok { exRow with id := ⟨6⟩ } (by rw [hselected]; decide +kernel)
    cases hnone
  · have hfirst : before = [exRow] := by
      have hdrop := congrArg List.dropLast (hlast.symm.trans hselected)
      rwa [List.dropLast_concat] at hdrop
    rw [hfirst, attempted_cons hskips] at hbefore
    cases hbefore

end Trackpal.Lifecycle
