import Trackpal.Subscriptions.History

/-!
# Every warning once

Endless sequences of polls, with reports between them, and one subscription whose rows stay
as they are. A warning is to be returned by the first poll on its day that is not before
the reminder time, and never again.
-/

namespace Trackpal.Subscriptions

open Trackpal.Protocol Trackpal.Foundation

/-! ## Sequences of polls -/

/-- A report of `reminder_log.py`. -/
def IsReport (_ : World) : Action → Prop
  | .poll _ => False
  | _ => True

structure Polls (env : Environment) where
  poll : Nat → Poll
  before : Nat → World
  after : Nat → World
  polled : ∀ n, step env (before n) (.poll (poll n)) = some (after n)
  reports : ∀ n, Reaches (step env) IsReport (after n) (before (n + 1))

def Polls.HalfHourly {env : Environment} (run : Polls env) : Prop :=
  ∀ n, (run.poll n).now ≤ (run.poll (n + 1)).now ∧
    (run.poll (n + 1)).now ≤ (run.poll n).now + 30 * minute

variable {env : Environment} (run : Polls env) (c : Candidate)

def Polls.items (n : Nat) : List Item := returned env (run.before n).logs (run.poll n)

/-- The rows of the subscription stay as they are, with settings that the update accepts, and
it is on the page of every poll before it expires. -/
structure Stays : Prop where
  row : ∀ n, (run.poll n).rows.subscriptions.get c.sub.id = some c.sub
  listed : ∀ n, (run.poll n).now < c.sub.expiresAt → c.sub ∈ (run.poll n).page
  tenant : ∀ n, (run.poll n).rows.tenants c.sub.tenantId = some c.tenant
  settings : ∀ n, (run.poll n).rows.settings c.sub.tenantId = some c.settings
  tenantSettings : ∀ n, (run.poll n).rows.tenantSettings c.sub.tenantId = c.tenantSettings
  client : c.sub.client = some c.client
  zone : env.zoneInfo (tzName c.tenantSettings) = some c.zone
  accepted : c.settings.accepted = true

namespace Candidate

/-- The warning days of the settings. -/
def configured : List Int := c.settings.warningDays.getD []

/-- The recipients of the mode that have a phone. -/
def reachable : List Recipient :=
  (c.recipients.filter fun r => (r.2.filter (· ≠ "")).isSome).map (·.1)

/-- The instant is on the day of the warning, and not before the reminder time. -/
def InWindow (day now : Int) : Prop :=
  c.zone.localDate now = c.zone.localDate c.sub.expiresAt - day ∧
    ∃ time, clock c.settings.reminderTime = some time ∧ time ≤ c.zone.timeOfDay now

/-- The checks that a tenant passes at every time of the day. -/
structure Reminded (env : Environment) : Prop where
  plan : c.tenant.plan = "pro"
  enabled : c.settings.remindersEnabled = true
  token : (decryptValue env c.tenant.evolutionInstanceToken).isSome = true

end Candidate

def IsFirst (p : Nat → Prop) (n : Nat) : Prop := p n ∧ ∀ m < n, ¬p m

def FirstInWindow (day : Int) (n : Nat) : Prop :=
  IsFirst (fun m => c.InWindow day (run.poll m).now) n

def Polls.times (n : Nat) (day : Int) (recipient : Recipient) : Nat :=
  (run.items n).countP fun item => item.key.subscriptionId = c.sub.id &&
    (item.key.daysBeforeExpiry = day && item.key.recipientType = recipient)

structure WarnsOnce : Prop where
  once : ∀ day ∈ c.configured, 1 ≤ day → ∀ recipient ∈ c.reachable,
    ∃ n, FirstInWindow run c day n ∧ ∀ m, run.times c m day recipient = if m = n then 1 else 0
  only : ∀ n, ∀ item ∈ run.items n, item.key.subscriptionId = c.sub.id →
    item.key.daysBeforeExpiry ∈ c.configured

/-- Each warning has a first poll in its window, before the expiry, that has fresh reminders;
and without a warning day no fresh poll has one of the days that stand in. -/
structure Deliverable : Prop where
  fresh : ∀ day ∈ c.configured, 1 ≤ day → c.reachable ≠ [] → c.Reminded env ∧
    ∃ n, FirstInWindow run c day n ∧ (run.poll n).now < c.sub.expiresAt ∧
      Fresh env (run.before n).logs (run.poll n)
  listed : c.configured = [] → ∀ n, Fresh env (run.before n).logs (run.poll n) →
    ∀ item ∈ due env (run.poll n), item.key.subscriptionId ≠ c.sub.id

/-! ## The warnings of one poll -/

variable {run c} {n m : Nat} {day : Int} {recipient : Recipient} {item : Item} {key : ReminderKey}
  {poll : Poll}

namespace WarningLemmas

theorem days_of_configured (h : c.configured ≠ []) : c.settings.days = c.configured := by
  unfold Candidate.configured at h ⊢
  unfold ReminderSettings.days
  split
  · next hnone => rw [hnone] at h; exact absurd rfl h
  · next hempty => rw [hempty] at h; exact absurd rfl h
  · next days _ hdays => rw [hdays]; rfl

theorem mem_reachable : recipient ∈ c.reachable ↔
    ∃ r ∈ c.recipients, r.1 = recipient ∧ ∃ phone, r.2.filter (· ≠ "") = some phone := by
  simp only [Candidate.reachable, List.mem_map, List.mem_filter, Option.isSome_iff_exists]
  constructor
  · rintro ⟨r, ⟨hr, hphone⟩, rfl⟩
    exact ⟨r, hr, rfl, hphone⟩
  · rintro ⟨r, hr, rfl, hphone⟩
    exact ⟨r, ⟨hr, hphone⟩, rfl⟩

theorem daysUntil_of_window (h : c.InWindow day poll.now) :
    computeDaysUntilExpiry c.zone c.sub.expiresAt poll.now = day := by
  unfold computeDaysUntilExpiry
  rw [h.1]
  omega

variable (hstays : Stays run c)
include hstays

theorem of_due (hitem : item ∈ due env (run.poll n)) (hsub : item.key.subscriptionId = c.sub.id) :
    c.Reminded env ∧ (run.poll n).now < c.sub.expiresAt ∧
      c.InWindow item.key.daysBeforeExpiry (run.poll n).now ∧
      item.key.daysBeforeExpiry ∈ c.settings.days ∧ item.key.recipientType ∈ c.reachable ∧
      item.key = c.key (run.poll n).now item.key.daysBeforeExpiry item.key.recipientType := by
  obtain ⟨sub, hpage, c', hc, hdue⟩ := mem_due.mp hitem
  obtain ⟨rfl, htenant, hplan, hsettings, henabled, htenantSettings, hzone, htime, hclient⟩ :=
    candidate_eq_some.mp hc
  obtain ⟨hrow, hactive, hexpires⟩ := of_mem_page hpage
  obtain ⟨token, day, r, phone, htoken, hday, huntil, hr, hphone, rfl⟩ := mem_candidate_due.mp hdue
  -- the row with the id is the one that stays, and so is all that was loaded with it
  have hsame : c'.sub = c.sub := by
    have hget := Table.get_of_mem hrow
    rw [show c'.sub.id = c.sub.id from hsub, hstays.row n] at hget
    exact (Option.some.inj hget).symm
  rw [hsame] at htenant hsettings htenantSettings hclient hexpires huntil
  rw [hstays.tenant n] at htenant
  rw [hstays.settings n] at hsettings
  rw [hstays.tenantSettings n] at htenantSettings
  rw [hstays.client] at hclient
  rw [← htenantSettings, hstays.zone] at hzone
  have heq : c' = c := by
    obtain ⟨sub', tenant', settings', tenantSettings', client', zone'⟩ := c'
    cases c
    simp_all
  subst heq
  obtain ⟨time, hclock⟩ := ReminderSettings.clock_of_accepted hstays.accepted
  refine ⟨⟨hplan, henabled, by rw [htoken]; rfl⟩, hexpires, ⟨?_, time, hclock, ?_⟩, hday,
    mem_reachable.mpr ⟨r, hr, rfl, phone, hphone⟩, rfl⟩
  · show c'.zone.localDate (run.poll n).now = c'.zone.localDate c'.sub.expiresAt - day
    rw [← huntil, computeDaysUntilExpiry]
    omega
  · exact (isReminderTimeOk_iff hstays.zone hclock).mp htime

theorem due_of_window (hreminded : c.Reminded env) (hwindow : c.InWindow day (run.poll n).now)
    (hexpires : (run.poll n).now < c.sub.expiresAt) (hday : day ∈ c.settings.days)
    (hrecipient : recipient ∈ c.reachable) :
    ∃ item ∈ due env (run.poll n), item.key = c.key (run.poll n).now day recipient := by
  obtain ⟨r, hr, rfl, phone, hphone⟩ := mem_reachable.mp hrecipient
  obtain ⟨token, htoken⟩ := Option.isSome_iff_exists.mp hreminded.token
  have huntil := daysUntil_of_window hwindow
  obtain ⟨-, time, hclock, hle⟩ := hwindow
  refine ⟨c.item (run.poll n) token day r.1 phone, mem_due.mpr ⟨c.sub, hstays.listed n hexpires, c,
    candidate_eq_some.mpr ⟨rfl, hstays.tenant n, hreminded.plan, hstays.settings n,
      hreminded.enabled, hstays.tenantSettings n, hstays.zone, ?_, hstays.client⟩,
    mem_candidate_due.mpr ⟨token, day, r, phone, htoken, hday, huntil, hr, hphone, rfl⟩⟩, rfl⟩
  exact (isReminderTimeOk_iff hstays.zone hclock).mpr hle

theorem matches_iff (hitem : item ∈ due env (run.poll n)) :
    (decide (item.key.subscriptionId = c.sub.id) && (decide (item.key.daysBeforeExpiry = day) &&
      decide (item.key.recipientType = recipient))) = true ↔
        item.key = c.key (run.poll n).now day recipient := by
  simp only [Bool.and_eq_true, decide_eq_true_eq]
  constructor
  · rintro ⟨hsub, rfl, rfl⟩
    exact (of_due hstays hitem hsub).2.2.2.2.2
  · intro hkey
    rw [hkey]
    exact ⟨rfl, rfl, rfl⟩

theorem times_eq_one (hfresh : Fresh env (run.before n).logs (run.poll n))
    (hitem : ∃ item ∈ due env (run.poll n), item.key = c.key (run.poll n).now day recipient) :
    run.times c n day recipient = 1 := by
  have hcount : run.times c n day recipient =
      ((due env (run.poll n)).map Item.key).count (c.key (run.poll n).now day recipient) := by
    unfold Polls.times Polls.items
    rw [returned_of_fresh hfresh, List.count, List.countP_map]
    refine List.countP_congr fun item hitem => ?_
    rw [matches_iff hstays hitem]
    simp
  obtain ⟨item, hmem, hkey⟩ := hitem
  rw [hcount]
  exact List.count_eq_one_of_mem hfresh.1 (List.mem_map.mpr ⟨item, hmem, hkey⟩)

omit hstays in
theorem exists_of_times (h : run.times c n day recipient ≠ 0) : ∃ item ∈ run.items n,
    item.key.subscriptionId = c.sub.id ∧ item.key.daysBeforeExpiry = day ∧
      item.key.recipientType = recipient := by
  obtain ⟨item, hitem, hmatch⟩ := List.countP_pos_iff.mp (Nat.pos_of_ne_zero h)
  simp only [Bool.and_eq_true, decide_eq_true_eq] at hmatch
  exact ⟨item, hitem, hmatch⟩

omit hstays in
theorem due_of_item (h : item ∈ run.items n) :
    Fresh env (run.before n).logs (run.poll n) ∧ item ∈ due env (run.poll n) := by
  have hfresh := fresh_of_returned h
  exact ⟨hfresh, by rwa [← returned_of_fresh hfresh]⟩

omit hstays in
theorem logged_later (hnm : n < m) (h : logged (run.after n).logs key = true) :
    logged (run.before m).logs key = true := by
  have hreports : ∀ k, logged (run.after k).logs key = true →
      logged (run.before (k + 1)).logs key = true := fun k hk =>
    Reaches.invariant (I := fun w => logged w.logs key = true) (run.reports k) hk
      fun _ _ _ hw _ hstep => logged_after hstep hw
  obtain ⟨d, rfl⟩ := Nat.exists_eq_add_of_lt hnm
  clear hnm
  induction d with
  | zero => exact hreports n h
  | succ d ih => exact hreports _ (logged_after (run.polled _) ih)

theorem times_eq_zero (hfirst : FirstInWindow run c day n) (hne : m ≠ n)
    (hlogged : logged (run.after n).logs (c.key (run.poll n).now day recipient) = true) :
    run.times c m day recipient = 0 := by
  by_contra htimes
  obtain ⟨item, hitem, hsub, rfl, rfl⟩ := exists_of_times htimes
  obtain ⟨hfresh, hdue⟩ := due_of_item hitem
  obtain ⟨-, -, hwindow, -, -, hkey⟩ := of_due hstays hdue hsub
  rcases Nat.lt_or_gt_of_ne hne with hbefore | hafter
  · exact hfirst.2 m hbefore hwindow
  · -- both polls are on the day of the warning, so that the log of the first one is in the way
    have hdate : c.zone.localDate (run.poll m).now = c.zone.localDate (run.poll n).now := by
      rw [hwindow.1, hfirst.1.1]
    have hsame : item.key =
        c.key (run.poll n).now item.key.daysBeforeExpiry item.key.recipientType := by
      rw [hkey, Candidate.key, hdate]
      rfl
    have hnew := hfresh.2 item hdue
    rw [hsame, logged_later hafter hlogged] at hnew
    cases hnew

end WarningLemmas

open WarningLemmas

/-- Every warning is returned once, by the first poll in its window, and no other is, if and only
if each configured day has such a poll before the expiry, all reminders due at that poll are
fresh, and no day stands in for an empty list. -/
theorem warns_once_iff (hstays : Stays run c) : WarnsOnce run c ↔ Deliverable run c := by
  constructor
  · intro hwarns
    constructor
    · intro day hday hpos hreachable
      obtain ⟨recipient, hrecipient⟩ := List.exists_mem_of_ne_nil _ hreachable
      obtain ⟨n, hfirst, htimes⟩ := hwarns.once day hday hpos recipient hrecipient
      have hone := htimes n
      rw [if_pos rfl] at hone
      obtain ⟨item, hitem, hsub, -, -⟩ := exists_of_times (by rw [hone]; exact one_ne_zero)
      obtain ⟨hfresh, hdue⟩ := due_of_item hitem
      obtain ⟨hreminded, hexpires, -⟩ := of_due hstays hdue hsub
      exact ⟨hreminded, n, hfirst, hexpires, hfresh⟩
    · intro hempty n hfresh item hitem hsub
      have honly := hwarns.only n item (by rwa [Polls.items, returned_of_fresh hfresh]) hsub
      rw [hempty] at honly
      cases honly
  · intro hdeliverable
    constructor
    · intro day hday hpos recipient hrecipient
      obtain ⟨hreminded, n, hfirst, hexpires, hfresh⟩ :=
        hdeliverable.fresh day hday hpos (List.ne_nil_of_mem hrecipient)
      have hdays : day ∈ c.settings.days := by
        rwa [days_of_configured (List.ne_nil_of_mem hday)]
      have hdue := due_of_window hstays hreminded hfirst.1 hexpires hdays hrecipient
      refine ⟨n, hfirst, fun m => ?_⟩
      split
      · next heq =>
        rw [heq]
        exact times_eq_one hstays hfresh hdue
      · next hne =>
        obtain ⟨item, hitem, hkey⟩ := hdue
        refine times_eq_zero hstays hfirst hne (hkey ▸ logged_of_returned (run.polled n) ?_)
        rwa [returned_of_fresh hfresh]
    · intro n item hitem hsub
      obtain ⟨hfresh, hdue⟩ := due_of_item hitem
      obtain ⟨-, -, -, hday, -⟩ := of_due hstays hdue hsub
      by_cases hempty : c.configured = []
      · exact absurd hsub (hdeliverable.listed hempty n hfresh item hdue)
      · rwa [days_of_configured hempty] at hday

def exWarnings (days : List Int) : ReminderSettings := { exSettings with warningDays := some days }

def exHalfHour (days : List Int) (n : Nat) : Poll :=
  { exPoll (n * (30 * minute)) with rows := exRows (exWarnings days) }

def exCandidate (days : List Int) : Candidate where
  sub := exSubscription
  tenant := exTenant
  settings := exWarnings days
  tenantSettings := none
  client := exClient
  zone := { offset := fun _ => 0 }

def exEmpty : World where
  logs := Table.empty
  returned := []
  reported := []

namespace WarningLemmas

open ReminderLemmas

variable {days : List Int} {w : World}

theorem page_exHalfHour (h : (exHalfHour days n).now < exSubscription.expiresAt) :
    (exHalfHour days n).page = [exSubscription] := by
  have hnow : (n : Int) * (30 * minute) < exSubscription.expiresAt := h
  have hactive : exSubscription.status = .active := rfl
  simp [Poll.page, Poll.hasMore, Poll.selected, exHalfHour, exPoll, exRows, Table.select,
    afterCursor, hnow, hactive]

theorem stays_exHalfHour {run : Polls exEnvironment} (hpoll : ∀ n, run.poll n = exHalfHour days n) :
    Stays run (exCandidate days) where
  row n := by
    rw [hpoll]
    rfl
  listed n h := by
    rw [hpoll] at h ⊢
    rw [page_exHalfHour h]
    exact List.mem_singleton_self _
  tenant n := by
    rw [hpoll]
    rfl
  settings n := by
    rw [hpoll]
    rfl
  tenantSettings n := by
    rw [hpoll]
    rfl
  client := rfl
  zone := rfl
  accepted := by
    show exSettings.accepted = true
    decide +kernel

theorem due_exHalfHour (h : item ∈ due exEnvironment (exHalfHour days n)) :
    candidate exEnvironment (exHalfHour days n) exSubscription = some (exCandidate days) ∧
      item ∈ (exCandidate days).due exEnvironment (exHalfHour days n) := by
  obtain ⟨sub, hpage, c, hc, hdue⟩ := mem_due.mp h
  obtain ⟨hrow, -, -⟩ := of_mem_page hpage
  have hsub : sub = exSubscription := List.mem_singleton.mp hrow
  subst hsub
  have hexample : c = exCandidate days := by
    obtain ⟨sub, tenant, settings, tenantSettings, client, zone⟩ := c
    obtain ⟨rfl, htenant, -, hsettings, -, htenantSettings, hzone, -, hclient⟩ :=
      candidate_eq_some.mp hc
    cases htenant
    cases hsettings
    cases htenantSettings
    cases hzone
    cases hclient
    rfl
  subst hexample
  exact ⟨hc, hdue⟩

theorem not_fresh_of_twice (h : item ∈ due exEnvironment (exHalfHour [3, 3] n)) :
    ¬Fresh exEnvironment w.logs (exHalfHour [3, 3] n) := by
  intro hfresh
  obtain ⟨hc, hitem⟩ := due_exHalfHour h
  obtain ⟨sub, hpage, -⟩ := mem_due.mp h
  have hsub : sub = exSubscription := List.mem_singleton.mp (of_mem_page hpage).1
  subst hsub
  have htoken : decryptValue exEnvironment (exCandidate [3, 3]).tenant.evolutionInstanceToken =
      some (some "t0") := rfl
  have hdays : (exCandidate [3, 3]).settings.days = [3, 3] := rfl
  have htwice : (exCandidate [3, 3]).due exEnvironment (exHalfHour [3, 3] n) = _ := due_eq htoken
  rw [hdays, List.flatMap_cons, List.flatMap_cons, List.flatMap_nil, List.append_nil] at htwice
  have hsublist : ((exCandidate [3, 3]).due exEnvironment (exHalfHour [3, 3] n)).Sublist
      (due exEnvironment (exHalfHour [3, 3] n)) := by
    refine List.sublist_flatten_of_mem (List.mem_map.mpr ⟨exSubscription, hpage, ?_⟩)
    rw [dueOf, hc, Option.map_some, Option.getD_some]
  have hnodup := hfresh.1.sublist (hsublist.map Item.key)
  rw [htwice] at hitem hnodup
  have hmem : item ∈ dueOn (exHalfHour [3, 3] n) (exCandidate [3, 3]) (some "t0") 3 := by
    rcases List.mem_append.mp hitem with h | h <;> exact h
  rw [List.map_append] at hnodup
  exact (List.nodup_append.mp hnodup).2.2 _ (List.mem_map_of_mem hmem) _
    (List.mem_map_of_mem hmem) rfl

theorem returned_of_twice : returned exEnvironment w.logs (exHalfHour [3, 3] n) = [] := by
  rw [returned_eq]
  split
  · next hfresh =>
    exact List.eq_nil_iff_forall_not_mem.mpr fun item hitem => not_fresh_of_twice hitem hfresh
  · rfl

end WarningLemmas

def exTwice : Polls exEnvironment where
  poll := exHalfHour [3, 3]
  before _ := exEmpty
  after _ := exEmpty
  polled _ := step_of_none returned_of_twice
  reports _ := .refl

theorem halfHourly_of_now {env : Environment} {run : Polls env}
    (hnow : ∀ n, (run.poll n).now = n * (30 * minute)) : run.HalfHourly := by
  intro n
  rw [hnow, hnow]
  unfold minute
  push_cast
  constructor <;> omega

/-- A day that is listed twice is never returned, with polls every half hour. -/
theorem repeated_day_never_warns : Stays exTwice (exCandidate [3, 3]) ∧ exTwice.HalfHourly ∧
    3 ∈ (exCandidate [3, 3]).configured ∧ .tenant ∈ (exCandidate [3, 3]).reachable ∧
    FirstInWindow exTwice (exCandidate [3, 3]) 3 0 ∧ (∀ n, exTwice.items n = []) ∧
    ¬WarnsOnce exTwice (exCandidate [3, 3]) := by
  have hnone : ∀ n, exTwice.items n = [] := fun _ => returned_of_twice
  have hconfigured : (3 : Int) ∈ (exCandidate [3, 3]).configured := by decide +kernel
  have hreachable : .tenant ∈ (exCandidate [3, 3]).reachable := by decide +kernel
  have hwindow : (exCandidate [3, 3]).InWindow 3 (exHalfHour [3, 3] 0).now :=
    ⟨by decide +kernel, 0, by decide +kernel, by decide +kernel⟩
  refine ⟨stays_exHalfHour fun _ => rfl, halfHourly_of_now fun _ => rfl, hconfigured, hreachable,
    ⟨hwindow, fun m hm => absurd hm (Nat.not_lt_zero m)⟩, hnone, fun hwarns => ?_⟩
  obtain ⟨n, -, htimes⟩ := hwarns.once 3 hconfigured (by decide) .tenant hreachable
  have hone := htimes n
  rw [if_pos rfl, Polls.times, hnone] at hone
  cases hone

namespace WarningLemmas

theorem key_of_once (h : item ∈ due exEnvironment (exHalfHour [3] n)) : item.key = exKey := by
  obtain ⟨-, hitem⟩ := due_exHalfHour h
  obtain ⟨token, day, r, phone, -, hday, huntil, hr, -, rfl⟩ := mem_candidate_due.mp hitem
  have hdays : day = 3 := List.mem_singleton.mp hday
  have hrecipient : r = (.tenant, exTenant.whatsappPhone) := List.mem_singleton.mp hr
  subst hdays hrecipient
  have hexpiry : (exCandidate [3]).zone.localDate (exCandidate [3]).sub.expiresAt = 3 := by
    decide +kernel
  rw [computeDaysUntilExpiry, hexpiry] at huntil
  have hdate : (exCandidate [3]).zone.localDate (exHalfHour [3] n).now = 0 := by omega
  show (exCandidate [3]).key (exHalfHour [3] n).now 3 .tenant = exKey
  rw [Candidate.key, hdate]
  rfl

theorem returned_of_key {logs : ReminderLogs} {poll : Poll}
    (h : ∀ item ∈ due exEnvironment poll, item.key = exKey) (hlogged : logged logs exKey = true) :
    returned exEnvironment logs poll = [] := by
  refine List.eq_nil_iff_forall_not_mem.mpr fun item hitem => ?_
  have hnew := not_logged_of_returned hitem
  have hfresh := fresh_of_returned hitem
  rw [returned_of_fresh hfresh] at hitem
  rw [h item hitem, hlogged] at hnew
  cases hnew

end WarningLemmas

def exWarned (poll : Nat → Poll)
    (h : (step exEnvironment exEmpty (.poll (poll 0))).isSome = true) : World :=
  (step exEnvironment exEmpty (.poll (poll 0))).get h

/-- The first poll returns all that the run ever returns. -/
def Polls.once (poll : Nat → Poll)
    (h : (step exEnvironment exEmpty (.poll (poll 0))).isSome = true)
    (hlater : ∀ n, returned exEnvironment (exWarned poll h).logs (poll n) = []) :
    Polls exEnvironment where
  poll := poll
  before n := if n = 0 then exEmpty else exWarned poll h
  after _ := exWarned poll h
  polled n := by
    cases n with
    | zero => exact (Option.some_get h).symm
    | succ n => exact step_of_none (hlater (n + 1))
  reports _ := .refl

def exOnce : Polls exEnvironment :=
  .once (exHalfHour [3]) (by decide +kernel)
    fun _ => returned_of_key (fun _ => key_of_once) (by decide +kernel)

/-- The tenant is warned three days before the subscription expires. -/
theorem warns_three_days_before : WarnsOnce exOnce (exCandidate [3]) := by
  refine (warns_once_iff (stays_exHalfHour fun _ => rfl)).mpr ⟨fun day hday _ _ => ?_, fun h => ?_⟩
  · have hthree : day = 3 := List.mem_singleton.mp hday
    subst hthree
    exact ⟨⟨rfl, rfl, rfl⟩, 0, ⟨⟨by decide +kernel, 0, by decide +kernel, by decide +kernel⟩,
      fun m hm => absurd hm (Nat.not_lt_zero m)⟩, by decide +kernel, by decide +kernel⟩
  · cases h

end Trackpal.Subscriptions
