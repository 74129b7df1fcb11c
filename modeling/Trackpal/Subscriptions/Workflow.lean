import Trackpal.Subscriptions.Pages
import Trackpal.Subscriptions.Warnings

/-!
# The cycles of the workflow

The workflow polls once in a cycle, without a cursor. The page size that it sends in the body
is not read, so that a page has a hundred subscriptions. The page is cut before the plan, the
settings, the time and the warning days of a subscription are looked at.
-/

namespace Trackpal.Subscriptions

open Trackpal.Protocol Trackpal.Foundation

variable {env : Environment} (run : Polls env)

/-- Each cycle polls for the first page. -/
def Shipped : Prop := ∀ n, (run.poll n).cursor = none ∧ (run.poll n).pageSize = 100

structure DueAt (n : Nat) (c : Candidate) (key : ReminderKey) : Prop where
  row : c.sub ∈ (run.poll n).rows.subscriptions.rows
  active : c.sub.status = .active
  unexpired : (run.poll n).now < c.sub.expiresAt
  passes : candidate env (run.poll n) c.sub = some c
  due : ∃ item ∈ c.due env (run.poll n), item.key = key

def DueToTheEnd (n : Nat) (c : Candidate) (key : ReminderKey) : Prop :=
  DueAt run n c key ∧ ∀ m, n ≤ m → c.zone.localDate (run.poll m).now = key.sentForDate →
    ∃ c', DueAt run m c' key

def Polls.Returns (key : ReminderKey) : Prop := ∃ n, ∃ item ∈ run.items n, item.key = key

/-- Every reminder that has no log at first and is due to the end of the day is returned. -/
def NoneStarves : Prop :=
  ∀ n c key, DueToTheEnd run n c key → logged (run.before 0).logs key = false → run.Returns key

/-- At some poll where the reminder is due, fewer than a hundred active subscriptions come before
its own, and all reminders on the page are fresh. -/
def Reached (key : ReminderKey) : Prop :=
  ∃ n c, DueAt run n c key ∧ (run.poll n).ahead c.sub < 100 ∧
    Fresh env (run.before n).logs (run.poll n)

variable {run} {n : Nat} {c : Candidate} {key : ReminderKey} {item : Item}

namespace WorkflowLemmas

theorem matching_of_due (hshipped : Shipped run) (h : DueAt run n c key) :
    c.sub ∈ (run.poll n).matching := by
  refine mem_matching.mpr ⟨mem_active.mpr ⟨h.row, h.active, h.unexpired⟩, ?_⟩
  rw [(hshipped n).1]
  rfl

theorem page_of_due (hshipped : Shipped run) (h : DueAt run n c key)
    (hahead : (run.poll n).ahead c.sub < 100) : c.sub ∈ (run.poll n).page := by
  refine mem_page_iff.mpr ⟨matching_of_due hshipped h, ?_⟩
  rwa [(hshipped n).2]

theorem dueAt_of_due (hshipped : Shipped run) (h : item ∈ due env (run.poll n)) :
    ∃ c, DueAt run n c item.key ∧ (run.poll n).ahead c.sub < 100 := by
  obtain ⟨sub, hpage, c, hc, hitem⟩ := mem_due.mp h
  obtain ⟨hrow, hactive, hunexpired⟩ := of_mem_page hpage
  have hahead := (mem_page_iff.mp hpage).2
  rw [(hshipped n).2] at hahead
  obtain ⟨rfl, -⟩ := candidate_eq_some.mp hc
  exact ⟨c, ⟨hrow, hactive, hunexpired, hc, item, hitem, rfl⟩, hahead⟩

theorem returns_iff (hshipped : Shipped run) : run.Returns key ↔ Reached run key := by
  constructor
  · rintro ⟨n, item, hitem, rfl⟩
    obtain ⟨hfresh, hdue⟩ := WarningLemmas.due_of_item hitem
    obtain ⟨c, hc, hahead⟩ := dueAt_of_due hshipped hdue
    exact ⟨n, c, hc, hahead, hfresh⟩
  · rintro ⟨n, c, hc, hahead, hfresh⟩
    obtain ⟨item, hitem, hkey⟩ := hc.due
    have hdue : item ∈ due env (run.poll n) :=
      mem_due.mpr ⟨c.sub, page_of_due hshipped hc hahead, c, hc.passes, hitem⟩
    refine ⟨n, item, ?_, hkey⟩
    rwa [Polls.items, returned_of_fresh hfresh]

end WorkflowLemmas

open WorkflowLemmas

/-- No reminder that is due to the end of its day starves if and only if each of them is reached
by some poll. -/
theorem none_starves_iff (hshipped : Shipped run) : NoneStarves run ↔
    ∀ n c key, DueToTheEnd run n c key → logged (run.before 0).logs key = false →
      Reached run key := by
  refine forall₃_congr fun n c key => imp_congr_right fun _ => imp_congr_right fun _ => ?_
  exact returns_iff hshipped

/-- Subscriptions of a tenant that has no reminders, which expire an hour before that of the
example. -/
def exOther (i : Nat) : Subscription :=
  { exSubscription with
    id := ⟨i + 10⟩
    tenantId := ⟨3⟩
    expiresAt := 3 * dayLength + 660 * minute }

def exCrowdRows : List Subscription := exSubscription :: (List.range 100).map exOther

theorem nodup_exCrowdRows : (exCrowdRows.map (·.id)).Nodup := by decide +kernel

/-- The subscription of the example behind some of the others. -/
def exCrowd (size n : Nat) : Poll :=
  { exHalfHour [3] n with
    rows := { exRows (exWarnings [3]) with
      subscriptions := ⟨exCrowdRows.take (size + 1),
        nodup_exCrowdRows.sublist ((List.take_sublist _ _).map _)⟩
      tenants := fun id => some (if id = ⟨3⟩ then { exTenant with plan := "starter" } else exTenant) } }

namespace WorkflowLemmas

theorem candidate_exCrowd {size : Nat} {sub : Subscription}
    (h : candidate exEnvironment (exCrowd size n) sub = some c) (hrow : sub ∈ exCrowdRows) :
    c = exCandidate [3] := by
  obtain ⟨csub, tenant, settings, tenantSettings, client, zone⟩ := c
  obtain ⟨rfl, htenant, hplan, hsettings, -, htenantSettings, hzone, -, hclient⟩ :=
    candidate_eq_some.mp h
  rcases List.mem_cons.mp hrow with heq | hother
  · have hsub : csub = exSubscription := heq
    subst hsub
    cases htenant
    cases hsettings
    cases htenantSettings
    cases hzone
    cases hclient
    rfl
  · obtain ⟨i, -, hi⟩ := List.mem_map.mp hother
    have hid : csub.tenantId = ⟨3⟩ := congrArg Subscription.tenantId hi.symm
    have hstarter : (exCrowd size n).rows.tenants csub.tenantId =
        some { exTenant with plan := "starter" } := by
      rw [hid]
      rfl
    rw [hstarter] at htenant
    have hstarts : tenant.plan = "starter" := congrArg Tenant.plan (Option.some.inj htenant).symm
    rw [show tenant.plan = "pro" from hplan] at hstarts
    exact absurd hstarts (by decide)

theorem due_exCrowd {size : Nat} (h : item ∈ (exCandidate [3]).due exEnvironment (exCrowd size n)) :
    item.key = exKey ∧ (exCrowd size n).now < dayLength := by
  obtain ⟨token, day, r, phone, -, hday, huntil, hr, -, rfl⟩ := mem_candidate_due.mp h
  have hdays : day = 3 := List.mem_singleton.mp hday
  have hrecipient : r = (.tenant, exTenant.whatsappPhone) := List.mem_singleton.mp hr
  subst hdays hrecipient
  have hexpiry : (exCandidate [3]).zone.localDate (exCandidate [3]).sub.expiresAt = 3 := by
    decide +kernel
  rw [computeDaysUntilExpiry, hexpiry] at huntil
  have hdate : (exCandidate [3]).zone.localDate (exCrowd size n).now = 0 := by omega
  constructor
  · show (exCandidate [3]).key (exCrowd size n).now 3 .tenant = exKey
    rw [Candidate.key, hdate]
    rfl
  · have hday : ((exCrowd size n).now + 0) / dayLength = 0 := hdate
    have hlength : dayLength = 86400000000 := rfl
    rw [hlength] at hday ⊢
    omega

theorem ahead_exCrowd (h : (exCrowd 100 n).now < dayLength) :
    (exCrowd 100 n).ahead exSubscription = 100 := by
  have hall : (exCrowd 100 n).active.Perm exCrowdRows := by
    have hselect : exCrowdRows.filter
        (fun sub => sub.status = .active && (exCrowd 100 n).now < sub.expiresAt) = exCrowdRows := by
      refine List.filter_eq_self.mpr fun sub hsub => ?_
      have hlate : ∀ sub ∈ exCrowdRows, sub.status = .active ∧ dayLength ≤ sub.expiresAt := by
        decide +kernel
      obtain ⟨hactive, hexpires⟩ := hlate sub hsub
      simp [hactive, lt_of_lt_of_le h hexpires]
    have hperm : (exCrowd 100 n).active.Perm (exCrowdRows.filter
        fun sub => sub.status = .active && (exCrowd 100 n).now < sub.expiresAt) :=
      List.perm_insertionSort _ _
    rwa [hselect] at hperm
  have hmatching : (exCrowd 100 n).matching = (exCrowd 100 n).active :=
    List.filter_eq_self.mpr fun _ _ => rfl
  rw [Poll.ahead, hmatching, hall.countP_eq]
  decide +kernel

theorem returned_exCrowd {logs : ReminderLogs} : returned exEnvironment logs (exCrowd 100 n) = [] := by
  refine List.eq_nil_iff_forall_not_mem.mpr fun item hitem => ?_
  rw [returned_of_fresh (fresh_of_returned hitem)] at hitem
  obtain ⟨sub, hpage, c, hc, hdue⟩ := mem_due.mp hitem
  have hsub : c.sub = sub := (candidate_eq_some.mp hc).1
  have hahead : (exCrowd 100 n).ahead sub < 100 := (mem_page_iff.mp hpage).2
  rw [candidate_exCrowd hc (of_mem_page hpage).1] at hdue hsub
  rw [← hsub] at hahead
  have hfew : (exCrowd 100 n).ahead exSubscription < 100 := hahead
  rw [ahead_exCrowd (due_exCrowd hdue).2] at hfew
  exact Nat.lt_irrefl _ hfew

theorem dueAt_exCrowd {size : Nat} {run : Polls exEnvironment} (hpoll : run.poll n = exCrowd size n)
    (h : (exCandidate [3]).zone.localDate (exCrowd size n).now = 0) :
    DueAt run n (exCandidate [3]) exKey := by
  have hdate : ((exCrowd size n).now + 0) / dayLength = 0 := h
  have hlength : dayLength = 86400000000 := rfl
  rw [hlength] at hdate
  have hunexpired : (exCrowd size n).now < exSubscription.expiresAt := by
    have hexpires : exSubscription.expiresAt = 302400000000 := by decide +kernel
    rw [hexpires]
    omega
  have htime : isReminderTimeOk exEnvironment.zoneInfo (exCrowd size n).now "00:00" "UTC" = true := by
    refine (isReminderTimeOk_iff rfl (show clock "00:00" = some 0 by decide +kernel)).mpr ?_
    exact Int.emod_nonneg _ (by rw [hlength]; decide)
  have huntil : computeDaysUntilExpiry (exCandidate [3]).zone (exCandidate [3]).sub.expiresAt
      (exCrowd size n).now = 3 := by
    have hexpiry : (exCandidate [3]).zone.localDate (exCandidate [3]).sub.expiresAt = 3 := by
      decide +kernel
    rw [computeDaysUntilExpiry, hexpiry, h]
    rfl
  rw [← hpoll] at hunexpired htime huntil h
  refine
    { row := ?_
      active := rfl
      unexpired := hunexpired
      passes := ?_
      due := ?_ }
  · rw [hpoll]
    exact List.mem_cons_self
  · rw [hpoll] at htime ⊢
    exact candidate_eq_some.mpr ⟨rfl, rfl, rfl, rfl, rfl, rfl, rfl, htime, rfl⟩
  · refine ⟨(exCandidate [3]).item (run.poll n) (some "t0") 3 .tenant "525512345678",
      mem_candidate_due.mpr ⟨some "t0", 3, (.tenant, some "525512345678"), "525512345678", rfl,
        List.mem_singleton_self _, huntil, List.mem_singleton_self _, by decide +kernel, rfl⟩, ?_⟩
    show (exCandidate [3]).key (run.poll n).now 3 .tenant = exKey
    rw [Candidate.key, h]
    rfl

end WorkflowLemmas

theorem reports_exEmpty (_ : Nat) : Reaches (step exEnvironment) IsReport exEmpty exEmpty := .refl

/-- Every half hour, the page holds nothing but the other subscriptions. -/
def exStarved : Polls exEnvironment where
  poll := exCrowd 100
  before _ := exEmpty
  after _ := exEmpty
  polled _ := step_of_none returned_exCrowd
  reports := reports_exEmpty

/-- A reminder is due from the first poll of the day on, and no poll ever returns one. -/
theorem crowd_starves : Shipped exStarved ∧ exStarved.HalfHourly ∧
    DueToTheEnd exStarved 0 (exCandidate [3]) exKey ∧ (∀ n, exStarved.items n = []) ∧
    ¬NoneStarves exStarved := by
  have hnone : ∀ n, exStarved.items n = [] := fun _ => returned_exCrowd
  have hshipped : Shipped exStarved := fun _ => ⟨rfl, rfl⟩
  have hdue : DueToTheEnd exStarved 0 (exCandidate [3]) exKey :=
    ⟨dueAt_exCrowd rfl (by decide +kernel), fun m _ hdate => ⟨_, dueAt_exCrowd rfl hdate⟩⟩
  refine ⟨hshipped, halfHourly_of_now fun _ => rfl, hdue, hnone, fun hstarves => ?_⟩
  obtain ⟨n, item, hitem, -⟩ := hstarves 0 (exCandidate [3]) exKey hdue rfl
  rw [hnone] at hitem
  cases hitem

theorem key_of_crowd {size : Nat} (h : item ∈ due exEnvironment (exCrowd size n)) :
    item.key = exKey := by
  obtain ⟨sub, hpage, c, hc, hdue⟩ := mem_due.mp h
  rw [candidate_exCrowd hc (List.mem_of_mem_take (of_mem_page hpage).1)] at hdue
  exact (due_exCrowd hdue).1

def exReached : Polls exEnvironment :=
  .once (exCrowd 99) (by decide +kernel)
    fun _ => WarningLemmas.returned_of_key (fun _ => key_of_crowd) (by decide +kernel)

/-- Ninety-nine others leave room on the page of the first poll. -/
theorem crowded_reminder_returned : NoneStarves exReached ∧ exReached.Returns exKey := by
  have hfirst : DueAt exReached 0 (exCandidate [3]) exKey := dueAt_exCrowd rfl (by decide +kernel)
  have hnone : NoneStarves exReached := by
    refine (none_starves_iff fun _ => ⟨rfl, rfl⟩).mpr fun n c key hdue _ => ?_
    obtain ⟨hrow, -, -, hpasses, item, hitem, rfl⟩ := hdue.1
    rw [candidate_exCrowd hpasses (List.mem_of_mem_take hrow)] at hitem
    rw [(due_exCrowd hitem).1]
    exact ⟨0, exCandidate [3], hfirst, by decide +kernel, by decide +kernel⟩
  exact ⟨hnone, hnone 0 _ _ ⟨hfirst, fun _ _ hdate => ⟨_, dueAt_exCrowd rfl hdate⟩⟩ rfl⟩

end Trackpal.Subscriptions
