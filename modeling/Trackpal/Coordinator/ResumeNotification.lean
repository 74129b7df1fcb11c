import Trackpal.Coordinator.HandoffAgreement
import Trackpal.Coordinator.Replies

/-!
# The resume notification

A caller registers the URL at which it waits: the job is read, the URL is stored,
and the job is read anew for the response. Whoever ends the job, by a callback or by
the deadline in `_dispatch`, commits first and looks for the URL afterwards. Whatever
the order of the steps, the response shows the end or the URL is called.

The registration and the notifications run over the machine of one job, with any
number of other processes. Every statement reads the last committed row. A user who
cancels the job deletes the URL and is left out; so are the texts of the payload and
of the URL check, and the TTL of the URL.

Results:
1. `ResumeInv.of_step`: once stored, the URL stays until it has been called, and no notification
   is open while the job is active.
2. `caller_learns_end`.
-/

namespace Trackpal.Coordinator

open Trackpal.Protocol Trackpal.Foundation LockingLemmas LeaseLemmas

/-- Where `register_lookup_resume` stands. -/
inductive Registration where
  /-- Next is `get_job`. -/
  | reading
  /-- The job was active; next is `put_resume_url`. -/
  | storing
  /-- Next is `db.refresh`. -/
  | refreshing
  /-- Next is `_status_response` for this row, whose reply text is left out. -/
  | responding (job : MailLookupJob)
  | responded (response : LookupStatusResponse)
deriving DecidableEq, Repr

/-- Where `_notify_resume` stands. -/
inductive Notification where
  /-- Next is `get_resume_url`. -/
  | looking
  /-- Next is the POST to the URL. -/
  | posting (resumeUrl : String)
  /-- The POST has succeeded; next is `delete_resume_url`. -/
  | deleting
  | done
deriving DecidableEq, Repr

/-- The job and its processes, the stored URL, the registration, the notification of each
process, and the URLs that were called. -/
structure ResumeState where
  base : State
  url : Option String
  registration : Registration
  notifications : Nat → Option Notification
  notified : List String

/-- One step. -/
inductive ResumeAction where
  | machine (a : Action)
  | register
  /-- The next step of the notification of the process `pid`. -/
  | notify (pid : Nat)
deriving DecidableEq, Repr

/-- The caller of `complete` and of `_dispatch`. -/
def Actor.notifies : Actor → Bool
  | .dispatch _ | .dispatcher | .callback _ => true
  | _ => false

/-- The process whose commit ends the job, if it notifies the caller. -/
def opens (s : State) : Action → Option Nat
  | .run pid =>
    match s.processes pid with
    | some (.running actor _ (.commit held flushed :: _)) =>
      if actor.notifies ∧ flushed ≠ [] ∧ held.status.active = false then some pid else none
    | _ => none
  | _ => none

def releasesFirst (s : State) (pid : Nat) : Bool :=
  match s.processes pid with
  | some (.running _ _ effects) => .releaseLease ∈ effects
  | _ => false

/-- The process that raises, or ends where it stands. -/
def Action.breaks : Action → Option Nat
  | .raise pid | .cancelled pid | .abort pid => some pid
  | _ => none

namespace ResumeState

/-- A new job, whose caller is about to register. -/
def start (job : MailLookupJob) (now : Int) : ResumeState where
  base := .start job now
  url := none
  registration := .reading
  notifications := fun _ => none
  notified := []

/-- The process `pid` is between its commit and the end of its notification. -/
def notifying (s : ResumeState) (pid : Nat) : Bool :=
  (s.notifications pid).any (· ≠ .done)

def waits (s : ResumeState) : Action → Bool
  | .run pid => s.notifying pid ∧ releasesFirst s.base pid = false
  | _ => false

/-- The notifications after a step of the machine: a commit opens one, and a process that
raises or ends takes its own with it. -/
def afterStep (s : ResumeState) (a : Action) (pid : Nat) : Option Notification :=
  if opens s.base a = some pid then some .looking
  else if a.breaks = some pid ∧ s.notifying pid then none
  else s.notifications pid

/-- `get_result`. -/
def cached (s : ResumeState) : Option (String × String) :=
  (s.base.result.get s.base.now ()).map fun result => (result.1.literal, result.2)

/-- The notification of `pid` moves on. -/
def put (s : ResumeState) (pid : Nat) (notification : Notification) : ResumeState :=
  { s with notifications := Function.update s.notifications pid (some notification) }

end ResumeState

/-- The next step of the registration of `resumeUrl`. -/
def stepRegister (resumeUrl : String) (s : ResumeState) : Option ResumeState :=
  match s.registration with
  | .reading =>
    if s.base.row.status.active then some { s with registration := .storing }
    else some { s with registration := .responding s.base.row }
  | .storing => some { s with url := some resumeUrl, registration := .refreshing }
  | .refreshing => some { s with registration := .responding s.base.row }
  | .responding job =>
    some { s with
      registration := .responded (statusResult job s.cached) }
  | .responded _ => none

/-- The next step of the notification of `pid`. -/
def stepNotify (s : ResumeState) (pid : Nat) : Option ResumeState :=
  match s.notifications pid with
  | some .looking =>
    if releasesFirst s.base pid then none
    else
      match s.url with
      | some resumeUrl => some (s.put pid (.posting resumeUrl))
      | none => some (s.put pid .done)
  | some (.posting resumeUrl) =>
    some ({ s with notified := resumeUrl :: s.notified }.put pid .deleting)
  | some .deleting => some ({ s with url := none }.put pid .done)
  | _ => none

def stepResume (settings : Settings) (resumeUrl : String) (s : ResumeState) :
    ResumeAction → Option ResumeState
  | .machine a =>
    if a = .cancel ∨ s.waits a then none
    else
      (step settings s.base a).map fun base =>
        { s with base := base, notifications := s.afterStep a }
  | .register => stepRegister resumeUrl s
  | .notify pid => stepNotify s pid

/-! ## The end of the job -/

/-- A notification is opened by a commit that ends the job. -/
theorem inactive_of_opens {settings : Settings} {s s' : State} {a : Action} {pid : Nat}
    (hconsistent : Consistent s) (hopens : opens s a = some pid)
    (hstep : step settings s a = some s') : s'.row.status.active = false := by
  unfold opens at hopens
  split at hopens
  · next q =>
    split at hopens
    · next actor job held flushed rest hq =>
      split at hopens
      · next hends =>
        obtain ⟨-, hflushed, hended⟩ := hends
        rcases commits_or_keeps hconsistent hstep with
          ⟨p, actor', job', held', flushed', rest', hrun, hp, -, hsound, rfl⟩ | ⟨-, -, -, -, hnot⟩
        · cases hrun
          rw [hq] at hp
          cases hp
          change (s.commit actor job held flushed).row.status.active = false
          cases hsound with
          | neutral => exact absurd rfl hflushed
          | locked hactor hlocked hrow =>
            rw [status_eq_of_verdict (verdict_commit_locked hrow)]
            exact hended
          | deadline hactor hfree hactive hstatus =>
            rw [status_commit_deadline hactive hstatus]
            rfl
        · exact absurd hq (hnot q rfl _ _ _ _ _)
      · cases hopens
    · cases hopens
  · cases hopens

theorem active_statusResult {job : MailLookupJob} {cached : Option (String × String)}
    (h : (statusResult job cached).status.active = true) : job.status.active = true := by
  unfold statusResult at h
  split at h
  · split at h
    · exact h
    · cases h
  · exact h

/-! ## The invariant -/

/-- The job was active when it was read for the response, or is yet to be read for it. -/
def Registration.pastStore : Registration → Bool
  | .refreshing => true
  | .responding job => job.status.active
  | .responded response => response.status.active
  | _ => false

/-- The job was active when it was read for the response. -/
def Registration.uninformed : Registration → Bool
  | .responding job => job.status.active
  | .responded response => response.status.active
  | _ => false

/-- What holds of a registration of `resumeUrl` and the notifications. -/
structure ResumeInv (resumeUrl : String) (s : ResumeState) : Prop where
  consistent : Consistent s.base
  /-- Once stored, the URL stays until it has been called. -/
  stored : s.registration.pastStore = true → s.url = some resumeUrl ∨ resumeUrl ∈ s.notified
  /-- There is no other URL. -/
  only : ∀ url, s.url = some url → url = resumeUrl
  posting : ∀ pid url, s.notifications pid = some (.posting url) → url = resumeUrl
  deleting : ∀ pid, s.notifications pid = some .deleting → resumeUrl ∈ s.notified
  /-- Nobody notifies before the job has ended. -/
  ended : ∀ pid, s.notifications pid ≠ none → s.base.row.status.active = false
  /-- A notification that began after an active job was read finds the URL. -/
  called : s.registration.uninformed = true → ∀ pid, s.notifications pid = some .done →
    resumeUrl ∈ s.notified

namespace ResumeLemmas

variable {settings : Settings} {resumeUrl : String} {s s' : ResumeState} {pid : Nat}

theorem afterStep_cases {a : Action} {notification : Notification}
    (h : s.afterStep a pid = some notification) :
    s.notifications pid = some notification ∨
      opens s.base a = some pid ∧ notification = .looking := by
  unfold ResumeState.afterStep at h
  split at h
  · next hopens =>
    cases h
    exact .inr ⟨hopens, rfl⟩
  split at h
  · cases h
  · exact .inl h

theorem ResumeInv.of_machine {a : Action} {base : State} (h : ResumeInv resumeUrl s)
    (hstep : step settings s.base a = some base) :
    ResumeInv resumeUrl { s with base := base, notifications := s.afterStep a } where
  consistent := consistent_step h.consistent hstep
  stored := h.stored
  only := h.only
  posting pid url hpid := by
    rcases afterStep_cases hpid with hold | ⟨-, hnew⟩
    · exact h.posting pid url hold
    · cases hnew
  deleting pid hpid := by
    rcases afterStep_cases hpid with hold | ⟨-, hnew⟩
    · exact h.deleting pid hold
    · cases hnew
  ended pid hpid := by
    obtain ⟨notification, hsome⟩ := Option.ne_none_iff_exists'.mp hpid
    rcases afterStep_cases hsome with hold | ⟨hopens, -⟩
    · refine terminal_of_step h.consistent hstep (h.ended pid ?_)
      rw [hold]
      exact Option.some_ne_none _
    · exact inactive_of_opens h.consistent hopens hstep
  called huninformed pid hpid := by
    rcases afterStep_cases hpid with hold | ⟨-, hnew⟩
    · exact h.called huninformed pid hold
    · cases hnew

theorem ResumeInv.of_register (h : ResumeInv resumeUrl s)
    (hstep : stepRegister resumeUrl s = some s') : ResumeInv resumeUrl s' := by
  have hnobody : s.base.row.status.active = true → ∀ pid, s.notifications pid = none := by
    intro hactive pid
    by_contra hsome
    rw [h.ended pid hsome] at hactive
    cases hactive
  unfold stepRegister at hstep
  split at hstep
  · split at hstep
    · cases hstep
      exact { h with stored := nofun, called := nofun }
    · next hended =>
      cases hstep
      exact { h with
        stored := fun hactive => absurd hactive hended
        called := fun hactive => absurd hactive hended }
  · cases hstep
    refine { h with stored := fun _ => .inl rfl, only := ?_, called := nofun }
    intro url hurl
    exact (Option.some.inj hurl).symm
  · next hphase =>
    cases hstep
    have hstored := h.stored (by rw [hphase]; rfl)
    refine { h with stored := fun _ => hstored, called := ?_ }
    intro hactive pid hdone
    rw [hnobody hactive pid] at hdone
    cases hdone
  · next job hphase =>
    cases hstep
    have hstored : job.status.active = true → _ := fun hactive =>
      h.stored (by rw [hphase]; exact hactive)
    have hcalled : job.status.active = true → _ := fun hactive =>
      h.called (by rw [hphase]; exact hactive)
    exact { h with
      stored := fun hactive => hstored (active_statusResult hactive)
      called := fun hactive => hcalled (active_statusResult hactive) }
  · cases hstep

theorem ResumeInv.put {notification : Notification} (h : ResumeInv resumeUrl s)
    (hpid : s.notifications pid ≠ none)
    (hposting : ∀ url, notification = .posting url → url = resumeUrl)
    (hdeleting : notification = .deleting → resumeUrl ∈ s.notified)
    (hdone : notification = .done → s.registration.uninformed = true → resumeUrl ∈ s.notified) :
    ResumeInv resumeUrl (s.put pid notification) where
  consistent := h.consistent
  stored := h.stored
  only := h.only
  posting q url hq := by
    rcases eq_or_ne q pid with rfl | hne
    · simp only [ResumeState.put, Function.update_self, Option.some.injEq] at hq
      exact hposting url hq
    · simp only [ResumeState.put, Function.update_of_ne hne] at hq
      exact h.posting q url hq
  deleting q hq := by
    rcases eq_or_ne q pid with rfl | hne
    · simp only [ResumeState.put, Function.update_self, Option.some.injEq] at hq
      exact hdeleting hq
    · simp only [ResumeState.put, Function.update_of_ne hne] at hq
      exact h.deleting q hq
  ended q hq := by
    rcases eq_or_ne q pid with rfl | hne
    · exact h.ended q hpid
    · simp only [ResumeState.put, Function.update_of_ne hne] at hq
      exact h.ended q hq
  called huninformed q hq := by
    rcases eq_or_ne q pid with rfl | hne
    · simp only [ResumeState.put, Function.update_self, Option.some.injEq] at hq
      exact hdone hq huninformed
    · simp only [ResumeState.put, Function.update_of_ne hne] at hq
      exact h.called huninformed q hq

theorem pastStore_of_uninformed {registration : Registration}
    (h : registration.uninformed = true) : registration.pastStore = true := by
  cases registration with
  | responding job | responded response => exact h
  | _ => cases h

theorem ResumeInv.of_notify (h : ResumeInv resumeUrl s) (hstep : stepNotify s pid = some s') :
    ResumeInv resumeUrl s' := by
  unfold stepNotify at hstep
  split at hstep
  · next hpid =>
    have hopen : s.notifications pid ≠ none := by simp [hpid]
    split at hstep
    · cases hstep
    split at hstep
    · next url hurl =>
      cases hstep
      refine ResumeInv.put h hopen (fun url' heq => ?_) nofun nofun
      cases heq
      exact h.only url hurl
    · next hurl =>
      cases hstep
      refine ResumeInv.put h hopen nofun nofun fun _ huninformed => ?_
      -- the URL was stored, so it is missing only because it has been called
      rcases h.stored (pastStore_of_uninformed huninformed) with hstored | hcalled
      · rw [hurl] at hstored
        cases hstored
      · exact hcalled
  · next url hpid =>
    cases hstep
    obtain rfl := h.posting pid url hpid
    have hmem : url ∈ url :: s.notified := List.mem_cons_self
    have hnotified : ResumeInv url { s with notified := url :: s.notified } :=
      { h with
        stored := fun _ => .inr hmem
        deleting := fun _ _ => hmem
        called := fun _ _ _ => hmem }
    exact ResumeInv.put hnotified (by simp [hpid]) nofun (fun _ => hmem) nofun
  · next hpid =>
    cases hstep
    have hcalled := h.deleting pid hpid
    have hdeleted : ResumeInv resumeUrl { s with url := none } :=
      { h with stored := fun _ => .inr hcalled, only := nofun }
    exact ResumeInv.put hdeleted (by simp [hpid]) nofun nofun fun _ _ => hcalled
  · cases hstep

end ResumeLemmas

open ResumeLemmas

theorem ResumeInv.of_step {settings : Settings} {resumeUrl : String} {s s' : ResumeState}
    {a : ResumeAction} (h : ResumeInv resumeUrl s)
    (hstep : stepResume settings resumeUrl s a = some s') : ResumeInv resumeUrl s' := by
  cases a with
  | machine a =>
    simp only [stepResume] at hstep
    split at hstep
    · cases hstep
    · obtain ⟨base, hbase, rfl⟩ := Option.map_eq_some_iff.mp hstep
      exact ResumeInv.of_machine h hbase
  | register => exact ResumeInv.of_register h hstep
  | notify pid => exact ResumeInv.of_notify h hstep

/-- Once the registration has responded and a process that ended the job has worked off its
notification, the response carries a final status or the registered URL was called. -/
theorem caller_learns_end (settings : Settings) (resumeUrl : String) (job : MailLookupJob)
    (start : Int) (s : ResumeState)
    (h : Reaches (stepResume settings resumeUrl) Always (.start job start) s)
    (response : LookupStatusResponse) (hresponded : s.registration = .responded response)
    (pid : Nat) (hnotified : s.notifications pid = some .done) :
    response.status.active = false ∨ resumeUrl ∈ s.notified := by
  have hinv : ResumeInv resumeUrl s := by
    refine h.invariant ?_ fun _ _ _ hs _ hstep => hs.of_step hstep
    exact ⟨consistent_start, nofun, nofun, nofun, nofun, fun _ hsome => absurd rfl hsome, nofun⟩
  by_cases hactive : response.status.active = true
  · exact .inr (hinv.called (by rw [hresponded]; exact hactive) pid hnotified)
  · exact .inl (by simpa using hactive)

def exNotFound : VerifiedCallback :=
  ⟨⟨7⟩, ⟨8⟩, ⟨.notFound, none, none, none, none, none, none⟩⟩

/-- The caller registers while the job is handed off; the callback arrives after the
response. -/
def exRegistered : List ResumeAction :=
  .register :: exHandoff.map ResumeAction.machine ++ [ResumeAction.register, .register, .register] ++
    [Action.callback exNotFound, .lock 1, .check 1, .settle 1 true, .run 1, .run 1].map
      ResumeAction.machine ++
    [ResumeAction.notify 1, .notify 1, .notify 1]

/-- The response still shows the job as pending, and the URL is called. -/
theorem exRegistered_called : ∃ s,
    Reaches (stepResume Settings.default "https://n8n/wait/1") Always (.start exJob 0) s ∧
    s.registration = .responded (statusResult exJob none) ∧ "https://n8n/wait/1" ∈ s.notified := by
  have hrun : (exec (stepResume Settings.default "https://n8n/wait/1") (.start exJob 0)
      exRegistered).map (fun s => (s.registration, s.notifications 1)) =
        some (.responded (statusResult exJob none), some .done) := by
    decide +kernel
  obtain ⟨s, hs, hfacts⟩ := Option.map_eq_some_iff.mp hrun
  obtain ⟨hresponded, hdone⟩ := Prod.mk.inj hfacts
  have hreach := reaches_of_exec hs
  refine ⟨s, hreach, hresponded, ?_⟩
  have hlearns := caller_learns_end _ _ _ _ s hreach _ hresponded 1 hdone
  exact hlearns.resolve_left (by decide)

end Trackpal.Coordinator
