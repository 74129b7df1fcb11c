import Mathlib.Data.List.Basic
import Trackpal.Foundation.Runs

/-!
# The export of a tenant in the browser

The export store polls the status of a job with an interval. Four of its calls wait for an answer,
and what an answer brings is stored whatever has happened since the call.
-/

namespace Trackpal.Browser.Exports

open Trackpal.Foundation

/-! ## The store -/

inductive ExportJobStatus where
  | pending
  | processing
  | ready
  | failed
  | cancelled
deriving DecidableEq, Repr

/-- `ExportJobStatusResponse`, with all that is only shown in `details`. -/
structure ExportJob (Details : Type) where
  id : String
  status : ExportJobStatus
  details : Details
deriving DecidableEq, Repr

abbrev TimerId := Nat

structure ExportState (Details : Type) where
  job : Option (ExportJob Details)
  pollTimer : Option TimerId
  requesting : Bool
  statusLoading : Bool
  downloadLoading : Bool
  cancelling : Bool
  downloadUrl : Option String
  error : Option String

variable {Details : Type}

def ExportState.initial : ExportState Details :=
  ⟨none, none, false, false, false, false, none, none⟩

def isPollable : ExportJobStatus → Bool
  | .pending | .processing => true
  | _ => false

/-- The job is under way. -/
def polls (job : Option (ExportJob Details)) : Bool := job.any fun job => isPollable job.status

variable (t : String → String)

def getExportError (detail : Option String) (fallbackKey : String) : String :=
  if detail = some "No ready export available" then t "frontend.my_account.data_error_no_ready"
  else (detail.filter (· ≠ "")).getD (t fallbackKey)

/-! ## Its calls -/

/-- The calls; `refreshCancelled` is the refresh that a cancellation awaits. -/
inductive Call where
  | refreshStatus
  | requestExport
  | cancelExport
  | refreshCancelled
  | download
deriving DecidableEq, Repr

structure Flight where
  call : Call
  since : Nat
  sent : Nat
deriving DecidableEq, Repr

/-- What comes back, or the detail of an error. -/
inductive Answer (Details : Type) where
  | status (job : Option (ExportJob Details))
  | requested (job : ExportJob Details)
  | cancelled
  | url (downloadUrl : String)
  | failed (detail : Option String)

/-- The store, the intervals and the requests of the browser. Moments are numbers of requests: those
of the last reset and of the last time a job was stored belong to no variable of the source. -/
structure State (Details : Type) where
  store : ExportState Details
  intervals : List TimerId
  nextTimer : TimerId
  flights : List Flight
  now : Nat
  resetAt : Nat
  storedAt : Nat

inductive Action (Details : Type) where
  | call (call : Call)
  | respond (i : Nat) (answer : Answer Details)
  | tick (timer : TimerId)
  | stopPolling
  | reset

namespace State

def initial : State Details := ⟨.initial, [], 0, [], 0, 0, 0⟩

def startPolling (s : State Details) : State Details :=
  if s.store.pollTimer.isSome then s
  else
    { s with
      store := { s.store with pollTimer := some s.nextTimer }
      intervals := s.nextTimer :: s.intervals
      nextTimer := s.nextTimer + 1 }

def stopPolling (s : State Details) : State Details :=
  match s.store.pollTimer with
  | some timer =>
    { s with
      store := { s.store with pollTimer := none }
      intervals := s.intervals.erase timer }
  | none => s

def reset (s : State Details) : State Details :=
  { s.stopPolling with store := .initial, resetAt := s.now }

/-- A request is sent, for a call that was started at some moment. -/
def send (s : State Details) (call : Call) (since : Nat) : State Details :=
  { s with flights := s.flights ++ [⟨call, since, s.now⟩], now := s.now + 1 }

/-- `refreshStatus` up to its await. -/
def startRefresh (s : State Details) (call : Call) (since : Nat) : State Details :=
  { s with store := { s.store with statusLoading := true, error := none } }.send call since

/-- A call up to its await. -/
def start (s : State Details) : Call → Option (State Details)
  | .refreshStatus => some (s.startRefresh .refreshStatus s.now)
  | .requestExport =>
    some ({ s with
      store := { s.store with requesting := true, error := none, downloadUrl := none } }.send
        .requestExport s.now)
  | .cancelExport =>
    some ({ s with store := { s.store with cancelling := true, error := none } }.send
      .cancelExport s.now)
  | .download =>
    some ({ s with store := { s.store with downloadLoading := true, error := none } }.send
      .download s.now)
  | .refreshCancelled => none

/-- `refreshStatus` behind its await. -/
def refreshed (s : State Details) : Option (ExportJob Details) → State Details
  | none =>
    { s with
      store := { s.store with job := none, statusLoading := false, downloadUrl := none }
      storedAt := s.now }
  | some job =>
    let s := { s with
      store := { s.store with job := some job, statusLoading := false, error := none }
      storedAt := s.now }
    if isPollable job.status then s.startPolling else s.stopPolling

def refreshFailed (s : State Details) (detail : Option String) : State Details :=
  { s with store := { s.store with
      error := some (getExportError t detail "frontend.my_account.data_error_status")
      statusLoading := false } }

/-- `requestExport` behind its await. -/
def requested (s : State Details) (job : ExportJob Details) : State Details :=
  let s := { s with
    store := { s.store with job := some job, requesting := false, error := none }
    storedAt := s.now }
  if isPollable job.status then s.startPolling else s

/-- The end of `cancelExport`. -/
def endCancel (s : State Details) : State Details :=
  { s with store := { s.store with cancelling := false, error := none } }

/-- What a call does with an answer of its kind. -/
def land (s : State Details) (flight : Flight) : Answer Details → Option (State Details)
  | .status job =>
    match flight.call with
    | .refreshStatus => some (s.refreshed job)
    | .refreshCancelled => some (s.refreshed job).endCancel
    | _ => none
  | .requested job => if flight.call = .requestExport then some (s.requested job) else none
  | .cancelled =>
    if flight.call = .cancelExport then some (s.startRefresh .refreshCancelled flight.since)
    else none
  | .url downloadUrl =>
    if flight.call = .download then
      some { s with store := { s.store with
        downloadUrl := some downloadUrl, downloadLoading := false } }
    else none
  | .failed detail =>
    match flight.call with
    | .refreshStatus => some (s.refreshFailed t detail)
    | .refreshCancelled => some (s.refreshFailed t detail).endCancel
    | .requestExport => some { s with store := { s.store with
        error := some (getExportError t detail "frontend.my_account.data_error_request")
        requesting := false } }
    | .cancelExport => some { s with store := { s.store with
        error := some (getExportError t detail "frontend.my_account.data_error_cancel")
        cancelling := false } }
    | .download => some { s with store := { s.store with
        error := some (getExportError t detail "frontend.my_account.data_error_download")
        downloadLoading := false
        downloadUrl := none } }

/-- The interval of `startPolling` fires. -/
def tick (s : State Details) : State Details :=
  if polls s.store.job then s.startRefresh .refreshStatus s.now else s.stopPolling

end State

def step (s : State Details) : Action Details → Option (State Details)
  | .call call => s.start call
  | .respond i answer =>
    s.flights[i]?.bind fun flight =>
      { s with flights := s.flights.eraseIdx i }.land t flight answer
  | .tick timer => if timer ∈ s.intervals then some s.tick else none
  | .stopPolling => some s.stopPolling
  | .reset => some s.reset

structure Good (s : State Details) : Prop where
  /-- There is at most one interval, which is that of the store. -/
  single : s.intervals = s.store.pollTimer.toList
  /-- An interval exists only for a job that is under way. -/
  polling : s.intervals ≠ [] → polls s.store.job = true

/-- The answer to a call from before the last reset changes neither the job nor the link, and starts
no interval. -/
def LateKept (s : State Details) (a : Action Details) (s' : State Details) : Prop :=
  ∀ i answer flight, a = .respond i answer → s.flights[i]? = some flight →
    flight.since < s.resetAt →
    s'.store.job = s.store.job ∧ s'.store.downloadUrl = s.store.downloadUrl ∧
      ∀ timer ∈ s'.intervals, timer ∈ s.intervals

/-- The answer to a request from before a job was stored that has ended does not bring the same job
back under way. -/
def EndKept (s : State Details) (a : Action Details) (s' : State Details) : Prop :=
  ∀ i answer flight job job', a = .respond i answer → s.flights[i]? = some flight →
    flight.sent < s.storedAt → s.store.job = some job → isPollable job.status = false →
    s'.store.job = some job' → job'.id = job.id → isPollable job'.status = false

variable [DecidableEq Details]

def State.shows (s : State Details) (flight : Flight) (job : Option (ExportJob Details))
    (downloadUrl : Option String) : Bool :=
  flight.since < s.resetAt && (job ≠ s.store.job || downloadUrl ≠ s.store.downloadUrl ||
    (polls job && s.store.pollTimer.isNone))

/-- An answer would bring back a job that has ended. -/
def State.revives (s : State Details) (flight : Flight) (job : Option (ExportJob Details)) : Bool :=
  flight.sent < s.storedAt && s.store.job.any fun old =>
    !isPollable old.status && job.any fun new => new.id = old.id && isPollable new.status

/-- No job is found, or a new one is over at once, and the interval goes on; or an answer comes too
late for a reset, or for the end of the job. -/
def breaksOn (s : State Details) (flight : Flight) : Answer Details → Bool
  | .status job =>
    (job.isNone && s.store.pollTimer.isSome) ||
      s.shows flight job (if job.isSome then s.store.downloadUrl else none) ||
      s.revives flight job
  | .requested job =>
    (!isPollable job.status && s.store.pollTimer.isSome) ||
      s.shows flight (some job) s.store.downloadUrl || s.revives flight (some job)
  | .cancelled => false
  | .url downloadUrl =>
    flight.since < s.resetAt && s.store.downloadUrl ≠ some downloadUrl
  | .failed _ =>
    flight.call = .download && flight.since < s.resetAt && s.store.downloadUrl.isSome

def breaks (s : State Details) : Action Details → Bool
  | .respond i answer => s.flights[i]?.any fun flight => breaksOn s flight answer
  | _ => false

namespace ExportsLemmas

variable {t : String → String} {s s' : State Details} {a : Action Details} {flight : Flight}
  {job : Option (ExportJob Details)} {downloadUrl : Option String} {answer : Answer Details}

omit [DecidableEq Details] in
/-- What a reader of the job, the link and the intervals sees has not changed, but for intervals
that have ended. -/
def Unchanged (s s' : State Details) : Prop :=
  s'.store.job = s.store.job ∧ s'.store.downloadUrl = s.store.downloadUrl ∧
    ∀ timer ∈ s'.intervals, timer ∈ s.intervals

def Ended (s s' : State Details) : Prop :=
  ∀ job job', s.store.job = some job → isPollable job.status = false →
    s'.store.job = some job' → job'.id = job.id → isPollable job'.status = false

/-- What is claimed of an answer. -/
def Landed (s : State Details) (flight : Flight) (s' : State Details) : Prop :=
  Good s' ∧ (flight.since < s.resetAt → Unchanged s s') ∧ (flight.sent < s.storedAt → Ended s s')

omit [DecidableEq Details] in
theorem stopPolling_spec (h : s.intervals = s.store.pollTimer.toList) :
    s.stopPolling.intervals = [] ∧ s.stopPolling.store.pollTimer = none ∧
      s.stopPolling.store.job = s.store.job ∧
      s.stopPolling.store.downloadUrl = s.store.downloadUrl := by
  unfold State.stopPolling
  cases htimer : s.store.pollTimer with
  | none =>
    rw [htimer] at h
    exact ⟨h, htimer, rfl, rfl⟩
  | some timer =>
    rw [htimer] at h
    refine ⟨?_, rfl, rfl, rfl⟩
    dsimp only
    rw [h]
    exact List.erase_cons_head timer []

omit [DecidableEq Details] in
theorem startPolling_spec (h : s.intervals = s.store.pollTimer.toList) :
    s.startPolling.intervals = s.startPolling.store.pollTimer.toList ∧
      s.startPolling.store.job = s.store.job ∧
      s.startPolling.store.downloadUrl = s.store.downloadUrl ∧
      ((∀ timer ∈ s.startPolling.intervals, timer ∈ s.intervals) ↔
        s.store.pollTimer.isNone = false) := by
  unfold State.startPolling
  cases htimer : s.store.pollTimer with
  | some timer =>
    rw [htimer] at h
    rw [Option.isSome_some, if_pos rfl]
    exact ⟨by rw [h, htimer], rfl, rfl, iff_of_true (fun _ hmem => hmem) rfl⟩
  | none =>
    rw [htimer] at h
    rw [Option.isSome_none, if_neg Bool.false_ne_true]
    refine ⟨congrArg (s.nextTimer :: ·) h, rfl, rfl, iff_of_false (fun hkept => ?_) (by decide)⟩
    have hmem := hkept s.nextTimer List.mem_cons_self
    rw [h] at hmem
    cases hmem

omit [DecidableEq Details] in
theorem good_stopPolling (h : Good s) : Good s.stopPolling := by
  obtain ⟨hnil, htimer, -⟩ := stopPolling_spec h.single
  exact ⟨by rw [hnil, htimer]; rfl, fun hne => absurd hnil hne⟩

omit [DecidableEq Details] in
theorem good_reset (h : Good s) : Good s.reset :=
  ⟨(stopPolling_spec h.single).1, fun hne => absurd (stopPolling_spec h.single).1 hne⟩

omit [DecidableEq Details] in
theorem good_of_eq (h : Good s) (hjob : s'.store.job = s.store.job)
    (htimer : s'.store.pollTimer = s.store.pollTimer) (hintervals : s'.intervals = s.intervals) :
    Good s' :=
  ⟨by rw [hintervals, htimer, h.single], by rw [hintervals, hjob]; exact h.polling⟩

theorem shows_eq_false : s.shows flight job downloadUrl = false ↔
    (flight.since < s.resetAt → job = s.store.job ∧ downloadUrl = s.store.downloadUrl ∧
      (polls job && s.store.pollTimer.isNone) = false) := by
  unfold State.shows
  rw [Bool.and_eq_false_iff, decide_eq_false_iff_not, ← imp_iff_not_or, Bool.or_eq_false_iff,
    Bool.or_eq_false_iff, decide_eq_false_iff_not, decide_eq_false_iff_not, not_not, not_not,
    and_assoc]

omit [DecidableEq Details] in
theorem revives_eq_false (h : s'.store.job = job) : s.revives flight job = false ↔
    (flight.sent < s.storedAt → Ended s s') := by
  unfold State.revives Ended
  rw [Bool.and_eq_false_iff, decide_eq_false_iff_not, ← imp_iff_not_or, h]
  refine imp_congr_right fun _ => ?_
  cases s.store.job with
  | none => exact iff_of_true rfl fun _ _ hold => nomatch hold
  | some old =>
    cases job with
    | none => exact iff_of_true (by simp) fun _ _ _ _ hnew => nomatch hnew
    | some new => simp

theorem landed_iff {idle : Bool} (hjob : s'.store.job = job)
    (hurl : s'.store.downloadUrl = downloadUrl) (hgood : Good s' ↔ idle = false)
    (hkept : (∀ timer ∈ s'.intervals, timer ∈ s.intervals) ↔
      (polls job && s.store.pollTimer.isNone) = false) :
    Landed s flight s' ↔
      (idle || s.shows flight job downloadUrl || s.revives flight job) = false := by
  unfold Landed Unchanged
  rw [Bool.or_eq_false_iff, Bool.or_eq_false_iff, ← hgood, shows_eq_false, revives_eq_false hjob,
    hjob, hurl, hkept, and_assoc]

omit [DecidableEq Details] in
theorem good_idle (h : s.intervals = s.store.pollTimer.toList) (hjob : polls s.store.job = false) :
    Good s ↔ s.store.pollTimer.isSome = false := by
  constructor
  · intro hgood
    cases htimer : s.store.pollTimer with
    | none => rfl
    | some timer =>
      rw [htimer] at h
      have hpolls := hgood.polling (by rw [h]; exact List.cons_ne_nil _ _)
      rw [hjob] at hpolls
      cases hpolls
  · intro hnone
    rw [Option.isSome_eq_false_iff, Option.isNone_iff_eq_none] at hnone
    exact ⟨h, fun hne => absurd (by rw [h, hnone]; rfl) hne⟩

theorem landed_started {job : ExportJob Details} {s₁ : State Details} (h : Good s)
    (hpolls : isPollable job.status = true) (hjob : s₁.store.job = some job)
    (hurl : s₁.store.downloadUrl = s.store.downloadUrl)
    (htimer : s₁.store.pollTimer = s.store.pollTimer) (hintervals : s₁.intervals = s.intervals) :
    Landed s flight s₁.startPolling ↔ (false || s.shows flight (some job) s.store.downloadUrl ||
      s.revives flight (some job)) = false := by
  obtain ⟨hsingle, hjob₁, hurl₁, hkept⟩ := @startPolling_spec _ s₁
    (by rw [hintervals, htimer, h.single])
  have hpolling : polls (some job) = true := hpolls
  refine landed_iff (hjob₁.trans hjob) (hurl₁.trans hurl)
    (iff_of_true ⟨hsingle, fun _ => ?_⟩ rfl) ?_
  · rw [hjob₁, hjob]
    exact hpolling
  · rw [hpolling, Bool.true_and, ← hintervals, ← htimer]
    exact hkept

theorem landed_refreshed {flights : List Flight} (h : Good s) :
    Landed s flight ({ s with flights := flights }.refreshed job) ↔
      breaksOn s flight (.status job) = false := by
  cases job with
  | none => exact landed_iff rfl rfl (good_idle h.single rfl) (iff_of_true (fun _ hmem => hmem) rfl)
  | some job =>
    unfold State.refreshed
    dsimp only
    cases hpolls : isPollable job.status with
    | true =>
      rw [if_pos rfl]
      exact landed_started h hpolls rfl rfl rfl rfl
    | false =>
      rw [if_neg Bool.false_ne_true]
      obtain ⟨hnil, htimer, hjob, hurl⟩ := @stopPolling_spec _ { s with
        store := { s.store with job := some job, statusLoading := false, error := none }
        flights := flights
        storedAt := s.now } h.single
      refine landed_iff hjob hurl (iff_of_true ⟨?_, fun hne => absurd hnil hne⟩ rfl) ?_
      · rw [hnil, htimer]
        rfl
      · refine iff_of_true (fun timer hmem => ?_) (Bool.and_eq_false_iff.mpr (.inl hpolls))
        rw [hnil] at hmem
        cases hmem

theorem landed_requested {flights : List Flight} {job : ExportJob Details} (h : Good s) :
    Landed s flight ({ s with flights := flights }.requested job) ↔
      breaksOn s flight (.requested job) = false := by
  unfold State.requested breaksOn
  dsimp only
  cases hpolls : isPollable job.status with
  | true =>
    rw [if_pos rfl]
    exact landed_started h hpolls rfl rfl rfl rfl
  | false =>
    rw [if_neg Bool.false_ne_true, Bool.not_false, Bool.true_and]
    exact landed_iff rfl rfl (good_idle h.single hpolls)
      (iff_of_true (fun _ hmem => hmem) (Bool.and_eq_false_iff.mpr (.inl hpolls)))

omit [DecidableEq Details] in
theorem landed_endCancel : Landed s flight s'.endCancel ↔ Landed s flight s' :=
  ⟨fun h => ⟨⟨h.1.single, h.1.polling⟩, h.2⟩, fun h => ⟨⟨h.1.single, h.1.polling⟩, h.2⟩⟩

omit [DecidableEq Details] in
theorem landed_of_eq (h : Good s) (hjob : s'.store.job = s.store.job)
    (htimer : s'.store.pollTimer = s.store.pollTimer) (hintervals : s'.intervals = s.intervals) :
    Landed s flight s' ↔
      (flight.since < s.resetAt → s'.store.downloadUrl = s.store.downloadUrl) := by
  constructor
  · exact fun hlanded hlate => (hlanded.2.1 hlate).2.1
  · refine fun hurl => ⟨good_of_eq h hjob htimer hintervals, fun hlate => ⟨hjob, hurl hlate,
      fun timer hmem => hintervals ▸ hmem⟩, fun _ job job' hold hends hnew _ => ?_⟩
    rw [hjob, hold] at hnew
    rwa [← Option.some.inj hnew]

theorem landed_land {flights : List Flight} (h : Good s)
    (hland : { s with flights := flights }.land t flight answer = some s') :
    Landed s flight s' ↔ breaksOn s flight answer = false := by
  obtain ⟨call, since, sent⟩ := flight
  cases answer with
  | status job =>
    cases call with
    | refreshStatus =>
      obtain rfl := Option.some.inj hland
      exact landed_refreshed h
    | refreshCancelled =>
      obtain rfl := Option.some.inj hland
      exact landed_endCancel.trans (landed_refreshed h)
    | requestExport | cancelExport | download => nomatch hland
  | requested job =>
    obtain ⟨-, hland⟩ := Option.ite_none_right_eq_some.mp hland
    obtain rfl := Option.some.inj hland
    exact landed_requested h
  | cancelled =>
    obtain ⟨-, hland⟩ := Option.ite_none_right_eq_some.mp hland
    obtain rfl := Option.some.inj hland
    exact (landed_of_eq h (by rfl) (by rfl) (by rfl)).trans (iff_of_true (fun _ => rfl) rfl)
  | url downloadUrl =>
    obtain ⟨-, hland⟩ := Option.ite_none_right_eq_some.mp hland
    obtain rfl := Option.some.inj hland
    refine (landed_of_eq h (by rfl) (by rfl) (by rfl)).trans ?_
    unfold breaksOn
    rw [Bool.and_eq_false_iff, decide_eq_false_iff_not, decide_eq_false_iff_not, not_not,
      ← imp_iff_not_or]
    exact imp_congr_right fun _ => eq_comm
  | failed detail =>
    cases call with
    | refreshStatus | refreshCancelled | requestExport | cancelExport =>
      obtain rfl := Option.some.inj hland
      exact (landed_of_eq h (by rfl) (by rfl) (by rfl)).trans (iff_of_true (fun _ => rfl) rfl)
    | download =>
      obtain rfl := Option.some.inj hland
      refine (landed_of_eq h (by rfl) (by rfl) (by rfl)).trans ?_
      unfold breaksOn
      rw [decide_eq_true rfl, Bool.true_and, Bool.and_eq_false_iff, decide_eq_false_iff_not,
        ← imp_iff_not_or, Option.isSome_eq_false_iff, Option.isNone_iff_eq_none]
      exact imp_congr_right fun _ => eq_comm

omit [DecidableEq Details] in
theorem good_start {call : Call} (h : Good s) (hstart : s.start call = some s') : Good s' := by
  cases call with
  | refreshStatus | requestExport | cancelExport | download =>
    obtain rfl := Option.some.inj hstart
    exact ⟨h.single, h.polling⟩
  | refreshCancelled => nomatch hstart

omit [DecidableEq Details] in
theorem good_tick (h : Good s) : Good s.tick := by
  unfold State.tick
  split
  · exact ⟨h.single, h.polling⟩
  · exact good_stopPolling h

theorem good_step (h : Good s) (hstep : step t s a = some s') :
    Good s' ∧ LateKept s a s' ∧ EndKept s a s' ↔ breaks s a = false := by
  have hother (hgood : Good s') (ha : ∀ i answer, a ≠ .respond i answer) :
      Good s' ∧ LateKept s a s' ∧ EndKept s a s' :=
    ⟨hgood, fun i answer _ hrespond => absurd hrespond (ha i answer),
      fun i answer _ _ _ hrespond => absurd hrespond (ha i answer)⟩
  cases a with
  | call call => exact iff_of_true (hother (good_start h hstep) nofun) rfl
  | tick timer =>
    obtain ⟨-, hstep⟩ := Option.ite_none_right_eq_some.mp hstep
    obtain rfl := Option.some.inj hstep
    exact iff_of_true (hother (good_tick h) nofun) rfl
  | stopPolling =>
    obtain rfl := Option.some.inj hstep
    exact iff_of_true (hother (good_stopPolling h) nofun) rfl
  | reset =>
    obtain rfl := Option.some.inj hstep
    exact iff_of_true (hother (good_reset h) nofun) rfl
  | respond i answer =>
    obtain ⟨flight, hflight, hland⟩ := Option.bind_eq_some_iff.mp hstep
    unfold breaks
    dsimp only
    rw [hflight, Option.any_some, ← landed_land h hland]
    constructor
    · intro ⟨hgood, hlate, hend⟩
      exact ⟨hgood, hlate i answer flight rfl hflight,
        fun hsent job job' => hend i answer flight job job' rfl hflight hsent⟩
    · rintro ⟨hgood, hlate, hend⟩
      refine ⟨hgood, fun i' answer' flight' ha hflight' => ?_,
        fun i' answer' flight' job job' ha hflight' hsent => ?_⟩ <;>
        (cases ha; obtain rfl := Option.some.inj (hflight.symm.trans hflight'))
      · exact hlate
      · exact hend hsent job job'

end ExportsLemmas

open ExportsLemmas

/-- Polling goes with a job that is under way, a reset is final and a job that has ended stays
ended, exactly as long as no answer breaks it. -/
theorem exports_good_iff (t : String → String) (s : State Details)
    (h : Reaches (step t) (fun s a => breaks s a = false) .initial s) :
    Good s ∧ ∀ a s', step t s a = some s' →
      (Good s' ∧ LateKept s a s' ∧ EndKept s a s' ↔ breaks s a = false) := by
  have hgood : Good s := by
    refine h.invariant ⟨rfl, fun hne => absurd rfl hne⟩ fun s a s' hs hok hstep => ?_
    exact ((good_step hs hstep).mpr hok).1
  exact ⟨hgood, fun a s' hstep => good_step hgood hstep⟩

/-! ## A status that comes late -/

def exPending : ExportJob Unit := ⟨"job", .pending, ()⟩

def exReady : ExportJob Unit := ⟨"job", .ready, ()⟩

def exPolled : List (Action Unit) :=
  [.call .refreshStatus, .respond 0 (.status (some exPending)), .tick 0,
    .respond 0 (.status (some exReady))]

/-- The second poll finds the job ready. -/
theorem exports_good_iff_polled : ∃ s : State Unit, s.store.job = some exReady ∧ Good s ∧
    ∀ a s', step id s a = some s' →
      (Good s' ∧ LateKept s a s' ∧ EndKept s a s' ↔ breaks s a = false) := by
  have hrun : (execWhere (step id) (fun s a => !breaks s a) .initial exPolled).any
      fun s => s.store.job = some exReady := by
    decide
  obtain ⟨s, hreaches, hjob⟩ := exists_of_execWhere hrun
  exact ⟨s, of_decide_eq_true hjob, exports_good_iff id s
    (hreaches.mono fun _ _ hok => by simpa using hok)⟩

def exLeft : List (Action Unit) := [.call .refreshStatus, .reset]

/-- The status arrives behind the reset, and the interval starts. -/
theorem late_status_polls : ∃ s s' : State Unit, Reaches (step id) Always .initial s ∧
    step id s (.respond 0 (.status (some exPending))) = some s' ∧ s.intervals = [] ∧
    s'.intervals ≠ [] ∧ ¬LateKept s (.respond 0 (.status (some exPending))) s' := by
  have hrun : ((exec (step id) (.initial : State Unit) exLeft).any fun s =>
      s.flights[0]? = some ⟨.refreshStatus, 0, 0⟩ && 0 < s.resetAt && s.intervals = [] &&
        (step id s (.respond 0 (.status (some exPending)))).any fun s' =>
          s'.intervals = [0]) = true := by
    decide
  obtain ⟨s, hexec, hs⟩ := (Option.any_eq_true _ _).mp hrun
  simp only [Bool.and_eq_true, decide_eq_true_eq, Option.any_eq_true] at hs
  obtain ⟨⟨⟨hflight, hreset⟩, hnil⟩, s', hstep, hone⟩ := hs
  refine ⟨s, s', reaches_of_exec hexec, hstep, hnil, by rw [hone]; decide, fun hkept => ?_⟩
  have hmem := (hkept 0 _ _ rfl hflight hreset).2.2 0 (by rw [hone]; exact List.mem_cons_self)
  rw [hnil] at hmem
  cases hmem

end Trackpal.Browser.Exports
