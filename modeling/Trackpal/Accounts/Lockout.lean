import Trackpal.Foundation.ExpiringStore
import Trackpal.Foundation.Histories
import Trackpal.Foundation.Runs
import Trackpal.Foundation.Threads

/-!
# The lockout of the WhatsApp login

The failed logins of a phone are counted in a key that is read, incremented and written back, and
which expires a whole number of seconds after its last write. Messages of the phone are processed
in parallel. Instants are in microseconds.
-/

namespace Trackpal.Accounts.Lockout

open Trackpal.Foundation

def second : Int := 1000000

/-- The arguments of `WhatsAppAuthSessionService` that are about the lockout. -/
structure Settings where
  failThreshold : Int
  lockMinutes : Int
  failWindowMinutes : Int
deriving DecidableEq, Repr

namespace Settings

def failWindowSeconds (settings : Settings) : Int := settings.failWindowMinutes * 60

def failWindow (settings : Settings) : Int := settings.failWindowSeconds * second

/-- `timedelta(minutes=self._lock_minutes)`. -/
def lockTime (settings : Settings) : Int := settings.lockMinutes * 60 * second

end Settings

/-- `WhatsAppAuthFailState`. -/
structure FailState where
  count : Int
  firstFailedAt : Int
  lastFailedAt : Int
deriving DecidableEq, Repr

/-- `WhatsAppAuthLockState`. -/
structure LockState where
  lockedUntil : Int
deriving DecidableEq, Repr

def LockState.isLocked (lock : LockState) (now : Int) : Bool := now < lock.lockedUntil

/-! ## Recording a failed attempt -/

/-- What a call writes: a lock, after which it deletes the counter, or the counter and its TTL. -/
inductive Decision where
  | lock (count : Int) (lock : LockState)
  | count (state : FailState) (seconds : Int)
deriving DecidableEq, Repr

/-- The counter after one more failure. -/
def FailState.next (found : Option FailState) (now : Int) : FailState :=
  match found with
  | none => ⟨1, now, now⟩
  | some state => { state with count := state.count + 1, lastFailedAt := now }

/-- What `record_failed_attempt` makes of the counter it has read: `now` is its own time. -/
def recordFailedAttempt (settings : Settings) (now : Int) (found : Option FailState) : Decision :=
  let state := FailState.next found now
  let remaining := settings.failWindow - (now - state.firstFailedAt)
  if settings.failThreshold ≤ state.count then .lock state.count ⟨now + settings.lockTime⟩
  else if 0 < remaining then .count state (max 1 (remaining / second))
  else .count ⟨1, now, now⟩ settings.failWindowSeconds

/-- `SET` with `EX`, which is an error unless the TTL is positive. -/
def setEx {ν : Type} (store : ExpiringStore Unit ν Int) (now : Int) (value : ν) (seconds : Int) :
    Option (ExpiringStore Unit ν Int) :=
  if 0 < seconds then some (store.set () value (now + seconds * second)) else none

/-! ## The calls of a phone -/

/-- Where a login attempt is: before the failure of its authentication, after the time of the
call has been taken, after the counter has been read, and after the lock has been created. -/
inductive Phase where
  | verifying
  | failed (now : Int)
  | read (now : Int) (found : Option FailState)
  | clearing
deriving DecidableEq, Repr

/-- The call has read the counter, and has not written it. -/
def Phase.recording : Phase → Bool
  | .read _ _ | .clearing => true
  | .verifying | .failed _ => false

structure Recorded where
  now : Int
  count : Int
  lock : Option LockState
deriving DecidableEq, Repr

/-- The keys of a phone, the login attempts, the clock, and what has been recorded, the latest
first. -/
structure Phone where
  fails : ExpiringStore Unit FailState Int
  locks : ExpiringStore Unit LockState Int
  attempts : Threads Phase
  now : Int
  recorded : List Recorded

/-- No login has failed. -/
def Phone.init (now : Int) : Phone := ⟨.empty, .empty, .none, now, []⟩

/-- One step. -/
inductive Action where
  | tick (microseconds : Nat)
  | arrive
  | fail (pid : Nat)
  | read (pid : Nat)
  | write (pid : Nat)
  | delete (pid : Nat)
deriving DecidableEq, Repr

namespace Phone

def inForce (p : Phone) : Bool := (p.locks.get p.now ()).any (·.isLocked p.now)

/-- An attempt goes on, or has ended. -/
def move (p : Phone) (pid : Nat) (next : Option Phase) : Phone :=
  { p with attempts := p.attempts.put pid next }

def lock (p : Phone) (pid : Nat) (now count : Int) (lock : LockState)
    (locks : ExpiringStore Unit LockState Int) : Phone :=
  { p with
    locks := locks
    attempts := p.attempts.put pid (some .clearing)
    recorded := ⟨now, count, some lock⟩ :: p.recorded }

def count (p : Phone) (pid : Nat) (now count : Int) (fails : ExpiringStore Unit FailState Int) :
    Phone :=
  { p with
    fails := fails
    attempts := p.attempts.put pid none
    recorded := ⟨now, count, none⟩ :: p.recorded }

def write (p : Phone) (settings : Settings) (pid : Nat) (now : Int) (found : Option FailState) :
    Phone :=
  match recordFailedAttempt settings now found with
  | .lock count lock =>
    match setEx p.locks p.now lock (settings.lockMinutes * 60) with
    | some locks => p.lock pid now count lock locks
    | none => p.move pid none
  | .count state seconds =>
    match setEx p.fails p.now state seconds with
    | some fails => p.count pid now state.count fails
    | none => p.move pid none

def step (settings : Settings) (p : Phone) : Action → Option Phone
  | .tick microseconds => some { p with now := p.now + microseconds }
  | .arrive =>
    if p.inForce then some p else some { p with attempts := p.attempts.spawn .verifying }
  | .fail pid =>
    match p.attempts.get pid with
    | some .verifying => some (p.move pid (some (.failed p.now)))
    | _ => none
  | .read pid =>
    match p.attempts.get pid with
    | some (.failed now) => some (p.move pid (some (.read now (p.fails.get p.now ()))))
    | _ => none
  | .write pid =>
    match p.attempts.get pid with
    | some (.read now found) => some (p.write settings pid now found)
    | _ => none
  | .delete pid =>
    match p.attempts.get pid with
    | some .clearing => some { p.move pid none with fails := p.fails.del () }
    | _ => none

end Phone

/-! ## What the failures ask for -/

def sinceLock (recorded : List Recorded) : List Int :=
  (recorded.takeWhile (·.lock.isNone)).map (·.now)

/-- The failures of the window of the latest one: a failure opens a window if the one that was
opened last is over. -/
def window (length : Int) : List Int → List Int
  | [] => []
  | t :: earlier =>
    match (window length earlier).getLast? with
    | some first => if t - first < length then t :: window length earlier else [t]
    | none => [t]

/-- The failures before one at `t` that are within a window of it. -/
def recent (length t : Int) (earlier : List Int) : List Int :=
  earlier.filter fun s => t - length < s ∧ s ≤ t

/-- The failure is the last of as many as the threshold asks for, within the window that the first
of them opened. -/
def Reached (settings : Settings) (t : Int) (earlier : List Recorded) : Prop :=
  settings.failThreshold ≤ (window settings.failWindow (t :: sinceLock earlier)).length

def Within (settings : Settings) (t : Int) (earlier : List Recorded) : Prop :=
  settings.failThreshold ≤ 1 + (recent settings.failWindow t (sinceLock earlier)).length

instance {settings : Settings} {t : Int} {earlier : List Recorded} :
    Decidable (Reached settings t earlier) := Int.decLe _ _

instance {settings : Settings} {t : Int} {earlier : List Recorded} :
    Decidable (Within settings t earlier) := Int.decLe _ _

/-- Whenever the failures reach the threshold, a lock has been created with the last of them, and
is in force for the time of a lock. -/
def Counted (settings : Settings) (reached : Int → List Recorded → Prop) (p : Phone) : Prop :=
  Everywhere (fun r earlier => reached r.now earlier →
    r.lock.isSome = true ∧ (p.now < r.now + settings.lockTime → p.inForce = true)) p.recorded

/-- A lock has been created only with the last of as many failures as the threshold asks for,
within one fail window. -/
def Justified (settings : Settings) (p : Phone) : Prop :=
  Everywhere (fun r earlier => r.lock.isSome = true → Within settings r.now earlier) p.recorded

instance {settings : Settings} {reached : Int → List Recorded → Prop} {p : Phone}
    [∀ t earlier, Decidable (reached t earlier)] : Decidable (Counted settings reached p) :=
  Everywhere.decidable p.recorded

instance {settings : Settings} {p : Phone} : Decidable (Justified settings p) :=
  Everywhere.decidable p.recorded

/-! ## When the failures are counted -/

/-- A call with the time `t` can be counted: it finds the counter if the window is still open, and
does not find one of a window that is over and lacks one failure to the threshold. -/
def finds (settings : Settings) (p : Phone) (t : Int) : Bool :=
  let current := window settings.failWindow (sinceLock p.recorded)
  match current.getLast? with
  | none => true
  | some first =>
    if t - first < settings.failWindow then (p.fails.get p.now ()).isSome
    else (p.fails.get p.now ()).isNone || current.length + 1 < settings.failThreshold

/-- No other call is between its read and its last write, the failures are recorded in the order
of their times, and the counter is there as long as its window. -/
def countable (settings : Settings) (p : Phone) : Action → Bool
  | .read pid =>
    match p.attempts.get pid with
    | some (.failed t) =>
      p.attempts.running.all (!·.recording) && p.recorded.all (·.now ≤ t) && finds settings p t
    | _ => true
  | _ => true

/-- No failures that reach the threshold within a fail window belong to two windows. -/
def unsplit (settings : Settings) (p : Phone) : Action → Bool
  | .write pid =>
    match p.attempts.get pid with
    | some (.read t _) => Within settings t p.recorded → Reached settings t p.recorded
    | _ => true
  | _ => true

variable {settings : Settings} {p p' : Phone} {action : Action} {pid : Nat} {t now length : Int}
  {recorded : List Recorded} {found : Option FailState} {phase : Phase} {times : List Int}

namespace LockoutLemmas

/-! ## Windows -/

theorem window_of_open {first : Int} (hlast : (window length times).getLast? = some first)
    (hlt : t - first < length) : window length (t :: times) = t :: window length times := by
  rw [window, hlast]
  exact if_pos hlt

theorem window_of_over
    (hover : ∀ first, (window length times).getLast? = some first → ¬t - first < length) :
    window length (t :: times) = [t] := by
  rw [window]
  split
  · next first hlast => exact if_neg (hover first hlast)
  · rfl

theorem window_sublist : (window length times).Sublist times := by
  induction times with
  | nil => exact .slnil
  | cons t times ih =>
    rw [window]
    split
    · split
      · exact ih.cons_cons t
      · exact (List.nil_sublist times).cons_cons t
    · exact (List.nil_sublist times).cons_cons t

theorem length_window_le (hordered : ∀ s ∈ times, s ≤ t) (hsorted : times.Pairwise (· ≥ ·)) :
    (window length (t :: times)).length ≤ 1 + (recent length t times).length := by
  cases hlast : (window length times).getLast? with
  | none =>
    rw [window_of_over fun first hfirst => by simp [hlast] at hfirst]
    exact Nat.le_add_right 1 _
  | some first =>
    by_cases hlt : t - first < length
    · rw [window_of_open hlast hlt, List.length_cons, Nat.add_comm]
      refine Nat.add_le_add_left ?_ 1
      have hrecent : ∀ s ∈ window length times, decide (t - length < s ∧ s ≤ t) = true := by
        intro s hs
        have hmem : s ∈ times := window_sublist.subset hs
        have hfirst : first ≤ s := by
          obtain ⟨later, hsplit⟩ := List.getLast?_eq_some_iff.mp hlast
          have hpairs : (window length times).Pairwise (· ≥ ·) := hsorted.sublist window_sublist
          rw [hsplit] at hs hpairs
          rcases List.mem_append.mp hs with hlater | hlatest
          · exact (List.pairwise_append.mp hpairs).2.2 s hlater first (List.mem_singleton_self first)
          · exact (List.mem_singleton.mp hlatest).ge
        have hle := hordered s hmem
        exact decide_eq_true ⟨by omega, hle⟩
      calc (window length times).length
          = ((window length times).filter fun s => t - length < s ∧ s ≤ t).length := by
            rw [List.filter_eq_self.mpr hrecent]
        _ ≤ (recent length t times).length := (window_sublist.filter _).length_le
    · rw [window_of_over fun first' hfirst => by
        rw [hlast] at hfirst
        exact Option.some.inj hfirst ▸ hlt]
      exact Nat.le_add_right 1 _

theorem sinceLock_of_none {r : Recorded} (h : r.lock = none) :
    sinceLock (r :: recorded) = r.now :: sinceLock recorded := by
  simp [sinceLock, h]

theorem sinceLock_of_some {r : Recorded} (h : r.lock.isSome = true) :
    sinceLock (r :: recorded) = [] := by
  cases hlock : r.lock with
  | none => simp [hlock] at h
  | some lock => simp [sinceLock, hlock]

theorem mem_of_mem_sinceLock (h : t ∈ sinceLock recorded) : ∃ r ∈ recorded, r.now = t := by
  obtain ⟨r, hr, rfl⟩ := List.mem_map.mp h
  exact ⟨r, (List.takeWhile_sublist _).subset hr, rfl⟩

end LockoutLemmas

open LockoutLemmas

/-! ## The counter -/

/-- The counter is the number of the failures of the window, and has the time of the first. -/
def Tally (settings : Settings) (recorded : List Recorded) (state : FailState) : Prop :=
  state.count = (window settings.failWindow (sinceLock recorded)).length ∧
    (window settings.failWindow (sinceLock recorded)).getLast? = some state.firstFailedAt

/-- A call with the time `t` has read what the failures before it have left. -/
structure Agrees (settings : Settings) (recorded : List Recorded) (t : Int)
    (found : Option FailState) : Prop where
  latest : ∀ r ∈ recorded, r.now ≤ t
  absent : found = none → ∀ first,
    (window settings.failWindow (sinceLock recorded)).getLast? = some first →
      ¬t - first < settings.failWindow
  present : ∀ state, found = some state → Tally settings recorded state ∧
    (t - state.firstFailedAt < settings.failWindow ∨ state.count + 1 < settings.failThreshold)

namespace LockoutLemmas

theorem decision_of_agrees (h : Agrees settings recorded t found) :
    (Reached settings t recorded ∧ ∃ count,
      recordFailedAttempt settings t found = .lock count ⟨t + settings.lockTime⟩) ∨
    ¬Reached settings t recorded ∧ ∃ state seconds,
      recordFailedAttempt settings t found = .count state seconds ∧
      state.count = (window settings.failWindow (t :: sinceLock recorded)).length ∧
      (window settings.failWindow (t :: sinceLock recorded)).getLast? =
        some state.firstFailedAt := by
  unfold Reached recordFailedAttempt
  cases found with
  | none =>
    rw [window_of_over (h.absent rfl)]
    by_cases hreached : settings.failThreshold ≤ 1
    · exact Or.inl ⟨hreached, 1, if_pos hreached⟩
    · refine Or.inr ⟨hreached, ?_⟩
      dsimp only [FailState.next]
      rw [if_neg hreached]
      split
      · exact ⟨_, _, rfl, rfl, rfl⟩
      · exact ⟨_, _, rfl, rfl, rfl⟩
  | some state =>
    obtain ⟨⟨hcount, hlast⟩, hopen⟩ := h.present state rfl
    dsimp only [FailState.next]
    by_cases hlt : t - state.firstFailedAt < settings.failWindow
    · rw [window_of_open hlast hlt, List.length_cons, Int.natCast_succ, ← hcount]
      by_cases hreached : settings.failThreshold ≤ state.count + 1
      · exact Or.inl ⟨hreached, _, if_pos hreached⟩
      · refine Or.inr ⟨hreached, ?_⟩
        rw [if_neg hreached, if_pos (by omega)]
        refine ⟨_, _, rfl, rfl, ?_⟩
        rw [List.getLast?_cons, hlast]
        rfl
    · have hover : ∀ first, (window settings.failWindow (sinceLock recorded)).getLast? =
          some first → ¬t - first < settings.failWindow := by
        intro first hfirst
        rw [hlast] at hfirst
        exact Option.some.inj hfirst ▸ hlt
      have hfew : state.count + 1 < settings.failThreshold := hopen.resolve_left hlt
      have hpos : 0 ≤ state.count := hcount ▸ Int.natCast_nonneg _
      rw [window_of_over hover]
      refine Or.inr ⟨by simp; omega, ?_⟩
      rw [if_neg (not_le.mpr hfew), if_neg (by omega)]
      exact ⟨_, _, rfl, rfl, rfl⟩

end LockoutLemmas

/-- What holds while the calls can be counted. -/
structure Tallied (settings : Settings) (p : Phone) : Prop where
  alone : ∀ pid pid' phase phase', p.attempts.get pid = some phase →
    p.attempts.get pid' = some phase' → phase.recording = true → phase'.recording = true →
    pid = pid'
  failed : ∀ t, .failed t ∈ p.attempts.running → t ≤ p.now
  read : ∀ t found, .read t found ∈ p.attempts.running →
    t ≤ p.now ∧ Agrees settings p.recorded t found
  counter : .clearing ∉ p.attempts.running →
    (p.fails () = none → sinceLock p.recorded = []) ∧
      ∀ state expiry, p.fails () = some (state, expiry) → Tally settings p.recorded state
  cleared : .clearing ∈ p.attempts.running → sinceLock p.recorded = []
  sorted : p.recorded.Pairwise fun later earlier => later.now ≥ earlier.now
  locked : ∀ r ∈ p.recorded, r.lock.isSome = true → ∃ lock expiry,
    p.locks () = some (lock, expiry) ∧ r.now + settings.lockTime ≤ lock.lockedUntil ∧
      r.now + settings.lockTime ≤ expiry
  exact : Everywhere (fun r earlier => r.lock.isSome = true ↔ Reached settings r.now earlier)
    p.recorded

namespace LockoutLemmas

theorem mem_running_put (hget : p.attempts.get pid = some phase) {next : Option Phase} {q : Phase}
    (h : q ∈ (p.attempts.put pid next).running) : next = some q ∨
      ∃ pid', pid' ≠ pid ∧ p.attempts.get pid' = some q := by
  obtain ⟨pid', hpid'⟩ := Threads.mem_running.mp h
  by_cases heq : pid' = pid
  · rw [heq, Threads.get_put_self hget] at hpid'
    exact Or.inl hpid'
  · rw [Threads.get_put_of_ne heq] at hpid'
    exact Or.inr ⟨pid', heq, hpid'⟩

theorem mem_put_of_ne (hget : p.attempts.get pid = some phase) {next : Option Phase} {q : Phase}
    (hmem : q ∈ p.attempts.running) (hne : q ≠ phase) :
    q ∈ (p.attempts.put pid next).running := by
  obtain ⟨pid', hget'⟩ := Threads.mem_running.mp hmem
  have hpid : pid' ≠ pid := by
    rintro rfl
    exact hne (Option.some.inj (hget'.symm.trans hget))
  exact Threads.mem_running_of_get ((Threads.get_put_of_ne hpid).trans hget')

theorem alone_put (h : Tallied settings p) (hget : p.attempts.get pid = some phase)
    {next : Option Phase}
    (hnext : ∀ q, next = some q → q.recording = true →
      ∀ pid' q', pid' ≠ pid → p.attempts.get pid' = some q' → q'.recording = false) :
    ∀ pid₁ pid₂ q₁ q₂, (p.attempts.put pid next).get pid₁ = some q₁ →
      (p.attempts.put pid next).get pid₂ = some q₂ → q₁.recording = true →
      q₂.recording = true → pid₁ = pid₂ := by
  intro pid₁ pid₂ q₁ q₂ h₁ h₂ hrec₁ hrec₂
  by_cases heq₁ : pid₁ = pid
  · by_cases heq₂ : pid₂ = pid
    · rw [heq₁, heq₂]
    · subst heq₁
      rw [Threads.get_put_self hget] at h₁
      rw [Threads.get_put_of_ne heq₂] at h₂
      have hfalse := hnext q₁ h₁ hrec₁ pid₂ q₂ heq₂ h₂
      rw [hrec₂] at hfalse
      cases hfalse
  · rw [Threads.get_put_of_ne heq₁] at h₁
    by_cases heq₂ : pid₂ = pid
    · subst heq₂
      rw [Threads.get_put_self hget] at h₂
      have hfalse := hnext q₂ h₂ hrec₂ pid₁ q₁ heq₁ h₁
      rw [hrec₁] at hfalse
      cases hfalse
    · rw [Threads.get_put_of_ne heq₂] at h₂
      exact h.alone pid₁ pid₂ q₁ q₂ h₁ h₂ hrec₁ hrec₂

theorem not_recording (h : Tallied settings p) (hget : p.attempts.get pid = some phase)
    (hphase : phase.recording = true) {pid' : Nat} {q : Phase} (hne : pid' ≠ pid)
    (hget' : p.attempts.get pid' = some q) : q.recording = false := by
  cases hrec : q.recording with
  | false => rfl
  | true => exact absurd (h.alone pid' pid q phase hget' hget hrec hphase) hne

theorem tallied_tick (h : Tallied settings p) {microseconds : Nat} :
    Tallied settings { p with now := p.now + microseconds } where
  alone := h.alone
  failed t hmem := by
    have hle := h.failed t hmem
    show t ≤ p.now + microseconds
    omega
  read t found hmem := by
    obtain ⟨hle, hagrees⟩ := h.read t found hmem
    refine ⟨?_, hagrees⟩
    show t ≤ p.now + microseconds
    omega
  counter := h.counter
  cleared := h.cleared
  sorted := h.sorted
  locked := h.locked
  exact := h.exact

theorem tallied_arrive (h : Tallied settings p) :
    Tallied settings { p with attempts := p.attempts.spawn .verifying } := by
  have hold : ∀ q ∈ (p.attempts.spawn .verifying).running,
      q = .verifying ∨ q ∈ p.attempts.running :=
    Threads.forall_spawn (fun q hq => Or.inr hq) (Or.inl rfl)
  have hrecording : ∀ pid q, (p.attempts.spawn .verifying).get pid = some q →
      q.recording = true → p.attempts.get pid = some q := by
    intro pid q hget hrec
    rcases Threads.get_spawn.mp hget with hget | ⟨-, rfl⟩
    · exact hget
    · cases hrec
  exact
    { alone := fun pid pid' q q' hget hget' hrec hrec' =>
        h.alone pid pid' q q' (hrecording pid q hget hrec) (hrecording pid' q' hget' hrec') hrec hrec'
      failed := fun t hmem => h.failed t ((hold _ hmem).resolve_left Phase.noConfusion)
      read := fun t found hmem => h.read t found ((hold _ hmem).resolve_left Phase.noConfusion)
      counter := fun hnone => h.counter fun hmem => hnone (by
        rw [Threads.running_spawn]
        exact List.mem_append_left _ hmem)
      cleared := fun hmem => h.cleared ((hold _ hmem).resolve_left Phase.noConfusion)
      sorted := h.sorted
      locked := h.locked
      exact := h.exact }

theorem tallied_fail (h : Tallied settings p) (hget : p.attempts.get pid = some .verifying) :
    Tallied settings (p.move pid (some (.failed p.now))) where
  alone := alone_put h hget fun q hq hrec => by
    cases hq
    cases hrec
  failed t hmem := by
    rcases mem_running_put hget hmem with heq | ⟨pid', -, hget'⟩
    · cases heq
      exact le_rfl
    · exact h.failed t (Threads.mem_running_of_get hget')
  read t found hmem := by
    rcases mem_running_put hget hmem with heq | ⟨pid', -, hget'⟩
    · cases heq
    · exact h.read t found (Threads.mem_running_of_get hget')
  counter hnone := h.counter fun hmem => hnone (mem_put_of_ne hget hmem Phase.noConfusion)
  cleared hmem := by
    rcases mem_running_put hget hmem with heq | ⟨pid', -, hget'⟩
    · cases heq
    · exact h.cleared (Threads.mem_running_of_get hget')
  sorted := h.sorted
  locked := h.locked
  exact := h.exact

theorem agrees_of_countable (h : Tallied settings p) (hget : p.attempts.get pid = some (.failed t))
    (hok : countable settings p (.read pid) = true) :
    Agrees settings p.recorded t (p.fails.get p.now ()) := by
  simp only [countable, hget, Bool.and_eq_true, List.all_eq_true, decide_eq_true_eq] at hok
  obtain ⟨⟨halone, hlatest⟩, hfinds⟩ := hok
  have hclear : .clearing ∉ p.attempts.running := fun hmem => by
    have hrec := halone .clearing hmem
    cases hrec
  obtain ⟨-, htally⟩ := h.counter hclear
  refine ⟨hlatest, fun hnone first hfirst hlt => ?_, fun state hstate => ?_⟩
  · simp [finds, hfirst, if_pos hlt, hnone] at hfinds
  · obtain ⟨expiry, hkey, -⟩ := ExpiringStore.get_eq_some_iff.mp hstate
    have hstateTally := htally state expiry hkey
    refine ⟨hstateTally, ?_⟩
    obtain ⟨hcount, hlast⟩ := hstateTally
    by_cases hlt : t - state.firstFailedAt < settings.failWindow
    · exact Or.inl hlt
    · refine Or.inr ?_
      rw [hcount]
      simpa [finds, hlast, if_neg hlt, hstate] using hfinds

theorem tallied_read (h : Tallied settings p) (hget : p.attempts.get pid = some (.failed t))
    (hok : countable settings p (.read pid) = true) :
    Tallied settings (p.move pid (some (.read t (p.fails.get p.now ())))) where
  alone := alone_put h hget fun q hq hrec pid' q' _ hget' => by
    simp only [countable, hget, Bool.and_eq_true, List.all_eq_true] at hok
    simpa using hok.1.1 q' (Threads.mem_running_of_get hget')
  failed t' hmem := by
    rcases mem_running_put hget hmem with heq | ⟨pid', -, hget'⟩
    · cases heq
    · exact h.failed t' (Threads.mem_running_of_get hget')
  read t' found hmem := by
    rcases mem_running_put hget hmem with heq | ⟨pid', -, hget'⟩
    · cases heq
      have hagrees := agrees_of_countable h hget hok
      exact ⟨h.failed t (Threads.mem_running_of_get hget), hagrees⟩
    · exact h.read t' found (Threads.mem_running_of_get hget')
  counter hnone := h.counter fun hmem => hnone (mem_put_of_ne hget hmem Phase.noConfusion)
  cleared hmem := by
    rcases mem_running_put hget hmem with heq | ⟨pid', -, hget'⟩
    · cases heq
    · exact h.cleared (Threads.mem_running_of_get hget')
  sorted := h.sorted
  locked := h.locked
  exact := h.exact

theorem tallied_end (h : Tallied settings p) (hget : p.attempts.get pid = some (.read t found)) :
    Tallied settings (p.move pid none) where
  alone := alone_put h hget nofun
  failed t' hmem := by
    rcases mem_running_put hget hmem with heq | ⟨pid', -, hget'⟩
    · cases heq
    · exact h.failed t' (Threads.mem_running_of_get hget')
  read t' found' hmem := by
    rcases mem_running_put hget hmem with heq | ⟨pid', -, hget'⟩
    · cases heq
    · exact h.read t' found' (Threads.mem_running_of_get hget')
  counter hnone := h.counter fun hmem => hnone (mem_put_of_ne hget hmem Phase.noConfusion)
  cleared hmem := by
    rcases mem_running_put hget hmem with heq | ⟨pid', -, hget'⟩
    · cases heq
    · exact h.cleared (Threads.mem_running_of_get hget')
  sorted := h.sorted
  locked := h.locked
  exact := h.exact

theorem tallied_lock (h : Tallied settings p) (hget : p.attempts.get pid = some (.read t found))
    (hreached : Reached settings t p.recorded) {count expiry : Int}
    (hexpiry : t + settings.lockTime ≤ expiry) :
    Tallied settings (p.lock pid t count ⟨t + settings.lockTime⟩
      (p.locks.set () ⟨t + settings.lockTime⟩ expiry)) := by
  obtain ⟨-, hagrees⟩ := h.read t found (Threads.mem_running_of_get hget)
  have hothers : ∀ pid' q, pid' ≠ pid → p.attempts.get pid' = some q → q.recording = false :=
    fun pid' q hne hget' => not_recording h hget rfl hne hget'
  exact
    { alone := alone_put h hget fun _ _ _ => hothers
      failed := fun t' hmem => by
        rcases mem_running_put hget hmem with heq | ⟨pid', -, hget'⟩
        · cases heq
        · exact h.failed t' (Threads.mem_running_of_get hget')
      read := fun t' found' hmem => by
        rcases mem_running_put hget hmem with heq | ⟨pid', hne, hget'⟩
        · cases heq
        · have hfalse := hothers pid' _ hne hget'
          cases hfalse
      counter := fun hnone => absurd
        (Threads.mem_running_of_get (Threads.get_put_self hget)) hnone
      cleared := fun _ => sinceLock_of_some rfl
      sorted := List.pairwise_cons.mpr ⟨hagrees.latest, h.sorted⟩
      locked := fun r hr _ => by
        have hkey : p.locks.set () ⟨t + settings.lockTime⟩ expiry () =
            some (⟨t + settings.lockTime⟩, expiry) := Function.update_self _ _ _
        refine ⟨_, _, hkey, ?_⟩
        have hle : r.now ≤ t := by
          rcases List.mem_cons.mp hr with rfl | hr
          · exact le_rfl
          · exact hagrees.latest r hr
        exact ⟨Int.add_le_add_right hle _, (Int.add_le_add_right hle _).trans hexpiry⟩
      exact := ⟨iff_of_true rfl hreached, h.exact⟩ }

theorem tallied_count (h : Tallied settings p) (hget : p.attempts.get pid = some (.read t found))
    (hreached : ¬Reached settings t p.recorded) {state : FailState} {expiry : Int}
    (hcount : state.count = (window settings.failWindow (t :: sinceLock p.recorded)).length)
    (hlast : (window settings.failWindow (t :: sinceLock p.recorded)).getLast? =
      some state.firstFailedAt) :
    Tallied settings (p.count pid t state.count (p.fails.set () state expiry)) := by
  obtain ⟨-, hagrees⟩ := h.read t found (Threads.mem_running_of_get hget)
  have hothers : ∀ pid' q, pid' ≠ pid → p.attempts.get pid' = some q → q.recording = false :=
    fun pid' q hne hget' => not_recording h hget rfl hne hget'
  have hsince : sinceLock (⟨t, state.count, none⟩ :: p.recorded) = t :: sinceLock p.recorded :=
    sinceLock_of_none rfl
  exact
    { alone := alone_put h hget nofun
      failed := fun t' hmem => by
        rcases mem_running_put hget hmem with heq | ⟨pid', -, hget'⟩
        · cases heq
        · exact h.failed t' (Threads.mem_running_of_get hget')
      read := fun t' found' hmem => by
        rcases mem_running_put hget hmem with heq | ⟨pid', hne, hget'⟩
        · cases heq
        · have hfalse := hothers pid' _ hne hget'
          cases hfalse
      counter := fun _ => by
        have hkey : p.fails.set () state expiry () = some (state, expiry) :=
          Function.update_self _ _ _
        refine ⟨fun hnone => ?_, fun state' expiry' hstate => ?_⟩
        · cases hkey.symm.trans hnone
        · cases hkey.symm.trans hstate
          show Tally settings (⟨t, state.count, none⟩ :: p.recorded) state
          unfold Tally
          rw [hsince]
          exact ⟨hcount, hlast⟩
      cleared := fun hmem => by
        rcases mem_running_put hget hmem with heq | ⟨pid', hne, hget'⟩
        · cases heq
        · have hfalse := hothers pid' _ hne hget'
          cases hfalse
      sorted := List.pairwise_cons.mpr ⟨hagrees.latest, h.sorted⟩
      locked := fun r hr hlock => by
        rcases List.mem_cons.mp hr with rfl | hr
        · cases hlock
        · exact h.locked r hr hlock
      exact := ⟨iff_of_false Bool.false_ne_true hreached, h.exact⟩ }

theorem setEx_eq_some {ν : Type} {store store' : ExpiringStore Unit ν Int} {value : ν}
    {seconds : Int} (h : setEx store now value seconds = some store') :
    store' = store.set () value (now + seconds * second) := by
  unfold setEx at h
  split at h
  · exact (Option.some.inj h).symm
  · cases h

theorem tallied_write (h : Tallied settings p)
    (hget : p.attempts.get pid = some (.read t found)) :
    Tallied settings (p.write settings pid t found) := by
  obtain ⟨hpast, hagrees⟩ := h.read t found (Threads.mem_running_of_get hget)
  unfold Phone.write
  rcases decision_of_agrees hagrees with
    ⟨hreached, count, hdecision⟩ | ⟨hreached, state, seconds, hdecision, hcount, hlast⟩
  · rw [hdecision]
    dsimp only
    split
    · next locks hset =>
      rw [setEx_eq_some hset]
      exact tallied_lock h hget hreached (Int.add_le_add_right hpast _)
    · exact tallied_end h hget
  · rw [hdecision]
    dsimp only
    split
    · next fails hset =>
      rw [setEx_eq_some hset]
      exact tallied_count h hget hreached hcount hlast
    · exact tallied_end h hget

theorem tallied_delete (h : Tallied settings p) (hget : p.attempts.get pid = some .clearing) :
    Tallied settings { p.move pid none with fails := p.fails.del () } where
  alone := alone_put h hget nofun
  failed t' hmem := by
    rcases mem_running_put hget hmem with heq | ⟨pid', -, hget'⟩
    · cases heq
    · exact h.failed t' (Threads.mem_running_of_get hget')
  read t' found' hmem := by
    rcases mem_running_put hget hmem with heq | ⟨pid', -, hget'⟩
    · cases heq
    · exact h.read t' found' (Threads.mem_running_of_get hget')
  counter _ := by
    have hkey : p.fails.del () () = none := Function.update_self _ _ _
    refine ⟨fun _ => h.cleared (Threads.mem_running_of_get hget), fun state expiry hstate => ?_⟩
    cases hkey.symm.trans hstate
  cleared _ := h.cleared (Threads.mem_running_of_get hget)
  sorted := h.sorted
  locked := h.locked
  exact := h.exact

theorem tallied_step (h : Tallied settings p) (hok : countable settings p action = true)
    (hstep : p.step settings action = some p') : Tallied settings p' := by
  cases action with
  | tick microseconds =>
    cases hstep
    exact tallied_tick h
  | arrive =>
    simp only [Phone.step] at hstep
    split at hstep
    · cases hstep
      exact h
    · cases hstep
      exact tallied_arrive h
  | fail pid =>
    simp only [Phone.step] at hstep
    split at hstep
    · next hget =>
      cases hstep
      exact tallied_fail h hget
    · cases hstep
  | read pid =>
    simp only [Phone.step] at hstep
    split at hstep
    · next now hget =>
      cases hstep
      exact tallied_read h hget hok
    · cases hstep
  | write pid =>
    simp only [Phone.step] at hstep
    split at hstep
    · next now found hget =>
      cases hstep
      exact tallied_write h hget
    · cases hstep
  | delete pid =>
    simp only [Phone.step] at hstep
    split at hstep
    · next hget =>
      cases hstep
      exact tallied_delete h hget
    · cases hstep

end LockoutLemmas

theorem tallied_of_reaches {start : Int}
    (h : Reaches (Phone.step settings) (countable settings · ·) (.init start) p) :
    Tallied settings p := by
  refine h.invariant ?_ fun _ _ _ htallied hok hstep => tallied_step htallied hok hstep
  exact
    { alone := nofun
      failed := nofun
      read := nofun
      counter := fun _ => ⟨fun _ => rfl, nofun⟩
      cleared := fun _ => rfl
      sorted := .nil
      locked := nofun
      exact := trivial }

/-! ## The lock -/

namespace LockoutLemmas

theorem inForce_of_locked (h : Tallied settings p) {r : Recorded} (hr : r ∈ p.recorded)
    (hlock : r.lock.isSome = true) (hnow : p.now < r.now + settings.lockTime) :
    p.inForce = true := by
  obtain ⟨lock, expiry, hkey, huntil, hexpiry⟩ := h.locked r hr hlock
  have hget : p.locks.get p.now () = some lock :=
    ExpiringStore.get_eq_some_iff.mpr ⟨expiry, hkey, hnow.trans_le hexpiry⟩
  unfold Phone.inForce
  rw [hget]
  exact decide_eq_true (hnow.trans_le huntil)

theorem counted_of_tallied (h : Tallied settings p) {reached : Int → List Recorded → Prop}
    (hreached : Everywhere (fun r earlier => reached r.now earlier → Reached settings r.now earlier)
      p.recorded) : Counted settings reached p := by
  refine everywhere_iff.mpr fun later r earlier heq hr => ?_
  have hlock : r.lock.isSome = true :=
    (everywhere_iff.mp h.exact later r earlier heq).mpr
      (everywhere_iff.mp hreached later r earlier heq hr)
  have hmem : r ∈ p.recorded := by
    rw [heq]
    exact List.mem_append_right later List.mem_cons_self
  exact ⟨hlock, inForce_of_locked h hmem hlock⟩

theorem within_of_reached {earlier : List Recorded} (hlatest : ∀ r ∈ earlier, r.now ≤ t)
    (hsorted : earlier.Pairwise fun r r' => r.now ≥ r'.now) (h : Reached settings t earlier) :
    Within settings t earlier := by
  have hordered : ∀ s ∈ sinceLock earlier, s ≤ t := by
    intro s hs
    obtain ⟨r, hr, rfl⟩ := mem_of_mem_sinceLock hs
    exact hlatest r hr
  have hpairs : (sinceLock earlier).Pairwise (· ≥ ·) :=
    List.pairwise_map.mpr (hsorted.sublist (List.takeWhile_sublist _))
  have hlength := @length_window_le _ settings.failWindow _ hordered hpairs
  unfold Reached at h
  unfold Within
  omega

theorem justified_of_tallied (h : Tallied settings p) : Justified settings p := by
  refine everywhere_iff.mpr fun later r earlier heq hlock => ?_
  have hsorted := h.sorted
  rw [heq] at hsorted
  obtain ⟨hlatest, hearlier⟩ := List.pairwise_cons.mp (List.pairwise_append.mp hsorted).2.1
  exact within_of_reached hlatest hearlier
    ((everywhere_iff.mp h.exact later r earlier heq).mp hlock)

theorem recorded_step (hstep : p.step settings action = some p') :
    p'.recorded = p.recorded ∨ ∃ pid t found count lock, action = .write pid ∧
      p.attempts.get pid = some (.read t found) ∧ p'.recorded = ⟨t, count, lock⟩ :: p.recorded := by
  cases action with
  | tick microseconds =>
    cases hstep
    exact Or.inl rfl
  | arrive =>
    simp only [Phone.step] at hstep
    split at hstep
    · cases hstep
      exact Or.inl rfl
    · cases hstep
      exact Or.inl rfl
  | fail pid =>
    simp only [Phone.step] at hstep
    split at hstep
    · cases hstep
      exact Or.inl rfl
    · cases hstep
  | read pid =>
    simp only [Phone.step] at hstep
    split at hstep
    · cases hstep
      exact Or.inl rfl
    · cases hstep
  | write pid =>
    simp only [Phone.step] at hstep
    split at hstep
    · next t found hget =>
      cases hstep
      unfold Phone.write
      split
      · split
        · exact Or.inr ⟨pid, t, found, _, _, rfl, hget, rfl⟩
        · exact Or.inl rfl
      · split
        · exact Or.inr ⟨pid, t, found, _, _, rfl, hget, rfl⟩
        · exact Or.inl rfl
    · cases hstep
  | delete pid =>
    simp only [Phone.step] at hstep
    split at hstep
    · cases hstep
      exact Or.inl rfl
    · cases hstep

theorem unsplit_of_reaches {start : Int}
    (h : Reaches (Phone.step settings)
      (fun p action => countable settings p action && unsplit settings p action) (.init start) p) :
    Everywhere (fun r earlier => Within settings r.now earlier → Reached settings r.now earlier)
      p.recorded := by
  induction h with
  | refl => exact trivial
  | tail _ hok hstep ih =>
    have hunsplit := (Bool.and_eq_true_iff.mp hok).2
    rcases recorded_step hstep with heq | ⟨pid, t, found, count, lock, rfl, hget, heq⟩
    · rwa [heq]
    · simp only [unsplit, hget, decide_eq_true_eq] at hunsplit
      rw [heq]
      exact ⟨hunsplit, ih⟩

end LockoutLemmas

/-- While every call can be counted, a lock is created with each failure that reaches the
threshold within the window that the first of them opened, and with no other; and with each
failure that reaches it within any fail window, if these failures never belong to two windows. -/
theorem lockout_of_reaches (settings : Settings) (start : Int) :
    (∀ p, Reaches (Phone.step settings) (countable settings · ·) (.init start) p →
      Counted settings (Reached settings) p ∧ Justified settings p) ∧
    ∀ p, Reaches (Phone.step settings)
      (fun p action => countable settings p action && unsplit settings p action) (.init start) p →
      Counted settings (Within settings) p := by
  refine ⟨fun p h => ?_, fun p h => ?_⟩
  · have htallied := tallied_of_reaches h
    exact ⟨counted_of_tallied htallied (everywhere_iff.mpr fun _ _ _ _ hreached => hreached),
      justified_of_tallied htallied⟩
  · have htallied : Tallied settings p :=
      tallied_of_reaches (h.mono fun _ _ hok => (Bool.and_eq_true_iff.mp hok).1)
    exact counted_of_tallied htallied (unsplit_of_reaches h)

/-! ## Runs of the settings of the deployment -/

/-- The defaults of `config.py`. -/
def exSettings : Settings := ⟨5, 5, 15⟩

def exCall (pid after : Nat) : List Action := [.tick after, .arrive, .fail pid, .read pid, .write pid]

def exSerial : List Action :=
  (List.range 5).flatMap (exCall · 60000000) ++ [Action.delete 4, .tick 299999999]

def exOverlap : List Action :=
  List.replicate 5 Action.arrive ++ (List.range 5).map Action.fail ++
    (List.range 5).map Action.read ++ (List.range 5).map Action.write

/-- The counter expires half a second early, and the fifth failure comes before its window ends. -/
def exEarly : List Action :=
  exCall 0 0 ++ exCall 1 500000 ++ exCall 2 0 ++ exCall 3 0 ++ exCall 4 899200000

def exLate : List Action :=
  exCall 0 0 ++ exCall 1 1000000 ++ exCall 2 1000000 ++ exCall 3 897500000 ++ exCall 4 700000

/-- Five failures one after another lock the phone. -/
theorem exSerial_locked : ∃ p, Reaches (Phone.step exSettings)
    (fun p action => countable exSettings p action && unsplit exSettings p action) (.init 0) p ∧
    p.recorded.length = 5 ∧ p.inForce = true ∧ Counted exSettings (Within exSettings) p ∧
    Counted exSettings (Reached exSettings) p ∧ Justified exSettings p := by
  have hexec : (execWhere (Phone.step exSettings)
      (fun p action => countable exSettings p action && unsplit exSettings p action) (.init 0)
      exSerial).any (fun p => p.recorded.length = 5 ∧ p.inForce = true) = true := by
    decide +kernel
  obtain ⟨p, hreach, hp⟩ := exists_of_execWhere hexec
  obtain ⟨hlength, hforce⟩ := of_decide_eq_true hp
  have hmono : Reaches (Phone.step exSettings) (countable exSettings · ·) (.init 0) p :=
    hreach.mono fun _ _ hok => (Bool.and_eq_true_iff.mp hok).1
  exact ⟨p, hreach, hlength, hforce, (lockout_of_reaches exSettings 0).2 p hreach,
    (lockout_of_reaches exSettings 0).1 p hmono⟩

/-- Five failures at once are counted as one; a fifth failure finds the counter gone before its
window ends; and another finds it after its window. -/
theorem failures_go_uncounted :
    (∃ p, Reaches (Phone.step exSettings) Always (.init 0) p ∧
      p.recorded.map (·.now) = [0, 0, 0, 0, 0] ∧ ¬Counted exSettings (Reached exSettings) p) ∧
    (∃ p, Reaches (Phone.step exSettings) Always (.init 0) p ∧
      p.recorded.map (·.now) = [899700000, 500000, 500000, 500000, 0] ∧
      ¬Counted exSettings (Reached exSettings) p) ∧
    ∃ p, Reaches (Phone.step exSettings) Always (.init 0) p ∧
      p.recorded.map (·.now) = [900200000, 899500000, 2000000, 1000000, 0] ∧
      ¬Justified exSettings p := by
  have hoverlap : (execWhere (Phone.step exSettings) (fun _ _ => true) (.init 0) exOverlap).any
      (fun p => p.recorded.map (·.now) = [0, 0, 0, 0, 0] ∧
        ¬Counted exSettings (Reached exSettings) p) = true := by
    decide +kernel
  have hearly : (execWhere (Phone.step exSettings) (fun _ _ => true) (.init 0) exEarly).any
      (fun p => p.recorded.map (·.now) = [899700000, 500000, 500000, 500000, 0] ∧
        ¬Counted exSettings (Reached exSettings) p) = true := by
    decide +kernel
  have hlate : (execWhere (Phone.step exSettings) (fun _ _ => true) (.init 0) exLate).any
      (fun p => p.recorded.map (·.now) = [900200000, 899500000, 2000000, 1000000, 0] ∧
        ¬Justified exSettings p) = true := by
    decide +kernel
  obtain ⟨p, hreach, hp⟩ := exists_of_execWhere hoverlap
  obtain ⟨q, hreach', hq⟩ := exists_of_execWhere hearly
  obtain ⟨r, hreach'', hr⟩ := exists_of_execWhere hlate
  exact ⟨⟨p, hreach.mono fun _ _ _ => trivial, of_decide_eq_true hp⟩,
    ⟨q, hreach'.mono fun _ _ _ => trivial, of_decide_eq_true hq⟩,
    r, hreach''.mono fun _ _ _ => trivial, of_decide_eq_true hr⟩

end Trackpal.Accounts.Lockout
