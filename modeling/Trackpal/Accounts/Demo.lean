import Mathlib.Logic.Function.Basic
import Trackpal.Foundation.Runs

/-!
# Demo tenants

One demo tenant, under logins, refreshes, requests and replacements of its credentials, at
`READ COMMITTED`. A statement sees what has been committed when it starts, an update waits for the
transaction that has changed the row, and a row that a session has read is not read again. An
instant is in microseconds.
-/

namespace Trackpal.Accounts.Demo

open Trackpal.Foundation

/-! ## Rows -/

def demoDuration : Int := 48 * 3600000000

/-- `demo_activated_at` and `demo_expires_at`, which are both there or both missing. -/
structure Window where
  activatedAt : Int
  expiresAt : Int
deriving DecidableEq, Repr

/-- What a session reads of the tenant, with `demo_credentials_version`. -/
structure Copy where
  window : Option Window
  version : Nat
deriving DecidableEq, Repr

/-- The tenant and its user; a password stands for its hash. -/
structure Row extends Copy where
  password : Nat
deriving DecidableEq, Repr

inductive DemoStatus where
  | pending
  | active
  | expired
deriving DecidableEq, Repr

def Copy.getDemoStatus (copy : Copy) (now : Int) : DemoStatus :=
  match copy.window with
  | none => .pending
  | some w => if w.expiresAt ≤ now then .expired else .active

/-- The access token and the refresh token of a session, with the password that the login was
given. -/
structure Token where
  password : Nat
  version : Nat
  session : Nat
deriving DecidableEq, Repr

/-! ## Operations -/

/-- What an operation is about to do. -/
inductive Op where
  | idle
  /-- `authenticate`, which reads the user. -/
  | login (attempt : Nat)
  /-- It reads the tenant, and compares the password. -/
  | user (attempt hash : Nat)
  /-- `refresh_access_token`, which reads the user and the tenant. -/
  | refresh (token : Token)
  /-- It looks for the session. -/
  | session (token : Token) (copy : Copy)
  /-- `create_tokens`, which activates the evaluation; a refresh revokes a session. -/
  | checked (password : Nat) (copy : Copy) (spent : Option Nat)
  /-- It commits, with the evaluation that it has written. -/
  | activated (password : Nat) (copy : Copy) (write : Option Window) (spent : Option Nat)
  /-- A request, which reads the user. -/
  | request (token : Token)
  | requestUser (token : Token)
  | requestProfile (token : Token) (copy : Option Copy)
  /-- `replace_demo_credentials`, which reads the tenant. -/
  | replace
  | replacing (version : Nat)
  | replaced (version password : Nat) (revoked : List Nat)
deriving DecidableEq, Repr

structure Served where
  token : Token
  time : Int
  password : Option Nat
deriving DecidableEq, Repr

/-- What is committed, the lock of the rows, the operations, and what has happened: the tokens with
their times, the requests, the evaluations and the passwords that were committed, the last one
first, and what was drawn. -/
structure State where
  now : Int
  row : Option Row
  lock : Option Nat
  valid : List Nat
  ops : Nat → Op
  issued : List (Token × Int)
  served : List Served
  writes : List Window
  passwords : List Nat
  drawn : List Nat

namespace State

variable (s : State) (i : Nat)

/-- The operation goes on. -/
def goTo (op : Op) : State := { s with ops := Function.update s.ops i op }

/-- The operation ends, and fails if it has nothing done. -/
def stop : State := s.goTo i .idle

def deleteExpiredDemo : Option State :=
  if s.lock = none then some { s.stop i with row := none, valid := [] } else none

/-- The check of `ensure_demo_request`. -/
def ensureDemoRequest (copy : Copy) (next : Option State) : Option State :=
  if copy.getDemoStatus s.now = .expired then s.deleteExpiredDemo i else next

/-- `activate_demo_for_login`: the update of a pending evaluation waits for the lock, and without
a row to update the tenant is read again. -/
def activateDemoForLogin (password : Nat) (copy : Copy) (spent : Option Nat) : Option State :=
  match copy.getDemoStatus s.now with
  | .expired => s.deleteExpiredDemo i
  | .active => some (s.goTo i (.activated password copy none spent))
  | .pending =>
    if s.lock ≠ none then none
    else match s.row with
      | none => some (s.stop i)
      | some row =>
        if row.window = none then
          let w : Window := ⟨s.now, s.now + demoDuration⟩
          some { s.goTo i (.activated password { copy with window := some w } (some w) spent) with
            lock := some i }
        else some (s.goTo i (.activated password row.toCopy none spent))

/-- The commit of `create_tokens`: the session needs its user. -/
def createTokens (draw password : Nat) (copy : Copy) (write : Option Window) (spent : Option Nat) :
    Option State :=
  match s.row with
  | none => some (s.stop i)
  | some row =>
    if draw ∈ s.drawn then none
    else some { s.stop i with
      row := some { row with window := write <|> row.window }
      lock := if write = none then s.lock else none
      valid := draw :: s.valid.filter (some · ≠ spent)
      issued := (⟨password, copy.version, draw⟩, s.now) :: s.issued
      writes := write.toList ++ s.writes
      drawn := draw :: s.drawn }

/-- A request is served. -/
def serve (token : Token) : State :=
  { s.stop i with served := ⟨token, s.now, s.row.map (·.password)⟩ :: s.served }

/-- The commit of `replace_demo_credentials`. -/
def replaceCredentials (version password : Nat) (revoked : List Nat) : State :=
  { s.stop i with
    row := s.row.map fun row => { row with version := version + 1, password := password }
    lock := none
    valid := s.valid.filter (· ∉ revoked)
    passwords := password :: s.passwords }

end State

/-- The next statement of an operation; `draw` is the password or the session that it makes. -/
def runOp (s : State) (i draw : Nat) : Op → Option State
  | .idle => none
  | .login attempt =>
    match s.row with
    | none => some (s.stop i)
    | some row => some (s.goTo i (.user attempt row.password))
  | .user attempt hash =>
    match s.row with
    | none => some (s.stop i)
    | some row => s.ensureDemoRequest i row.toCopy
        (some (s.goTo i (if attempt = hash then .checked hash row.toCopy none else .idle)))
  | .refresh token =>
    match s.row with
    | none => some (s.stop i)
    | some row => s.ensureDemoRequest i row.toCopy
        (some (s.goTo i (if token.version = row.version then .session token row.toCopy else .idle)))
  | .session token copy =>
    some (s.goTo i
      (if token.session ∈ s.valid then .checked token.password copy (some token.session)
        else .idle))
  | .checked password copy spent => s.activateDemoForLogin i password copy spent
  | .activated password copy write spent => s.createTokens i draw password copy write spent
  | .request token =>
    some (s.goTo i (if s.row = none then .idle else .requestUser token))
  | .requestUser token =>
    some (s.goTo i (.requestProfile token (s.row.map (·.toCopy))))
  | .requestProfile token none => some (s.serve i token)
  | .requestProfile token (some copy) => s.ensureDemoRequest i copy
      (some (if token.version = copy.version then s.serve i token else s.stop i))
  | .replace =>
    match s.row with
    | none => some (s.stop i)
    | some row =>
      some (s.goTo i (if row.getDemoStatus s.now = .expired then .idle else .replacing row.version))
  | .replacing version =>
    if s.lock ≠ none ∨ draw ∈ s.drawn then none
    else match s.row with
      | none => some (s.stop i)
      | some _ => some { s.goTo i (.replaced version draw s.valid) with
          lock := some i
          drawn := draw :: s.drawn }
  | .replaced version password revoked => some (s.replaceCredentials i version password revoked)

def Op.begins (s : State) : Op → Bool
  | .login _ | .replace => true
  | .refresh token | .request token => token ∈ s.issued.map (·.1)
  | _ => false

inductive Action where
  | tick (now : Int)
  | begin (i : Nat) (op : Op)
  | run (i draw : Nat)

def step (s : State) : Action → Option State
  | .tick now => if s.now ≤ now then some { s with now := now } else none
  | .begin i op => if s.ops i = .idle ∧ op.begins s = true then some (s.goTo i op) else none
  | .run i draw => runOp s i draw (s.ops i)

/-- A demo tenant that was just created. -/
def initial (now : Int) (password : Nat) : State where
  now := now
  row := some ⟨⟨none, 1⟩, password⟩
  lock := none
  valid := []
  ops _ := .idle
  issued := []
  served := []
  writes := []
  passwords := [password]
  drawn := [password]

structure EvaluationKept (s : State) : Prop where
  once : s.writes.length ≤ 1
  hours : ∀ w ∈ s.writes, w.expiresAt = w.activatedAt + demoDuration
  row : ∀ row ∈ s.row, row.window = s.writes.head?

/-- What is to hold of the tokens and the requests. -/
structure CredentialsKept (s : State) : Prop where
  /-- No token is issued behind the end of the evaluation. -/
  issued : ∀ e ∈ s.issued, ∀ w ∈ s.writes, e.2 < w.expiresAt
  /-- No request is served behind it, and none with a token of an earlier password. -/
  served : ∀ e ∈ s.served, (∀ w ∈ s.writes, e.time < w.expiresAt) ∧
    e.password = some e.token.password
  /-- The tokens that pass are of the current password. -/
  replaced : ∀ e ∈ s.issued, ∀ row ∈ s.row, e.1.version = row.version → e.1.password = row.password

/-- What an operation checks next. -/
def Op.reads (s : State) : Op → Option Copy
  | .user _ _ | .refresh _ => s.row.map (·.toCopy)
  | .checked _ copy _ => some copy
  | .requestProfile _ copy => copy
  | _ => none

/-- The time that an operation must not reach before its next step. -/
def Op.deadline (s : State) : Op → Option Window
  | .activated _ copy _ _ => copy.window
  | .checked _ copy _ => if copy.window = none then s.row.bind (·.window) else none
  | _ => none

/-- What has to be kept apart: the end of the evaluation from the commit of a login that has found
it running, a replacement from the reads of a login, from another replacement and from the check of
a request, and the deletion from the reads of a request. -/
def Orderly (s : State) : Action → Prop
  | .tick now => ∀ i, ∀ w ∈ (s.ops i).deadline s, now < w.expiresAt
  | .begin .. => True
  | .run i _ =>
    (∀ copy ∈ (s.ops i).reads s, copy.getDemoStatus s.now = .expired →
      ∀ j token, s.ops j ≠ .requestUser token) ∧
    match s.ops i with
    | .user attempt hash => attempt = hash → ∀ row ∈ s.row, row.password = hash
    | .checked password copy _ =>
      copy.window = none → ∀ row ∈ s.row, row.window ≠ none → row.password = password
    | .replaced version _ _ => (∀ row ∈ s.row, row.version = version) ∧
      ∀ j token copy, s.ops j ≠ .requestProfile token copy
    | _ => True

namespace DemoLemmas

/-- The steps that only go on. -/
inductive Next (s : State) : Op → Op → Prop where
  | idle {op : Op} : Next s op .idle
  | user {attempt : Nat} {row : Row} (h : s.row = some row) :
      Next s (.login attempt) (.user attempt row.password)
  | checked {hash : Nat} {row : Row} (h : s.row = some row)
      (hstatus : row.getDemoStatus s.now ≠ .expired) :
      Next s (.user hash hash) (.checked hash row.toCopy none)
  | session {token : Token} {row : Row} (h : s.row = some row)
      (hstatus : row.getDemoStatus s.now ≠ .expired) (hversion : token.version = row.version) :
      Next s (.refresh token) (.session token row.toCopy)
  | spend {token : Token} {copy : Copy} (h : token.session ∈ s.valid) :
      Next s (.session token copy) (.checked token.password copy (some token.session))
  | active {password : Nat} {copy : Copy} {spent : Option Nat}
      (hstatus : copy.getDemoStatus s.now = .active) :
      Next s (.checked password copy spent) (.activated password copy none spent)
  | again {password : Nat} {copy : Copy} {spent : Option Nat} {row : Row}
      (hstatus : copy.getDemoStatus s.now = .pending) (h : s.row = some row)
      (hwindow : row.window ≠ none) :
      Next s (.checked password copy spent) (.activated password row.toCopy none spent)
  | requestUser {token : Token} (h : s.row ≠ none) : Next s (.request token) (.requestUser token)
  | profile {token : Token} :
      Next s (.requestUser token) (.requestProfile token (s.row.map (·.toCopy)))
  | replacing {row : Row} (h : s.row = some row) : Next s .replace (.replacing row.version)

/-- What the next statement of an operation makes of the state. -/
inductive Ran (s : State) (i : Nat) : Op → State → Prop where
  | goes {op op' : Op} (h : Next s op op') : Ran s i op (s.goTo i op')
  | deletes {op : Op} {copy : Copy} (hreads : op.reads s = some copy)
      (hstatus : copy.getDemoStatus s.now = .expired) (hlock : s.lock = none) :
      Ran s i op { s.stop i with row := none, valid := [] }
  | writes {password : Nat} {copy : Copy} {spent : Option Nat} {row : Row}
      (hstatus : copy.getDemoStatus s.now = .pending) (hlock : s.lock = none)
      (h : s.row = some row) (hwindow : row.window = none) :
      Ran s i (.checked password copy spent)
        { s.goTo i (.activated password { copy with window := some ⟨s.now, s.now + demoDuration⟩ }
            (some ⟨s.now, s.now + demoDuration⟩) spent) with lock := some i }
  | creates {password draw : Nat} {copy : Copy} {write : Option Window} {spent : Option Nat}
      {row : Row} (h : s.row = some row) (hdraw : draw ∉ s.drawn) :
      Ran s i (.activated password copy write spent)
        { s.stop i with
          row := some { row with window := write <|> row.window }
          lock := if write = none then s.lock else none
          valid := draw :: s.valid.filter (some · ≠ spent)
          issued := (⟨password, copy.version, draw⟩, s.now) :: s.issued
          writes := write.toList ++ s.writes
          drawn := draw :: s.drawn }
  | serves {token : Token} {read : Option Copy}
      (h : ∀ copy ∈ read, copy.getDemoStatus s.now ≠ .expired ∧ token.version = copy.version) :
      Ran s i (.requestProfile token read) (s.serve i token)
  | flushes {version draw : Nat} {row : Row} (hlock : s.lock = none) (h : s.row = some row)
      (hdraw : draw ∉ s.drawn) :
      Ran s i (.replacing version) { s.goTo i (.replaced version draw s.valid) with
        lock := some i
        drawn := draw :: s.drawn }
  | replaces {version password : Nat} {revoked : List Nat} :
      Ran s i (.replaced version password revoked) (s.replaceCredentials i version password revoked)

variable {s s' : State} {a : Action} {i j draw : Nat} {op op' : Op} {copy : Copy} {w : Window}
  {row : Row} {token : Token} {now : Int} {password version : Nat} {spent : Option Nat}

theorem ran_ensure {next : Option State} (hreads : op.reads s = some copy)
    (h : s.ensureDemoRequest i copy next = some s')
    (hnext : copy.getDemoStatus s.now ≠ .expired → next = some s' → Ran s i op s') :
    Ran s i op s' := by
  unfold State.ensureDemoRequest at h
  split at h
  · next hstatus =>
    unfold State.deleteExpiredDemo at h
    split at h
    · next hlock =>
      rw [← Option.some.inj h]
      exact .deletes hreads hstatus hlock
    · cases h
  · next hstatus => exact hnext hstatus h

theorem ran_of_runOp (h : runOp s i draw op = some s') : Ran s i op s' := by
  cases op with
  | idle => cases h
  | login attempt =>
    unfold runOp at h
    cases hrow : s.row with
    | none =>
      rw [hrow] at h
      rw [← Option.some.inj h]
      exact .goes .idle
    | some row =>
      rw [hrow] at h
      rw [← Option.some.inj h]
      exact .goes (.user hrow)
  | user attempt hash =>
    unfold runOp at h
    cases hrow : s.row with
    | none =>
      rw [hrow] at h
      rw [← Option.some.inj h]
      exact .goes .idle
    | some row =>
      rw [hrow] at h
      refine ran_ensure (by simp [Op.reads, hrow]) h fun hstatus hnext => ?_
      rw [← Option.some.inj hnext]
      by_cases heq : attempt = hash
      · rw [if_pos heq, heq]
        exact .goes (.checked hrow hstatus)
      · rw [if_neg heq]
        exact .goes .idle
  | refresh token =>
    unfold runOp at h
    cases hrow : s.row with
    | none =>
      rw [hrow] at h
      rw [← Option.some.inj h]
      exact .goes .idle
    | some row =>
      rw [hrow] at h
      refine ran_ensure (by simp [Op.reads, hrow]) h fun hstatus hnext => ?_
      rw [← Option.some.inj hnext]
      by_cases heq : token.version = row.version
      · rw [if_pos heq]
        exact .goes (.session hrow hstatus heq)
      · rw [if_neg heq]
        exact .goes .idle
  | session token copy =>
    unfold runOp at h
    rw [← Option.some.inj h]
    by_cases hvalid : token.session ∈ s.valid
    · rw [if_pos hvalid]
      exact .goes (.spend hvalid)
    · rw [if_neg hvalid]
      exact .goes .idle
  | checked password copy spent =>
    unfold runOp at h
    dsimp only at h
    unfold State.activateDemoForLogin at h
    cases hstatus : copy.getDemoStatus s.now with
    | expired =>
      rw [hstatus] at h
      have hensure : s.ensureDemoRequest i copy none = some s' := by
        unfold State.ensureDemoRequest
        rwa [if_pos hstatus]
      exact ran_ensure rfl hensure fun hne _ => absurd hstatus hne
    | active =>
      rw [hstatus] at h
      rw [← Option.some.inj h]
      exact .goes (.active hstatus)
    | pending =>
      rw [hstatus] at h
      dsimp only at h
      split at h
      · cases h
      next hlock =>
      cases hrow : s.row with
      | none =>
        rw [hrow] at h
        rw [← Option.some.inj h]
        exact .goes .idle
      | some row =>
        rw [hrow] at h
        dsimp only at h
        split at h
        · next hwindow =>
          rw [← Option.some.inj h]
          exact .writes hstatus (not_not.mp hlock) hrow hwindow
        · next hwindow =>
          rw [← Option.some.inj h]
          exact .goes (.again hstatus hrow hwindow)
  | activated password copy write spent =>
    unfold runOp at h
    dsimp only at h
    unfold State.createTokens at h
    cases hrow : s.row with
    | none =>
      rw [hrow] at h
      rw [← Option.some.inj h]
      exact .goes .idle
    | some row =>
      rw [hrow] at h
      dsimp only at h
      split at h
      · cases h
      · next hdraw =>
        rw [← Option.some.inj h]
        exact .creates hrow hdraw
  | request token =>
    unfold runOp at h
    rw [← Option.some.inj h]
    by_cases hrow : s.row = none
    · rw [if_pos hrow]
      exact .goes .idle
    · rw [if_neg hrow]
      exact .goes (.requestUser hrow)
  | requestUser token =>
    unfold runOp at h
    rw [← Option.some.inj h]
    exact .goes .profile
  | requestProfile token read =>
    cases read with
    | none =>
      unfold runOp at h
      rw [← Option.some.inj h]
      exact .serves fun copy hcopy => nomatch hcopy
    | some copy =>
      unfold runOp at h
      refine ran_ensure rfl h fun hstatus hnext => ?_
      rw [← Option.some.inj hnext]
      by_cases heq : token.version = copy.version
      · rw [if_pos heq]
        refine .serves ?_
        rintro _ ⟨⟩
        exact ⟨hstatus, heq⟩
      · rw [if_neg heq]
        exact .goes .idle
  | replace =>
    unfold runOp at h
    cases hrow : s.row with
    | none =>
      rw [hrow] at h
      rw [← Option.some.inj h]
      exact .goes .idle
    | some row =>
      rw [hrow] at h
      rw [← Option.some.inj h]
      by_cases hstatus : row.getDemoStatus s.now = .expired
      · rw [if_pos hstatus]
        exact .goes .idle
      · rw [if_neg hstatus]
        exact .goes (.replacing hrow)
  | replacing version =>
    unfold runOp at h
    dsimp only at h
    split at h
    · cases h
    next hfree =>
    simp only [not_or, not_not] at hfree
    cases hrow : s.row with
    | none =>
      rw [hrow] at h
      rw [← Option.some.inj h]
      exact .goes .idle
    | some row =>
      rw [hrow] at h
      rw [← Option.some.inj h]
      exact .flushes hfree.1 hrow hfree.2
  | replaced version password revoked =>
    unfold runOp at h
    rw [← Option.some.inj h]
    exact .replaces

theorem forall_update {P : Nat → Op → Prop} (hself : P i op')
    (hother : ∀ j, j ≠ i → P j (s.ops j)) (j : Nat) : P j (Function.update s.ops i op' j) := by
  by_cases heq : j = i
  · rw [heq, Function.update_self]
    exact hself
  · rw [Function.update_of_ne heq]
    exact hother j heq

def Holds (s : State) (i : Nat) : Op → Prop
  | .activated _ _ (some w) _ => s.lock = some i ∧ (∃ row, s.row = some row ∧ row.window = none) ∧
      w.expiresAt = w.activatedAt + demoDuration
  | .replaced .. => s.lock = some i ∧ s.row ≠ none
  | _ => True

structure Steady (s : State) : Prop where
  kept : EvaluationKept s
  ops : ∀ i, Holds s i (s.ops i)

theorem Holds.of_free (h : Holds s i op) (hlock : s.lock ≠ some i) : Holds s' i op := by
  cases op with
  | activated password copy write spent =>
    cases write with
    | none => trivial
    | some w => exact absurd h.1 hlock
  | replaced version password revoked => exact absurd h.1 hlock
  | _ => trivial

theorem Holds.of_next (h : Next s op op') : Holds s' i op' := by cases h <;> trivial

theorem Holds.congr (h : Holds s i op) (hlock : s'.lock = s.lock)
    (hrow : ∀ row, s.row = some row → ∃ row', s'.row = some row' ∧ row'.window = row.window) :
    Holds s' i op := by
  cases op with
  | activated password copy write spent =>
    cases write with
    | none => trivial
    | some w =>
      obtain ⟨hheld, ⟨row, hrow₀, hwindow⟩, hhours⟩ := h
      obtain ⟨row', hrow', hwindow'⟩ := hrow row hrow₀
      exact ⟨hlock.trans hheld, ⟨row', hrow', hwindow'.trans hwindow⟩, hhours⟩
  | replaced version password revoked =>
    obtain ⟨hheld, hne⟩ := h
    obtain ⟨row, hrow₀⟩ := Option.ne_none_iff_exists'.mp hne
    obtain ⟨row', hrow', -⟩ := hrow row hrow₀
    exact ⟨hlock.trans hheld, by rw [hrow']; exact Option.some_ne_none _⟩
  | _ => trivial

theorem steady_ran (hs : Steady s) (hop : s.ops i = op) (h : Ran s i op s') : Steady s' := by
  have hheld := hs.ops i
  rw [hop] at hheld
  have hfree : s.lock = none → ∀ s' : State, ∀ j, Holds s' j (s.ops j) := fun hlock s' j =>
    (hs.ops j).of_free (by rw [hlock]; exact (Option.some_ne_none j).symm)
  have hsame : ∀ s' : State, s'.lock = s.lock → s'.row = s.row → ∀ j, Holds s' j (s.ops j) :=
    fun s' hlock hrow j => (hs.ops j).congr hlock fun row hrow₀ => ⟨row, hrow.trans hrow₀, rfl⟩
  cases h with
  | goes h =>
    exact ⟨⟨hs.kept.once, hs.kept.hours, hs.kept.row⟩,
      forall_update (.of_next h) fun j _ => hsame _ rfl rfl j⟩
  | deletes hreads hstatus hlock =>
    exact ⟨⟨hs.kept.once, hs.kept.hours, fun row hrow => nomatch hrow⟩,
      forall_update trivial fun j _ => hfree hlock _ j⟩
  | writes hstatus hlock hrow hwindow =>
    exact ⟨⟨hs.kept.once, hs.kept.hours, hs.kept.row⟩,
      forall_update ⟨rfl, ⟨_, hrow, hwindow⟩, rfl⟩ fun j _ => hfree hlock _ j⟩
  | @creates password draw copy write spent row hrow hdraw =>
    have hhead := hs.kept.row row hrow
    cases write with
    | none =>
      refine ⟨⟨hs.kept.once, hs.kept.hours, ?_⟩, forall_update trivial fun j _ => ?_⟩
      · rintro _ ⟨⟩
        exact hhead
      · refine (hs.ops j).congr rfl fun row₀ hrow₀ => ⟨_, rfl, ?_⟩
        rw [Option.some.inj (hrow.symm.trans hrow₀)]
        rfl
    | some w =>
      obtain ⟨hlock, ⟨row₀, hrow₀, hwindow⟩, hhours⟩ := hheld
      rw [← Option.some.inj (hrow.symm.trans hrow₀)] at hwindow
      have hnil : s.writes = [] := List.head?_eq_none_iff.mp (hhead.symm.trans hwindow)
      refine ⟨⟨?_, ?_, ?_⟩, forall_update trivial fun j hne => ?_⟩
      · show ([w] ++ s.writes).length ≤ 1
        rw [hnil]
        exact Nat.le_refl 1
      · show ∀ w' ∈ [w] ++ s.writes, _
        rw [hnil]
        intro w' hw'
        rw [List.mem_singleton.mp hw']
        exact hhours
      · rintro _ ⟨⟩
        rfl
      · exact (hs.ops j).of_free fun heq => hne (Option.some.inj (heq.symm.trans hlock))
  | serves h =>
    exact ⟨⟨hs.kept.once, hs.kept.hours, hs.kept.row⟩,
      forall_update trivial fun j _ => hsame _ rfl rfl j⟩
  | flushes hlock hrow hdraw =>
    refine ⟨⟨hs.kept.once, hs.kept.hours, hs.kept.row⟩,
      forall_update ⟨rfl, ?_⟩ fun j _ => hfree hlock _ j⟩
    show s.row ≠ none
    rw [hrow]
    exact Option.some_ne_none _
  | @replaces version password revoked =>
    refine ⟨⟨hs.kept.once, hs.kept.hours, ?_⟩, forall_update trivial fun j hne => ?_⟩
    · intro row hrow
      obtain ⟨row₀, hrow₀, rfl⟩ := Option.map_eq_some_iff.mp hrow
      exact hs.kept.row row₀ hrow₀
    · exact (hs.ops j).of_free fun heq => hne (Option.some.inj (heq.symm.trans hheld.1))

theorem steady_step (hs : Steady s) (h : step s a = some s') : Steady s' := by
  cases a with
  | tick now =>
    unfold step at h
    dsimp only at h
    split at h
    · rw [← Option.some.inj h]
      exact ⟨⟨hs.kept.once, hs.kept.hours, hs.kept.row⟩, fun j =>
        (hs.ops j).congr rfl fun row hrow => ⟨row, hrow, rfl⟩⟩
    · cases h
  | begin i op =>
    unfold step at h
    dsimp only at h
    split at h
    · next hbegin =>
      rw [← Option.some.inj h]
      refine ⟨⟨hs.kept.once, hs.kept.hours, hs.kept.row⟩, forall_update ?_ fun j _ =>
        (hs.ops j).congr rfl fun row hrow => ⟨row, hrow, rfl⟩⟩
      cases op <;> first | trivial | cases hbegin.2
    · cases h
  | run i draw => exact steady_ran hs rfl (ran_of_runOp h)

theorem steady_initial : Steady (initial now password) where
  kept := ⟨Nat.zero_le 1, fun w hw => (by cases hw), by rintro _ ⟨⟩; rfl⟩
  ops i := trivial

/-- A password that was committed with a version. -/
def Paired (s : State) (password version : Nat) : Prop :=
  ∃ newer older, s.passwords = newer ++ password :: older ∧ version = older.length + 1

theorem Paired.mono (hpasswords : s.passwords <:+ s'.passwords) (h : Paired s password version) :
    Paired s' password version := by
  obtain ⟨newest, hnewest⟩ := hpasswords
  obtain ⟨newer, older, hsplit, hversion⟩ := h
  exact ⟨newest ++ newer, older, by rw [← hnewest, hsplit, List.append_assoc], hversion⟩

/-- The row has the last password, with its version. -/
def Current (s : State) (row : Row) : Prop :=
  ∃ older, s.passwords = row.password :: older ∧ row.version = older.length + 1

theorem Current.paired (h : Current s row) : Paired s row.password row.version := by
  obtain ⟨older, hpasswords, hversion⟩ := h
  exact ⟨[], older, hpasswords, hversion⟩

theorem Paired.eq_of_current (h : Paired s password version) (hcurrent : Current s row)
    (hversion : version = row.version) : password = row.password := by
  obtain ⟨newer, older, hsplit, hlength⟩ := h
  obtain ⟨rest, hpasswords, hrest⟩ := hcurrent
  rw [hpasswords] at hsplit
  have hlengths := congrArg List.length hsplit
  rw [List.length_cons, List.length_append, List.length_cons] at hlengths
  have hnil : newer = [] := List.length_eq_zero_iff.mp (by omega)
  rw [hnil] at hsplit
  exact (List.cons.inj hsplit).1.symm

/-- A token that was issued. -/
def Known (s : State) (token : Token) : Prop := token ∈ s.issued.map (·.1)

def Reading (s : State) : Op → Prop
  | .refresh token | .request token => Known s token
  | .session token copy => Known s token ∧ token.version = copy.version ∧
      ∃ w ∈ s.writes, copy.window = some w
  | .checked password copy _ => Paired s password copy.version ∧ ∀ w ∈ copy.window, w ∈ s.writes
  | .activated password copy write _ => Paired s password copy.version ∧
      ∃ w, copy.window = some w ∧ (write = some w ∨ write = none ∧ w ∈ s.writes)
  | .requestUser token => Known s token ∧ s.row ≠ none
  | .requestProfile token copy => Known s token ∧
      ∃ c, copy = some c ∧ (∃ w ∈ s.writes, c.window = some w) ∧
        ∀ row ∈ s.row, row.version = c.version
  | _ => True

theorem Reading.mono (hpasswords : s.passwords <:+ s'.passwords)
    (hknown : ∀ token, Known s token → Known s' token) (hwrites : ∀ w ∈ s.writes, w ∈ s'.writes)
    (huser : ∀ token, op = .requestUser token → s'.row ≠ none)
    (hprofile : ∀ token read, op = .requestProfile token read →
      ∀ row' ∈ s'.row, ∃ row ∈ s.row, row'.version = row.version) (h : Reading s op) :
    Reading s' op := by
  cases op with
  | refresh token => exact hknown token h
  | request token => exact hknown token h
  | session token copy =>
    obtain ⟨htoken, hversion, w, hw, hwindow⟩ := h
    exact ⟨hknown token htoken, hversion, w, hwrites w hw, hwindow⟩
  | checked password copy spent => exact ⟨h.1.mono hpasswords, fun w hw => hwrites w (h.2 w hw)⟩
  | activated password copy write spent =>
    obtain ⟨hpaired, w, hwindow, hwrite⟩ := h
    exact ⟨hpaired.mono hpasswords, w, hwindow, hwrite.imp id (And.imp id (hwrites w))⟩
  | requestUser token => exact ⟨hknown token h.1, huser token rfl⟩
  | requestProfile token read =>
    obtain ⟨htoken, c, hread, ⟨w, hw, hwindow⟩, hversion⟩ := h
    refine ⟨hknown token htoken, c, hread, ⟨w, hwrites w hw, hwindow⟩, fun row' hrow' => ?_⟩
    obtain ⟨row, hrow, heq⟩ := hprofile token read rfl row' hrow'
    exact heq.trans (hversion row hrow)
  | _ => trivial

/-- What holds in an orderly run. -/
structure Sound (s : State) : Prop where
  ops : ∀ i, Reading s (s.ops i)
  deadline : ∀ i, ∀ w ∈ (s.ops i).deadline s, s.now < w.expiresAt
  current : ∀ row ∈ s.row, Current s row
  issued : ∀ e ∈ s.issued, Paired s e.1.password e.1.version ∧ ∀ w ∈ s.writes, e.2 < w.expiresAt
  served : ∀ e ∈ s.served, (∀ w ∈ s.writes, e.time < w.expiresAt) ∧
    e.password = some e.token.password
  written : s.issued ≠ [] ∨ s.served ≠ [] → s.writes ≠ []
  gone : s.row = none → ∃ w ∈ s.writes, w.expiresAt ≤ s.now

theorem status_expired : copy.getDemoStatus now = .expired ↔
    ∃ w, copy.window = some w ∧ w.expiresAt ≤ now := by
  unfold Copy.getDemoStatus
  cases copy.window with
  | none => simp
  | some w =>
    dsimp only
    split
    · next h => exact iff_of_true rfl ⟨w, rfl, h⟩
    · next h =>
      refine iff_of_false (fun h => nomatch h) ?_
      rintro ⟨_, ⟨⟩, hle⟩
      exact h hle

theorem status_active : copy.getDemoStatus now = .active ↔
    ∃ w, copy.window = some w ∧ now < w.expiresAt := by
  unfold Copy.getDemoStatus
  cases copy.window with
  | none => simp
  | some w =>
    dsimp only
    split
    · next h =>
      refine iff_of_false (fun h => nomatch h) ?_
      rintro ⟨_, ⟨⟩, hlt⟩
      exact absurd h (Int.not_le.mpr hlt)
    · next h => exact iff_of_true rfl ⟨w, rfl, Int.not_le.mp h⟩

theorem status_pending : copy.getDemoStatus now = .pending ↔ copy.window = none := by
  unfold Copy.getDemoStatus
  cases copy.window with
  | none => simp
  | some w =>
    dsimp only
    split <;> simp

theorem Steady.eq (hs : Steady s) {w' : Window} (hw : w ∈ s.writes) (hw' : w' ∈ s.writes) :
    w = w' := by
  have hlength := hs.kept.once
  match hwrites : s.writes with
  | [] => rw [hwrites] at hw; cases hw
  | [only] =>
    rw [hwrites] at hw hw'
    rw [List.mem_singleton.mp hw, List.mem_singleton.mp hw']
  | _ :: _ :: _ =>
    rw [hwrites] at hlength
    simp at hlength

theorem Steady.mem (hs : Steady s) (hrow : s.row = some row) (hw : row.window = some w) :
    w ∈ s.writes :=
  List.mem_of_mem_head? ((hs.kept.row row hrow).symm.trans hw)

theorem Sound.window (h : Sound s) (hs : Steady s) (hrow : s.row = some row)
    (htoken : Known s token) : ∃ w ∈ s.writes, row.window = some w := by
  have hne : s.writes ≠ [] := h.written (Or.inl fun hnil => by
    unfold Known at htoken
    rw [hnil] at htoken
    cases htoken)
  obtain ⟨w, hw⟩ := Option.ne_none_iff_exists'.mp fun hnone => hne (List.head?_eq_none_iff.mp hnone)
  exact ⟨w, List.mem_of_mem_head? hw, (hs.kept.row row hrow).trans hw⟩

theorem Sound.paired (h : Sound s) (htoken : Known s token) :
    Paired s token.password token.version := by
  obtain ⟨e, he, heq⟩ := List.mem_map.mp htoken
  rw [← heq]
  exact (h.issued e he).1

theorem Sound.ended (h : Sound s) (hs : Steady s) (hop : s.ops i = op)
    (hreads : op.reads s = some copy) (hstatus : copy.getDemoStatus s.now = .expired) :
    ∃ w ∈ s.writes, w.expiresAt ≤ s.now := by
  obtain ⟨w, hwindow, hle⟩ := status_expired.mp hstatus
  have hreading := h.ops i
  rw [hop] at hreading
  have hrow : s.row.map (·.toCopy) = some copy → w ∈ s.writes := fun hcopy => by
    obtain ⟨row, hrow, heq⟩ := Option.map_eq_some_iff.mp hcopy
    exact hs.mem hrow (by rw [heq]; exact hwindow)
  refine ⟨w, ?_, hle⟩
  cases op with
  | user attempt hash => exact hrow hreads
  | refresh token => exact hrow hreads
  | checked password read spent =>
    rw [← Option.some.inj hreads] at hwindow
    exact hreading.2 w hwindow
  | requestProfile token read =>
    obtain ⟨-, c, hread, ⟨w', hw', hwindow'⟩, -⟩ := hreading
    rw [← Option.some.inj (hread.symm.trans hreads)] at hwindow
    rw [Option.some.inj (hwindow.symm.trans hwindow')]
    exact hw'
  | _ => cases hreads

theorem reading_next (h : Sound s) (hs : Steady s) (hop : s.ops i = op)
    (hok : Orderly s (.run i draw)) (hnext : Next s op op') : Reading s op' := by
  have hreading := h.ops i
  have hapart := hok.2
  rw [hop] at hreading hapart
  cases hnext with
  | idle => trivial
  | user hrow => trivial
  | @checked hash row hrow hstatus =>
    have hpassword := hapart rfl row hrow
    rw [← hpassword]
    exact ⟨(h.current row hrow).paired, fun w hw => hs.mem hrow hw⟩
  | session hrow hstatus hversion =>
    exact ⟨hreading, hversion, h.window hs hrow hreading⟩
  | @spend token copy hvalid =>
    obtain ⟨htoken, hversion, w, hw, hwindow⟩ := hreading
    have hpaired := h.paired htoken
    rw [hversion] at hpaired
    refine ⟨hpaired, fun w' hw' => ?_⟩
    rw [← Option.some.inj (hwindow.symm.trans hw')]
    exact hw
  | active hstatus =>
    obtain ⟨w, hwindow, -⟩ := status_active.mp hstatus
    exact ⟨hreading.1, w, hwindow, Or.inr ⟨rfl, hreading.2 w hwindow⟩⟩
  | @again password copy spent row hstatus hrow hwindow =>
    have hpassword := hapart (status_pending.mp hstatus) row hrow hwindow
    obtain ⟨w, hw⟩ := Option.ne_none_iff_exists'.mp hwindow
    rw [← hpassword]
    exact ⟨(h.current row hrow).paired, w, hw, Or.inr ⟨rfl, hs.mem hrow hw⟩⟩
  | requestUser hrow => exact ⟨hreading, hrow⟩
  | profile =>
    obtain ⟨htoken, hne⟩ := hreading
    obtain ⟨row, hrow⟩ := Option.ne_none_iff_exists'.mp hne
    refine ⟨htoken, row.toCopy, by rw [hrow]; rfl, h.window hs hrow htoken, fun row' hrow' => ?_⟩
    rw [Option.some.inj (hrow.symm.trans hrow')]
  | replacing hrow => trivial

theorem deadline_next (h : Sound s) (hop : s.ops i = op) (hnext : Next s op op') :
    ∀ w ∈ op'.deadline s, s.now < w.expiresAt := by
  have hdeadline := h.deadline i
  have hreading := h.ops i
  rw [hop] at hdeadline hreading
  intro w hw
  cases hnext with
  | @checked hash row hrow hstatus =>
    -- A copy of the row that is pending leaves the row pending.
    by_cases hnone : row.window = none
    · rw [Op.deadline, if_pos hnone, hrow] at hw
      exact absurd (hnone.symm.trans hw) (Option.some_ne_none w).symm
    · rw [Op.deadline, if_neg hnone] at hw
      cases hw
  | @spend token copy hvalid =>
    obtain ⟨-, -, w', -, hwindow⟩ := hreading
    rw [Op.deadline, if_neg (by rw [hwindow]; exact Option.some_ne_none w')] at hw
    cases hw
  | active hstatus =>
    obtain ⟨w', hwindow, hlt⟩ := status_active.mp hstatus
    rw [← Option.some.inj (hwindow.symm.trans hw)]
    exact hlt
  | @again password copy spent row hstatus hrow hwindow =>
    refine hdeadline w ?_
    rw [Op.deadline, if_pos (status_pending.mp hstatus), hrow]
    exact hw
  | _ => cases hw

theorem deadline_congr (h : ∀ w ∈ op.deadline s, now < w.expiresAt)
    (hrow : ∀ w, s'.row.bind (·.window) = some w →
      s.row.bind (·.window) = some w ∨ now < w.expiresAt) :
    ∀ w ∈ op.deadline s', now < w.expiresAt := by
  intro w hw
  cases op with
  | activated password copy write spent => exact h w hw
  | checked password copy spent =>
    by_cases hnone : copy.window = none
    · rw [Op.deadline, if_pos hnone] at hw
      rcases hrow w hw with hbefore | hlt
      · exact h w (by rw [Op.deadline, if_pos hnone]; exact hbefore)
      · exact hlt
    · rw [Op.deadline, if_neg hnone] at hw
      cases hw
  | _ => cases hw

theorem Sound.goTo (h : Sound s) (op' : Op) (hreading : Reading s op')
    (hdeadline : ∀ w ∈ op'.deadline s, s.now < w.expiresAt) (lock : Option Nat)
    (drawn : List Nat) : Sound { s.goTo i op' with lock := lock, drawn := drawn } := by
  have hmono : ∀ op, Reading s op →
      Reading { s.goTo i op' with lock := lock, drawn := drawn } op := fun op hop => by
    cases op <;> exact hop
  refine ⟨forall_update (hmono _ hreading) fun j _ => hmono _ (h.ops j),
    forall_update (P := fun _ op => ∀ w ∈ op.deadline _, s.now < w.expiresAt) ?_ fun j _ => ?_,
    h.current, h.issued, h.served, h.written, h.gone⟩
  · exact deadline_congr hdeadline fun w hw => Or.inl hw
  · exact deadline_congr (h.deadline j) fun w hw => Or.inl hw

theorem sound_deletes (h : Sound s) (hs : Steady s) (hop : s.ops i = op)
    (hok : Orderly s (.run i draw)) (hreads : op.reads s = some copy)
    (hstatus : copy.getDemoStatus s.now = .expired) :
    Sound { s.stop i with row := none, valid := [] } := by
  have hapart := hok.1 copy (by rw [hop]; exact hreads) hstatus
  refine ⟨forall_update trivial fun j _ => ?_,
    forall_update (P := fun _ op => ∀ w ∈ op.deadline _, s.now < w.expiresAt)
      (fun w hw => (nomatch hw)) fun j _ => ?_,
    fun row hrow => (nomatch hrow), h.issued, h.served, h.written,
    fun _ => h.ended hs hop hreads hstatus⟩
  · refine (h.ops j).mono (s := s) List.suffix_rfl (fun _ hknown => hknown) (fun _ hw => hw) ?_ ?_
    · intro token hrequest
      exact absurd hrequest (hapart j token)
    · intro token read _ row' hrow'
      cases hrow'
  · exact deadline_congr (h.deadline j) fun w hw => nomatch hw

theorem sound_creates {write : Option Window} (h : Sound s) (hs : Steady s)
    (hop : s.ops i = .activated password copy write spent) (hrow : s.row = some row) :
    Sound { s.stop i with
      row := some { row with window := write <|> row.window }
      lock := if write = none then s.lock else none
      valid := draw :: s.valid.filter (some · ≠ spent)
      issued := (⟨password, copy.version, draw⟩, s.now) :: s.issued
      writes := write.toList ++ s.writes
      drawn := draw :: s.drawn } := by
  have hreading := h.ops i
  have hheld := hs.ops i
  have hdeadline := h.deadline i
  rw [hop] at hreading hheld hdeadline
  obtain ⟨hpaired, w, hwindow, hwrite⟩ := hreading
  have hlt : s.now < w.expiresAt := hdeadline w hwindow
  -- The evaluation of the row is then the one that the session has found or written.
  have hone : ∀ w' ∈ write.toList ++ s.writes, w' = w := by
    rcases hwrite with hwrite | ⟨hwrite, hmem⟩
    · rw [hwrite] at hheld ⊢
      obtain ⟨-, ⟨row₀, hrow₀, hnone⟩, -⟩ := hheld
      have hnil : s.writes = [] :=
        List.head?_eq_none_iff.mp ((hs.kept.row row₀ hrow₀).symm.trans hnone)
      intro w' hw'
      rw [hnil] at hw'
      exact List.mem_singleton.mp hw'
    · rw [hwrite]
      exact fun w' hw' => hs.eq hw' hmem
  have hwritten : w ∈ write.toList ++ s.writes := by
    rcases hwrite with hwrite | ⟨hwrite, hmem⟩
    · rw [hwrite]
      exact List.mem_cons_self
    · exact List.mem_append_right _ hmem
  have hbefore : ∀ time : Int, (∀ w' ∈ s.writes, time < w'.expiresAt) →
      s.writes ≠ [] → ∀ w' ∈ write.toList ++ s.writes, time < w'.expiresAt := by
    intro time htime hne w' hw'
    obtain ⟨w₀, hw₀⟩ := List.exists_mem_of_ne_nil _ hne
    rw [hone w' hw', ← hone w₀ (List.mem_append_right _ hw₀)]
    exact htime w₀ hw₀
  have hknown : ∀ token, Known s token → token ∈
      ((⟨password, copy.version, draw⟩, s.now) :: s.issued).map (·.1) := fun token htoken =>
    List.mem_cons_of_mem _ htoken
  refine ⟨forall_update trivial fun j _ => ?_,
    forall_update (P := fun _ op => ∀ w ∈ op.deadline _, s.now < w.expiresAt)
      (fun w hw => (nomatch hw)) fun j _ => ?_, ?_, ?_, ?_, ?_, fun hnone => nomatch hnone⟩
  · refine (h.ops j).mono (s := s) List.suffix_rfl hknown
      (fun w' hw' => List.mem_append_right _ hw') (fun _ _ => Option.some_ne_none _) ?_
    rintro token read - _ ⟨⟩
    exact ⟨row, hrow, rfl⟩
  · refine deadline_congr (h.deadline j) fun w' hw' => ?_
    cases write with
    | none => exact Or.inl (by rw [hrow]; exact hw')
    | some w₀ =>
      rw [← Option.some.inj hw', hone w₀ List.mem_cons_self]
      exact Or.inr hlt
  · rintro _ ⟨⟩
    exact h.current row hrow
  · intro e he
    rcases List.mem_cons.mp he with rfl | he
    · exact ⟨hpaired, fun w' hw' => by rw [hone w' hw']; exact hlt⟩
    · obtain ⟨hpaired', htime⟩ := h.issued e he
      exact ⟨hpaired', hbefore _ htime (h.written (Or.inl (List.ne_nil_of_mem he)))⟩
  · intro e he
    obtain ⟨htime, hpassword⟩ := h.served e he
    exact ⟨hbefore _ htime (h.written (Or.inr (List.ne_nil_of_mem he))), hpassword⟩
  · exact fun _ => List.ne_nil_of_mem hwritten

theorem sound_serves {read : Option Copy} (h : Sound s) (hs : Steady s)
    (hop : s.ops i = .requestProfile token read)
    (hcheck : ∀ copy ∈ read, copy.getDemoStatus s.now ≠ .expired ∧ token.version = copy.version) :
    Sound (s.serve i token) := by
  have hreading := h.ops i
  rw [hop] at hreading
  obtain ⟨htoken, c, hread, ⟨w, hw, hwindow⟩, hversion⟩ := hreading
  obtain ⟨hstatus, hsame⟩ := hcheck c hread
  have hlt : s.now < w.expiresAt :=
    Int.not_le.mp fun hle => hstatus (status_expired.mpr ⟨w, hwindow, hle⟩)
  refine ⟨forall_update trivial fun j _ => ?_,
    forall_update (P := fun _ op => ∀ w ∈ op.deadline _, s.now < w.expiresAt)
      (fun w hw => (nomatch hw)) fun j _ => ?_, h.current, h.issued, ?_,
    fun _ => List.ne_nil_of_mem hw, h.gone⟩
  · exact (h.ops j).mono (s := s) List.suffix_rfl (fun _ hknown => hknown) (fun _ hw => hw)
      (fun token' hrequest => by
        have hother := h.ops j
        rw [hrequest] at hother
        exact hother.2)
      (fun _ _ _ row' hrow' => ⟨row', hrow', rfl⟩)
  · exact deadline_congr (h.deadline j) fun w hw => Or.inl hw
  · intro e he
    rcases List.mem_cons.mp he with rfl | he
    · refine ⟨fun w' hw' => by rw [hs.eq hw' hw]; exact hlt, ?_⟩
      cases hrow : s.row with
      | none =>
        obtain ⟨w', hw', hle⟩ := h.gone hrow
        rw [hs.eq hw' hw] at hle
        omega
      | some row =>
        have hcurrent := (h.paired htoken).eq_of_current (h.current row hrow)
          (hsame.trans (hversion row hrow).symm)
        rw [hcurrent]
        rfl
    · exact h.served e he

theorem sound_replaces {revoked : List Nat} (h : Sound s)
    (hop : s.ops i = .replaced version password revoked)
    (hok : Orderly s (.run i draw)) : Sound (s.replaceCredentials i version password revoked) := by
  have hapart := hok.2
  rw [hop] at hapart
  obtain ⟨hversion, hrequests⟩ := hapart
  refine ⟨forall_update trivial fun j _ => ?_,
    forall_update (P := fun _ op => ∀ w ∈ op.deadline _, s.now < w.expiresAt)
      (fun w hw => (nomatch hw)) fun j _ => ?_, ?_, fun e he => ?_, h.served, h.written,
    fun hnone => h.gone (Option.map_eq_none_iff.mp hnone)⟩
  · refine (h.ops j).mono (s := s) (List.suffix_cons _ _) (fun _ hknown => hknown)
      (fun _ hw => hw) ?_ ?_
    · intro token hrequest hnone
      have hother := h.ops j
      rw [hrequest] at hother
      exact hother.2 (Option.map_eq_none_iff.mp hnone)
    · intro token read hrequest
      exact absurd hrequest (hrequests j token read)
  · refine deadline_congr (h.deadline j) fun w hw => Or.inl ?_
    obtain ⟨row', hrow', hwindow⟩ := Option.bind_eq_some_iff.mp hw
    obtain ⟨row, hrow, rfl⟩ := Option.map_eq_some_iff.mp hrow'
    rw [hrow]
    exact hwindow
  · intro row' hrow'
    obtain ⟨row, hrow, rfl⟩ := Option.map_eq_some_iff.mp hrow'
    obtain ⟨older, hpasswords, hlength⟩ := h.current row hrow
    refine ⟨s.passwords, rfl, ?_⟩
    rw [← hversion row hrow, hlength, hpasswords]
    rfl
  · exact ⟨(h.issued e he).1.mono (List.suffix_cons _ _), (h.issued e he).2⟩

theorem sound_ran (h : Sound s) (hs : Steady s) (hok : Orderly s (.run i draw))
    (hop : s.ops i = op) (hran : Ran s i op s') : Sound s' := by
  cases hran with
  | goes hnext =>
    exact h.goTo _ (reading_next h hs hop hok hnext) (deadline_next h hop hnext) s.lock s.drawn
  | deletes hreads hstatus hlock => exact sound_deletes h hs hop hok hreads hstatus
  | @writes password copy spent row hstatus hlock hrow hwindow =>
    have hreading := h.ops i
    rw [hop] at hreading
    refine h.goTo (.activated password { copy with window := some _ } (some _) spent)
      ⟨hreading.1, _, rfl, Or.inl rfl⟩ ?_ (some i) s.drawn
    rintro _ ⟨⟩
    exact Int.lt_add_of_pos_right _ (by decide)
  | creates hrow hdraw => exact sound_creates h hs hop hrow
  | serves hcheck => exact sound_serves h hs hop hcheck
  | @flushes version draw row hlock hrow hdraw =>
    exact h.goTo (.replaced version draw s.valid) trivial (fun w hw => (nomatch hw)) (some i) _
  | replaces => exact sound_replaces h hop hok

theorem sound_step (h : Sound s) (hs : Steady s) (hok : Orderly s a)
    (hstep : step s a = some s') : Sound s' := by
  cases a with
  | tick now =>
    unfold step at hstep
    dsimp only at hstep
    split at hstep
    · next hle =>
      rw [← Option.some.inj hstep]
      refine ⟨fun j => ?_, hok, h.current, h.issued, h.served, h.written, fun hnone => ?_⟩
      · have hreading := h.ops j
        revert hreading
        cases s.ops j <;> exact id
      · obtain ⟨w, hw, hended⟩ := h.gone hnone
        exact ⟨w, hw, Int.le_trans hended hle⟩
    · cases hstep
  | begin i op =>
    unfold step at hstep
    dsimp only at hstep
    split at hstep
    · next hbegin =>
      rw [← Option.some.inj hstep]
      have hbegins := hbegin.2
      cases op with
      | login attempt =>
        exact h.goTo (.login attempt) trivial (fun w hw => (nomatch hw)) s.lock s.drawn
      | replace => exact h.goTo .replace trivial (fun w hw => (nomatch hw)) s.lock s.drawn
      | refresh token =>
        have hknown : token ∈ s.issued.map (·.1) := of_decide_eq_true hbegins
        exact h.goTo (.refresh token) hknown (fun w hw => (nomatch hw)) s.lock s.drawn
      | request token =>
        have hknown : token ∈ s.issued.map (·.1) := of_decide_eq_true hbegins
        exact h.goTo (.request token) hknown (fun w hw => (nomatch hw)) s.lock s.drawn
      | _ => cases hbegins
    · cases hstep
  | run i draw => exact sound_ran h hs hok rfl (ran_of_runOp hstep)

theorem sound_initial : Sound (initial now password) where
  ops i := trivial
  deadline i w hw := nomatch hw
  current := by
    rintro _ ⟨⟩
    exact ⟨[], rfl, rfl⟩
  issued e he := nomatch he
  served e he := nomatch he
  written h := h.elim (absurd rfl) (absurd rfl)
  gone h := nomatch h

theorem writes_step (h : step s a = some s') : ∀ w ∈ s.writes, w ∈ s'.writes := by
  cases a with
  | tick now =>
    unfold step at h
    dsimp only at h
    split at h
    · rw [← Option.some.inj h]
      exact fun w hw => hw
    · cases h
  | begin i op =>
    unfold step at h
    dsimp only at h
    split at h
    · rw [← Option.some.inj h]
      exact fun w hw => hw
    · cases h
  | run i draw =>
    have hran := ran_of_runOp h
    generalize s.ops i = op at hran
    cases hran with
    | creates hrow hdraw => exact fun w hw => List.mem_append_right _ hw
    | _ => exact fun w hw => hw

theorem steady_of_reaches {s₀ : State} (h : Reaches step Always s₀ s) (h₀ : Steady s₀) : Steady s :=
  h.invariant h₀ fun _ _ _ hs _ hstep => steady_step hs hstep

end DemoLemmas

open DemoLemmas

/-! ## The demo tenant -/

/-- **Evaluations and credentials.** In every run the evaluation is written at most once, for 48
hours, and the row keeps it. In a run that keeps apart what has to be kept apart, no token is issued
and no request is served behind its end, and the tokens that pass are those of the current
password. -/
theorem demo_of_reaches (now : Int) (password : Nat) (s : State) :
    (Reaches step Always (initial now password) s → EvaluationKept s ∧
      ∀ s', Reaches step Always s s' → ∀ w ∈ s.writes, ∀ row ∈ s'.row, row.window = some w) ∧
    (Reaches step Orderly (initial now password) s → CredentialsKept s) := by
  refine ⟨fun h => ?_, fun h => ?_⟩
  · have hs := steady_of_reaches h steady_initial
    refine ⟨hs.kept, fun s' h' w hw row hrow => ?_⟩
    have hs' := steady_of_reaches h' hs
    have hkept := h'.invariant (I := fun later => ∀ w ∈ s.writes, w ∈ later.writes)
      (fun w hw => hw) fun _ _ _ hbefore _ hstep w hw => writes_step hstep w (hbefore w hw)
    rw [hs'.kept.row row hrow]
    cases hwrites : s'.writes with
    | nil =>
      have hmem := hkept w hw
      rw [hwrites] at hmem
      cases hmem
    | cons first rest =>
      have hfirst : first ∈ s'.writes := by rw [hwrites]; exact List.mem_cons_self
      rw [hs'.eq (hkept w hw) hfirst]
      rfl
  · obtain ⟨hs, hsound⟩ := h.invariant (I := fun s => Steady s ∧ Sound s)
      ⟨steady_initial, sound_initial⟩ fun _ _ _ hbefore hok hstep =>
        ⟨steady_step hbefore.1 hstep, sound_step hbefore.2 hbefore.1 hok hstep⟩
    refine ⟨fun e he => (hsound.issued e he).2, hsound.served, fun e he row hrow hversion => ?_⟩
    exact (hsound.issued e he).1.eq_of_current (hsound.current row hrow) hversion

namespace DemoLemmas

/-- `Orderly`, where the operations from `n` on have not begun. -/
def orderlyBelow (n : Nat) (s : State) : Action → Bool
  | .tick now => (List.range n).all fun i => ((s.ops i).deadline s).all (now < ·.expiresAt)
  | .begin i _ => i < n
  | .run i _ =>
    i < n &&
    (((s.ops i).reads s).all (fun copy => copy.getDemoStatus s.now ≠ .expired) ||
      (List.range n).all fun j => !(s.ops j matches .requestUser _)) &&
    match s.ops i with
    | .user attempt hash => attempt ≠ hash || s.row.all (·.password = hash)
    | .checked password copy _ =>
      copy.window ≠ none || s.row.all fun row => row.window = none || row.password = password
    | .replaced version _ _ => s.row.all (·.version = version) &&
      (List.range n).all fun j => !(s.ops j matches .requestProfile _ _)
    | _ => true

variable {s s' : State} {a : Action} {n : Nat}

theorem all_below {p : Op → Bool} (hidle : ∀ j, n ≤ j → s.ops j = .idle) (hp : p .idle = true)
    (h : (List.range n).all (fun j => p (s.ops j)) = true) (j : Nat) : p (s.ops j) = true := by
  by_cases hj : j < n
  · exact List.all_eq_true.mp h j (List.mem_range.mpr hj)
  · rw [hidle j (Nat.not_lt.mp hj)]
    exact hp

theorem orderly_of_below (hidle : ∀ j, n ≤ j → s.ops j = .idle) (h : orderlyBelow n s a = true) :
    Orderly s a := by
  cases a with
  | tick now =>
    intro i w hw
    have hall := @all_below s n (fun op => (op.deadline s).all fun w : Window => now < w.expiresAt)
      hidle rfl h i
    exact of_decide_eq_true ((Option.all_eq_true _ _).mp hall w hw)
  | begin i op => trivial
  | run i draw =>
    simp only [orderlyBelow, Bool.and_eq_true] at h
    obtain ⟨⟨-, hreads⟩, hmatch⟩ := h
    refine ⟨fun copy hcopy hexpired j token hop => ?_, ?_⟩
    · rcases (Bool.or_eq_true _ _).mp hreads with hlive | hnone
      · exact of_decide_eq_true ((Option.all_eq_true _ _).mp hlive copy hcopy) hexpired
      · have hj := @all_below s n (fun op => !(op matches .requestUser _)) hidle rfl hnone j
        rw [hop] at hj
        cases hj
    · split <;> rename_i hop <;> simp only [hop] at hmatch
      · intro heq row hrow
        exact of_decide_eq_true ((Option.all_eq_true _ _).mp
          (((Bool.or_eq_true _ _).mp hmatch).resolve_left fun hne => of_decide_eq_true hne heq)
          row hrow)
      · intro hpending row hrow hwindow
        have hrow' := (Option.all_eq_true _ _).mp (((Bool.or_eq_true _ _).mp hmatch).resolve_left
          fun hne => of_decide_eq_true hne hpending) row hrow
        exact of_decide_eq_true (((Bool.or_eq_true _ _).mp hrow').resolve_left
          fun hnone => hwindow (of_decide_eq_true hnone))
      · obtain ⟨hversion, hnone⟩ := (Bool.and_eq_true _ _).mp hmatch
        refine ⟨fun row hrow => of_decide_eq_true ((Option.all_eq_true _ _).mp hversion row hrow),
          fun j token copy hop => ?_⟩
        have hj := @all_below s n (fun op => !(op matches .requestProfile _ _)) hidle rfl
          hnone j
        rw [hop] at hj
        cases hj
      · trivial

theorem idle_step (hidle : ∀ j, n ≤ j → s.ops j = .idle) (hok : orderlyBelow n s a = true)
    (h : step s a = some s') : ∀ j, n ≤ j → s'.ops j = .idle := by
  intro j hj
  cases a with
  | tick now =>
    obtain ⟨-, hs'⟩ := Option.ite_none_right_eq_some.mp h
    rw [← Option.some.inj hs']
    exact hidle j hj
  | begin i op =>
    obtain ⟨-, hs'⟩ := Option.ite_none_right_eq_some.mp h
    rw [← Option.some.inj hs']
    have hi : i < n := of_decide_eq_true hok
    exact (Function.update_of_ne (by omega) _ _).trans (hidle j hj)
  | run i draw =>
    simp only [orderlyBelow, Bool.and_eq_true, decide_eq_true_eq] at hok
    have hi : i < n := hok.1.1
    refine Eq.trans ?_ (hidle j hj)
    have hran := ran_of_runOp h
    generalize s.ops i = op at hran
    cases hran <;> exact Function.update_of_ne (by omega) _ _

theorem reaches_orderly {now : Int} {password : Nat}
    (h : Reaches step (fun s a => orderlyBelow n s a = true) (initial now password) s) :
    Reaches step Orderly (initial now password) s := by
  suffices hboth : Reaches step Orderly (initial now password) s ∧
      ∀ j, n ≤ j → s.ops j = .idle from hboth.1
  induction h with
  | refl => exact ⟨.refl, fun _ _ => rfl⟩
  | tail _ hok hstep ih =>
    exact ⟨.tail ih.1 (orderly_of_below ih.2 hok) hstep, idle_step ih.2 hok hstep⟩

end DemoLemmas

/-- A login and a request. A second request has read the user when a replacement commits, a login
with the new password follows, and its token is refreshed an hour later. -/
def exReplaced : List Action :=
  [.tick 5, .begin 0 (.login 7), .run 0 0, .run 0 0, .run 0 0, .run 0 9,
    .begin 1 (.request ⟨7, 1, 9⟩), .run 1 0, .run 1 0, .run 1 0,
    .begin 1 .replace, .run 1 0, .run 1 8, .begin 0 (.request ⟨7, 1, 9⟩), .run 0 0, .run 1 0,
    .run 0 0, .run 0 0, .begin 0 (.login 8), .run 0 0, .run 0 0, .run 0 0, .run 0 10,
    .tick 3600000000, .begin 1 (.refresh ⟨8, 2, 10⟩), .run 1 0, .run 1 0, .run 1 0, .run 1 11]

/-- The request behind the replacement is not served. -/
theorem demo_replaced : ∃ s, s.writes = [⟨5, 5 + demoDuration⟩] ∧
    s.issued.map (·.1) = [⟨8, 2, 11⟩, ⟨8, 2, 10⟩, ⟨7, 1, 9⟩] ∧
    s.served.map (·.token) = [⟨7, 1, 9⟩] ∧ EvaluationKept s ∧ CredentialsKept s := by
  have hexec : (execWhere step (DemoLemmas.orderlyBelow 2) (initial 0 7) exReplaced).any
      (fun s : State => s.writes = [⟨5, 5 + demoDuration⟩] ∧
        s.issued.map (·.1) = [⟨8, 2, 11⟩, ⟨8, 2, 10⟩, ⟨7, 1, 9⟩] ∧
        s.served.map (·.token) = [⟨7, 1, 9⟩]) = true := by
    decide +kernel
  obtain ⟨s, hreach, hs⟩ := exists_of_execWhere hexec
  obtain ⟨hwrites, hissued, hserved⟩ := of_decide_eq_true hs
  have hkept := demo_of_reaches 0 7 s
  exact ⟨s, hwrites, hissued, hserved, (hkept.1 (hreach.mono fun _ _ _ => trivial)).1,
    hkept.2 (DemoLemmas.reaches_orderly hreach)⟩

/-- A login with the old password reads the user, the replacement commits, and the login reads the
tenant behind it: its tokens have the old password and the current version, and they pass. -/
theorem old_password_accepted : ∃ s, Reaches step Always (initial 0 7) s ∧ ¬ CredentialsKept s := by
  have htrace : (exec step (initial 0 7)
      [.begin 0 (.login 7), .run 0 0, .begin 1 .replace, .run 1 0, .run 1 8, .run 1 0,
       .run 0 0, .run 0 0, .run 0 9]).any (fun s : State =>
        s.row.map (fun row => (row.version, row.password)) = some (2, 8) ∧
        s.issued.map (·.1) = [⟨7, 2, 9⟩]) = true := by
    decide +kernel
  obtain ⟨s, hexec, hstate⟩ := (Option.any_eq_true _ _).mp htrace
  obtain ⟨hrow, hissued⟩ := of_decide_eq_true hstate
  refine ⟨s, reaches_of_exec hexec, fun hkept => ?_⟩
  obtain ⟨row, hrow, hpair⟩ := Option.map_eq_some_iff.mp hrow
  obtain ⟨hversion, hpassword⟩ := Prod.mk.inj hpair
  obtain ⟨e, he, htoken⟩ := List.mem_map.mp (by rw [hissued]; exact List.mem_singleton_self _)
  have hsame := hkept.replaced e he row hrow (by rw [htoken, hversion])
  rw [htoken, hpassword] at hsame
  cases hsame

end Trackpal.Accounts.Demo
