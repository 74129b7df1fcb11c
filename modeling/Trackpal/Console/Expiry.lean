import Trackpal.Foundation.ExpiringStore
import Trackpal.Foundation.Runs
import Trackpal.Redis.Breaker
import Mathlib.Order.WithBot

/-!
# The expiry of conversations

A request reads a conversation and writes it back, in calls that each find the store of the moment.
The module follows the expiry of the keys in both stores.
-/

namespace Trackpal.Console.Expiry

open Trackpal.Foundation Redis

/-! ## Requests -/

inductive Key where
  /-- `session:{phone}`. -/
  | session (phone : String)
  /-- `wa:client_ctx:{phone}`. -/
  | clientCtx (phone : String)
deriving DecidableEq, Repr

abbrev Text := String

/-- A store; `⊤` is the expiry of a key without one. -/
abbrev Store := ExpiringStore Key Text (WithTop Int)

/-- What a call does with the store that it is routed to. -/
inductive Op where
  /-- `get_session` and `_get_ctx`. -/
  | get (key : Key)
  /-- `save_session` and `_save_ctx` with a new expiry. -/
  | set (key : Key) (value : Text)
  /-- `save_session(touch_ttl=False)` and `_save_ctx(refresh_ttl=False)`, with the call that has
  read the conversation. -/
  | setKeepTtl (key : Key) (value : Text) (read : Nat)
  /-- `clear_session` and `_clear_ctx`. -/
  | delete (key : Key)
deriving DecidableEq, Repr

/-- A call of `execute`. `sent` is while the store has it, `found` is the answer to a read. -/
structure Job where
  op : Op
  sent : Bool
  found : Bool
deriving DecidableEq, Repr

/-- Both stores, and the calls that the manager routes. -/
structure World where
  redis : Redis.World
  primary : Store
  backup : Store
  jobs : List Job

inductive Action where
  | start (now : Int) (op : Op)
  | send (pid : Nat)
  /-- The store performs the operation of a call. -/
  | perform (pid : Nat) (now : Int)
  | finish (pid : Nat) (outcome : Outcome) (now : Int)
deriving DecidableEq, Repr

def Key.ttl (sessionTtl : Nat) : Key → Int
  | .session _ => sessionTtl
  | .clientCtx _ => 300

variable (settings : Settings) (sessionTtl : Nat)

namespace World

def initial (now : Int) : World :=
  { redis := .initial now, primary := .empty, backup := .empty, jobs := [] }

def store (w : World) : Route → Store
  | .primary | .probe => w.primary
  | .backup => w.backup

def setStore (w : World) (store : Store) : Route → World
  | .primary | .probe => { w with primary := store }
  | .backup => { w with backup := store }

/-- A conversation is written back with its expiry by a request that has read it. -/
def allows (w : World) : Op → Bool
  | .setKeepTtl key _ read =>
    w.redis.calls.get read = some .returned &&
      w.jobs[read]?.any fun job => job.op = .get key && job.found
  | _ => true

end World

/-- The operation in a store. -/
def Op.run (op : Op) (store : Store) (now : Int) : Store :=
  match op with
  | .get _ => store
  | .set key value => store.set key value ((now + key.ttl sessionTtl : Int))
  | .setKeepTtl key value _ => store.setKeepTtl now key value
  | .delete key => store.del key

/-- The answer to a read. -/
def Op.finds (op : Op) (store : Store) (now : Int) : Bool :=
  match op with
  | .get key => (store.get now key).isSome
  | _ => false

/-- The call in a store, with its route and its job. -/
def World.running (w : World) (pid : Nat) : Option (Route × Job) :=
  match w.redis.calls.get pid, w.jobs[pid]? with
  | some (.sent route), some job => if job.sent then some (route, job) else none
  | _, _ => none

def step (w : World) : Action → Option World
  | .start now op =>
    if w.allows op then
      (Redis.step settings w.redis (.start now)).map fun redis =>
        { w with redis := redis, jobs := w.jobs ++ [⟨op, false, false⟩] }
    else none
  | .send pid =>
    (Redis.step settings w.redis (.send pid)).map fun redis =>
      { w with redis := redis, jobs := w.jobs.modify pid ({ · with sent := true }) }
  | .perform pid now =>
    if w.redis.now ≤ now then
      (w.running pid).map fun (route, job) =>
        let store := w.store route
        { w.setStore (job.op.run sessionTtl store now) route with
          redis := { w.redis with now := now }
          jobs := w.jobs.set pid { job with sent := false, found := job.op.finds store now } }
    else none
  | .finish pid outcome now =>
    -- an answer has been performed, a failure may have been
    if outcome = .success ∧ (w.running pid).isSome then none
    else (Redis.step settings w.redis (.finish pid outcome now)).map fun redis =>
      { w with redis := redis }

/-- Every conversation in either store expires, within the time that is configured. -/
def Mortal (w : World) : Prop :=
  ∀ route, (w.store route).Bounded fun key => ((w.redis.now + key.ttl sessionTtl : Int))

/-- A write with `KEEPTTL` comes to a store without its key. -/
def breaks (w : World) : Action → Bool
  | .perform pid now =>
    (w.running pid).any fun (route, job) =>
      match job.op with
      | .setKeepTtl key _ _ => ((w.store route).get now key).isNone
      | _ => false
  | _ => false

variable {settings sessionTtl} {w w' : World} {a : Action} {store : Store} {route : Route}
  {now : Int} {op : Op}

namespace ExpiryLemmas

open BreakerLemmas

theorem now_le_step {w w' : Redis.World} {a : Redis.Action}
    (h : Redis.step settings w a = some w') : w.now ≤ w'.now := by
  cases a with
  | start now =>
    obtain ⟨hnow, rfl⟩ := of_start h
    exact hnow
  | send pid =>
    obtain ⟨route, -, ⟨-, -, rfl⟩ | ⟨next, -, rfl⟩⟩ := of_send h
    · exact Int.le_refl _
    · exact Int.le_refl _
  | finish pid outcome now =>
    obtain ⟨hnow, route, -, ⟨-, rfl⟩ | ⟨-, rfl⟩⟩ := of_finish h
    · exact hnow
    · cases outcome <;> exact hnow

def limit (sessionTtl : Nat) (now : Int) (key : Key) : WithTop Int :=
  ((now + key.ttl sessionTtl : Int))

theorem bounded_later {now' : Int} (h : store.Bounded (limit sessionTtl now)) (hle : now ≤ now') :
    store.Bounded (limit sessionTtl now') :=
  h.mono fun _ => WithTop.coe_le_coe.mpr (Int.add_le_add_right hle _)

theorem bounded_run (h : store.Bounded (limit sessionTtl now)) :
    (op.run sessionTtl store now).Bounded (limit sessionTtl now) ↔
      ∀ key value read, op = .setKeepTtl key value read → (store.get now key).isSome = true := by
  cases op with
  | get key => exact iff_of_true h fun _ _ _ hop => nomatch hop
  | set key value =>
    exact iff_of_true ((ExpiringStore.bounded_set h).mpr le_rfl) fun _ _ _ hop => nomatch hop
  | delete key => exact iff_of_true (ExpiringStore.bounded_del h) fun _ _ _ hop => nomatch hop
  | setKeepTtl key value read =>
    refine (ExpiringStore.bounded_setKeepTtl h (WithTop.coe_lt_top _)).trans ?_
    constructor
    · intro hsome key' value' read' hop
      cases hop
      exact hsome
    · intro hall
      exact hall key value read rfl

theorem mortal_later {redis : Redis.World} {jobs : List Job} (h : Mortal sessionTtl w)
    (hnow : w.redis.now ≤ redis.now) :
    Mortal sessionTtl { w with redis := redis, jobs := jobs } := fun route => by
  have hroute : (w.store route).Bounded (limit sessionTtl redis.now) := bounded_later (h route) hnow
  cases route <;> exact hroute

theorem mortal_setStore {redis : Redis.World} {jobs : List Job} (h : Mortal sessionTtl w)
    (hnow : w.redis.now ≤ redis.now) :
    Mortal sessionTtl { w.setStore store route with redis := redis, jobs := jobs } ↔
      store.Bounded (limit sessionTtl redis.now) := by
  have hlater : ∀ route', (w.store route').Bounded (limit sessionTtl redis.now) := fun route' =>
    bounded_later (h route') hnow
  constructor
  · intro hmortal
    have hroute := hmortal route
    cases route <;> exact hroute
  · intro hstore route'
    cases route with
    | primary | probe =>
      cases route' with
      | primary | probe => exact hstore
      | backup => exact hlater .backup
    | backup =>
      cases route' with
      | primary | probe => exact hlater .primary
      | backup => exact hstore

theorem breaks_perform {job : Job} {pid : Nat} (hrunning : w.running pid = some (route, job)) :
    breaks w (.perform pid now) = false ↔
      ∀ key value read, job.op = .setKeepTtl key value read →
        ((w.store route).get now key).isSome = true := by
  unfold breaks
  dsimp only
  rw [hrunning, Option.any_some]
  cases hop : job.op with
  | setKeepTtl key value read =>
    dsimp only
    rw [← Option.not_isSome, Bool.not_eq_false']
    constructor
    · intro hsome key' value' read' heq
      cases heq
      exact hsome
    · intro hall
      exact hall key value read rfl
  | get | set | delete => exact iff_of_true rfl fun _ _ _ heq => nomatch heq

end ExpiryLemmas

open ExpiryLemmas

theorem mortal_step (h : Mortal sessionTtl w) (hstep : step settings sessionTtl w a = some w') :
    Mortal sessionTtl w' ↔ breaks w a = false := by
  cases a with
  | start now op =>
    unfold step at hstep
    dsimp only at hstep
    split at hstep
    · obtain ⟨redis, hredis, rfl⟩ := Option.map_eq_some_iff.mp hstep
      exact iff_of_true (mortal_later h (now_le_step hredis)) rfl
    · cases hstep
  | send pid =>
    obtain ⟨redis, hredis, rfl⟩ := Option.map_eq_some_iff.mp hstep
    exact iff_of_true (mortal_later h (now_le_step hredis)) rfl
  | perform pid now =>
    unfold step at hstep
    dsimp only at hstep
    split at hstep
    · next hnow =>
      obtain ⟨⟨route, job⟩, hrunning, rfl⟩ := Option.map_eq_some_iff.mp hstep
      rw [breaks_perform hrunning, mortal_setStore h hnow]
      exact bounded_run (bounded_later (h route) hnow)
    · cases hstep
  | finish pid outcome now =>
    unfold step at hstep
    dsimp only at hstep
    split at hstep
    · cases hstep
    · obtain ⟨redis, hredis, rfl⟩ := Option.map_eq_some_iff.mp hstep
      exact iff_of_true (mortal_later h (now_le_step hredis)) rfl

/-- Until a write with `KEEPTTL` comes to a store without its key, every conversation expires in its
time; such a write ends that. -/
theorem mortal_iff {start : Int}
    (h : Reaches (step settings sessionTtl) (fun w a => breaks w a = false) (.initial start) w)
    (hstep : step settings sessionTtl w a = some w') :
    Mortal sessionTtl w ∧ (Mortal sessionTtl w' ↔ breaks w a = false) := by
  have hmortal : Mortal sessionTtl w := by
    refine h.invariant (I := fun w => Mortal sessionTtl w) ?_ ?_
    · intro route
      cases route <;> exact ExpiringStore.bounded_empty
    · intro w a w' hmortal hok hstep
      exact (mortal_step hmortal hstep).mpr hok
  exact ⟨hmortal, mortal_step hmortal hstep⟩

/-! ## Conversations that never expire -/

def exSettings : Settings where
  failureThreshold := 1
  openWindowSeconds := 30
  hasPrimary := true
  hasBackup := true

def exSession : Key := .session "admin:34600111222"

def exCall (pid : Nat) (now : Int) (op : Op) : List Action :=
  [.start now op, .send pid, .perform pid now, .finish pid .success now]

/-- A session is written, read and written back. The primary fails at a shortcut, which the backup
gets, and is asked again half a minute later: the session is read, and a second write comes. -/
def exConversations : List Action :=
  exCall 0 0 (.set exSession "menu") ++ exCall 1 100 (.get exSession) ++
    exCall 2 200 (.setKeepTtl exSession "lookup" 1) ++
    [Action.start 210 (.set (.clientCtx "34600111222") "menu"), .send 3, .finish 3 .infra 210,
      .send 3, .perform 3 211, .finish 3 .success 211] ++ exCall 4 250 (.get exSession) ++
    [Action.start 260 (.setKeepTtl exSession "code" 4), .send 5]

/-- The write finds the key a second before its end, and not afterwards. -/
theorem mortal_iff_conversations : ∃ w early late,
    w.primary exSession = some ("lookup", WithTop.some 300) ∧
    w.backup (.clientCtx "34600111222") = some ("menu", WithTop.some 511) ∧
    step exSettings 300 w (.perform 5 299) = some early ∧
    step exSettings 300 w (.perform 5 301) = some late ∧
    Mortal 300 w ∧ Mortal 300 early ∧ ¬Mortal 300 late := by
  have hexec : (execWhere (step exSettings 300) (fun w a => !breaks w a) (.initial 0)
      exConversations).any (fun w : World =>
        w.primary exSession = some ("lookup", WithTop.some 300) ∧
          w.backup (.clientCtx "34600111222") = some ("menu", WithTop.some 511) ∧
          ((step exSettings 300 w (.perform 5 299)).isSome ∧
            (step exSettings 300 w (.perform 5 301)).isSome) ∧
          breaks w (.perform 5 299) = false ∧ breaks w (.perform 5 301) = true) = true := by
    decide +kernel
  obtain ⟨w, hreach, hw⟩ := exists_of_execWhere hexec
  obtain ⟨hsession, hcontext, ⟨hearly, hlate⟩, hkeeps, hbreaks⟩ := of_decide_eq_true hw
  obtain ⟨early, hearly⟩ := Option.isSome_iff_exists.mp hearly
  obtain ⟨late, hlate⟩ := Option.isSome_iff_exists.mp hlate
  have hreach : Reaches (step exSettings 300) (fun w a => breaks w a = false) (.initial 0) w :=
    hreach.mono fun _ _ hok => by simpa using hok
  have hmortal := mortal_iff hreach hearly
  refine ⟨w, early, late, hsession, hcontext, hearly, hlate, hmortal.1, hmortal.2.mpr hkeeps,
    fun hkept => ?_⟩
  have hbroken := (mortal_iff hreach hlate).2.mp hkept
  rw [hbreaks] at hbroken
  cases hbroken

/-- The conversation expires between the read and the write. -/
theorem immortal_session : ∃ w, Reaches (step exSettings 300) Always (.initial 0) w ∧
    w.primary exSession = some ("lookup", ⊤) ∧ ¬Mortal 300 w := by
  have htrace : (exec (step exSettings 300) (.initial 0)
      (exCall 0 0 (.set exSession "menu") ++ exCall 1 299 (.get exSession) ++
        exCall 2 301 (.setKeepTtl exSession "lookup" 1))).any
      (fun w : World => w.primary exSession = some ("lookup", ⊤)) = true := by
    decide +kernel
  obtain ⟨w, hexec, hw⟩ := (Option.any_eq_true _ _).mp htrace
  have hentry := of_decide_eq_true hw
  refine ⟨w, reaches_of_exec hexec, hentry, fun hmortal => ?_⟩
  exact absurd (hmortal .primary _ _ _ hentry) (WithTop.coe_lt_top _).not_ge

end Trackpal.Console.Expiry
