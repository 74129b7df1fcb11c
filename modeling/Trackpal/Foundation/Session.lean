import Mathlib.Logic.Basic

/-!
# Programs over a database session

A session has what is committed, what the statements of the transaction have made of it, and
whether a rollback has expired the objects that were loaded. A program over it may raise, and
leaves the session then as it was at that point. Programs have pre- and postconditions, one for
each of the two ways to end.

Results:
1. `Triple.bind`, `Triple.attempt`: the rules for a sequence and for a handler.
2. `Triple.run`: what the rules prove of a transaction, whose changes are lost if it raises.
-/

namespace Trackpal.Foundation

structure Session (δ : Type) where
  persisted : δ
  working : δ
  expired : Bool

namespace Session

variable {δ : Type}

/-- A session that has done nothing. -/
def start (db : δ) : Session δ := ⟨db, db, false⟩

/-- `rollback`, which expires every object that was loaded. -/
def rollback (s : Session δ) : Session δ := ⟨s.persisted, s.persisted, true⟩

/-- `commit`, which leaves the objects. -/
def commit (s : Session δ) : Session δ := { s with persisted := s.working }

def load (s : Session δ) : Session δ := { s with expired := false }

/-- Statements. -/
def change (f : δ → δ) (s : Session δ) : Session δ := { s with working := f s.working }

@[simp] theorem persisted_rollback (s : Session δ) : s.rollback.persisted = s.persisted := rfl

@[simp] theorem persisted_commit (s : Session δ) : s.commit.persisted = s.working := rfl

@[simp] theorem working_commit (s : Session δ) : s.commit.working = s.working := rfl

@[simp] theorem persisted_load (s : Session δ) : s.load.persisted = s.persisted := rfl

@[simp] theorem working_load (s : Session δ) : s.load.working = s.working := rfl

@[simp] theorem persisted_change (f : δ → δ) (s : Session δ) :
    (s.change f).persisted = s.persisted := rfl

@[simp] theorem working_change (f : δ → δ) (s : Session δ) :
    (s.change f).working = f s.working := rfl

end Session

def Program (δ ε α : Type) := Session δ → Except ε α × Session δ

namespace Program

variable {δ ε α β : Type}

instance : Monad (Program δ ε) where
  pure a := fun s => (.ok a, s)
  bind x f := fun s =>
    match x s with
    | (.ok a, s') => f a s'
    | (.error e, s') => (.error e, s')

instance : LawfulMonad (Program δ ε) := LawfulMonad.mk' _
  (fun x => funext fun s => by
    show (match x s with
      | (.ok a, s') => (.ok a, s')
      | (.error e, s') => (.error e, s')) = x s
    split <;> next h => exact h.symm)
  (fun _ _ => rfl)
  (fun x f g => funext fun s => by
    show (match (match x s with
      | (.ok a, s') => f a s'
      | (.error e, s') => (.error e, s')) with
      | (.ok b, s') => g b s'
      | (.error e, s') => (.error e, s')) = match x s with
        | (.ok a, s') => (match f a s' with
          | (.ok b, s') => g b s'
          | (.error e, s') => (.error e, s'))
        | (.error e, s') => (.error e, s')
    rcases x s with ⟨_ | _, s'⟩ <;> rfl)

def raise (e : ε) : Program δ ε α := fun s => (.error e, s)

def raiseIf (c : Bool) (e : ε) : Program δ ε Unit := fun s => (if c then .error e else .ok (), s)

/-- A query, which sees the statements of the transaction. -/
def read : Program δ ε δ := fun s => (.ok s.working, s.load)

/-- A statement. -/
def change (f : δ → δ) : Program δ ε Unit := fun s => (.ok (), s.change f)

def commit : Program δ ε Unit := fun s => (.ok (), s.commit)

def rollback : Program δ ε Unit := fun s => (.ok (), s.rollback)

/-- The read of an object that was loaded, which raises after a rollback. -/
def touch (missing : ε) : Program δ ε Unit :=
  fun s => (if s.expired then .error missing else .ok (), s)

/-- `try … except`. -/
def attempt (x : Program δ ε α) (handler : ε → Program δ ε α) : Program δ ε α := fun s =>
  match x s with
  | (.ok a, s') => (.ok a, s')
  | (.error e, s') => handler e s'

section

variable {x : Program δ ε α} {f : α → Program δ ε β} {s s' : Session δ} {a : α} {e : ε}

theorem bind_of_ok (h : x s = (.ok a, s')) : (x >>= f) s = f a s' := by
  show (match x s with
    | (.ok a, s') => f a s'
    | (.error e, s') => (.error e, s')) = f a s'
  rw [h]

theorem bind_of_error (h : x s = (.error e, s')) : (x >>= f) s = (.error e, s') := by
  show (match x s with
    | (.ok a, s') => f a s'
    | (.error e, s') => (.error e, s')) = (.error e, s')
  rw [h]

end

/-- A program as one request: what it has not committed is lost. -/
def run (x : Program δ ε α) (db : δ) : Except ε α × δ :=
  ((x (.start db)).1, (x (.start db)).2.persisted)

end Program

/-- A program that starts with the precondition ends with one of the postconditions, the second
where it raises. -/
def Triple {δ ε α : Type} (pre : Session δ → Prop) (x : Program δ ε α)
    (post : α → Session δ → Prop) (raised : ε → Session δ → Prop) : Prop :=
  ∀ s, pre s → match x s with
    | (.ok a, s') => post a s'
    | (.error e, s') => raised e s'

namespace Triple

open Program

variable {δ ε α β : Type} {pre : Session δ → Prop} {x : Program δ ε α}
  {post : α → Session δ → Prop} {raised : ε → Session δ → Prop}

theorem pure {a : α} (h : ∀ s, pre s → post a s) :
    Triple pre (Pure.pure a : Program δ ε α) post raised := h

theorem raise {e : ε} (h : ∀ s, pre s → raised e s) :
    Triple pre (Program.raise e : Program δ ε α) post raised := h

theorem raiseIf {c : Bool} {e : ε} (h : ∀ s, pre s → raised e s) :
    Triple pre (Program.raiseIf c e) (fun _ s => pre s ∧ c = false) raised := by
  intro s hs
  cases c with
  | false => exact ⟨hs, rfl⟩
  | true => exact h s hs

theorem read {post : δ → Session δ → Prop} (h : ∀ s, pre s → post s.working s.load) :
    Triple pre Program.read post raised := h

theorem change {f : δ → δ} {post : Unit → Session δ → Prop}
    (h : ∀ s, pre s → post () (s.change f)) : Triple pre (Program.change f) post raised := h

theorem commit {post : Unit → Session δ → Prop} (h : ∀ s, pre s → post () s.commit) :
    Triple pre Program.commit post raised := h

theorem rollback {post : Unit → Session δ → Prop} (h : ∀ s, pre s → post () s.rollback) :
    Triple pre Program.rollback post raised := h

theorem bind (mid : α → Session δ → Prop) {f : α → Program δ ε β} {post : β → Session δ → Prop}
    (hx : Triple pre x mid raised) (hf : ∀ a, Triple (mid a) (f a) post raised) :
    Triple pre (x >>= f) post raised := by
  intro s hs
  have hmid := hx s hs
  show match (match x s with
    | (.ok a, s') => f a s'
    | (.error e, s') => (.error e, s')) with
    | (.ok b, s') => post b s'
    | (.error e, s') => raised e s'
  cases hxs : x s with
  | mk result s' =>
    rw [hxs] at hmid
    cases result with
    | ok a => exact hf a s' hmid
    | error e => exact hmid

theorem consequence {pre' : Session δ → Prop} {post' : α → Session δ → Prop}
    {raised' : ε → Session δ → Prop} (h : Triple pre' x post' raised')
    (hpre : ∀ s, pre s → pre' s) (hpost : ∀ a s, post' a s → post a s)
    (hraised : ∀ e s, raised' e s → raised e s) : Triple pre x post raised := by
  intro s hs
  have hmid := h s (hpre s hs)
  cases hxs : x s with
  | mk result s' =>
    rw [hxs] at hmid
    cases result with
    | ok a => exact hpost a s' hmid
    | error e => exact hraised e s' hmid

theorem pull {fact : Prop} (h : fact → Triple pre x post raised) :
    Triple (fun s => pre s ∧ fact) x post raised := fun s hs => h hs.2 s hs.1

theorem run {db : δ} (h : Triple (· = .start db) x post raised) :
    (∀ a db', x.run db = (.ok a, db') → ∃ s, s.persisted = db' ∧ post a s) ∧
      ∀ e db', x.run db = (.error e, db') → ∃ s, s.persisted = db' ∧ raised e s := by
  have hmid := h (.start db) rfl
  unfold Program.run
  cases hxs : x (.start db) with
  | mk result s' =>
    rw [hxs] at hmid
    cases result with
    | ok a =>
      constructor
      · rintro a' db' heq
        cases heq
        exact ⟨s', rfl, hmid⟩
      · rintro e db' heq
        cases heq
    | error e =>
      constructor
      · rintro a db' heq
        cases heq
      · rintro e' db' heq
        cases heq
        exact ⟨s', rfl, hmid⟩

end Triple

end Trackpal.Foundation
