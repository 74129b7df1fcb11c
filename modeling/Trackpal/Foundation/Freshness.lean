import Mathlib.Data.List.Perm.Basic
import Mathlib.Logic.Function.Basic

/-!
# The age of cached answers

A cache keeps for each resource the answer to some call. The ledger of a cache notes when that call
was started and as of when its answer stands, next to the two moments that an answer may be too old
for: the last time the whole cache was cleared, and the last change of the resource.

Results:
1. `Ledger.fresh_drop`, `Ledger.fresh_renew`, `Ledger.fresh_clear`: what the operations leave
   fresh.
2. `countP_eraseIdx_eq_zero`: where one request is in flight at a time, its answer leaves none.
-/

namespace Trackpal.Foundation

/-- The call that an answer is from, and the moment as of which the answer stands. -/
structure Stamp where
  since : Nat
  asOf : Nat
deriving DecidableEq, Repr

/-- Moments are numbers of calls: `now` is how many were started so far. -/
structure Ledger (ρ : Type*) where
  now : Nat
  clearedAt : Nat
  changedAt : ρ → Nat
  held : ρ → Option Stamp

variable {ρ : Type*}

namespace Ledger

def initial : Ledger ρ := ⟨0, 0, fun _ => 0, fun _ => none⟩

/-- A call is started. -/
def tick (l : Ledger ρ) : Ledger ρ := { l with now := l.now + 1 }

/-- The resources `rs` are dropped from the cache, as something has changed them. -/
def drop (l : Ledger ρ) (rs : ρ → Bool) : Ledger ρ :=
  { l with changedAt := fun r => if rs r then l.now else l.changedAt r
           held := fun r => if rs r then none else l.held r }

/-- Everything is dropped. -/
def clear (l : Ledger ρ) : Ledger ρ := { l with clearedAt := l.now, held := fun _ => none }

variable [DecidableEq ρ]

/-- The answer to a call is kept. -/
def store (l : Ledger ρ) (r : ρ) (stamp : Stamp) : Ledger ρ :=
  { l with held := Function.update l.held r (some stamp) }

/-- The call started at `since` has changed the resource, and its answer is kept. -/
def renew (l : Ledger ρ) (r : ρ) (since : Nat) : Ledger ρ :=
  { l with changedAt := Function.update l.changedAt r l.now
           held := Function.update l.held r (some ⟨since, l.now⟩) }

omit [DecidableEq ρ] in
/-- An answer for the resource would not be too old. -/
def Admits (l : Ledger ρ) (r : ρ) (stamp : Stamp) : Prop :=
  l.clearedAt ≤ stamp.since ∧ l.changedAt r ≤ stamp.asOf

/-- No answer in the cache is too old. -/
def Fresh (l : Ledger ρ) : Prop := ∀ r stamp, l.held r = some stamp → l.Admits r stamp

variable {l : Ledger ρ} {r : ρ} {rs : ρ → Bool} {stamp : Stamp} {since : Nat}

omit [DecidableEq ρ] in
theorem fresh_initial : (initial : Ledger ρ).Fresh := fun _ _ h => nomatch h

omit [DecidableEq ρ] in

omit [DecidableEq ρ] in
theorem fresh_drop (h : l.Fresh) : (l.drop rs).Fresh := by
  intro r stamp hheld
  unfold drop at hheld
  dsimp only at hheld
  split at hheld
  · cases hheld
  · next hr =>
    refine ⟨(h r stamp hheld).1, ?_⟩
    unfold drop
    dsimp only
    rw [if_neg hr]
    exact (h r stamp hheld).2

omit [DecidableEq ρ] in
theorem fresh_clear : l.clear.Fresh := fun _ _ h => nomatch h

theorem held_store {r' : ρ} :
    (l.store r stamp).held r' = if r' = r then some stamp else l.held r' :=
  Function.update_apply l.held r (some stamp) r'

theorem held_renew {r' : ρ} :
    (l.renew r since).held r' = if r' = r then some ⟨since, l.now⟩ else l.held r' :=
  Function.update_apply l.held r (some ⟨since, l.now⟩) r'

theorem changedAt_renew {r' : ρ} :
    (l.renew r since).changedAt r' = if r' = r then l.now else l.changedAt r' :=
  Function.update_apply l.changedAt r l.now r'

theorem fresh_store (h : l.Fresh) : (l.store r stamp).Fresh ↔ l.Admits r stamp := by
  constructor
  · intro hfresh
    exact hfresh r stamp (by rw [held_store, if_pos rfl])
  · intro hadmits r' stamp' hheld
    rw [held_store] at hheld
    split at hheld
    · next hr =>
      rw [hr, ← Option.some.inj hheld]
      exact hadmits
    · exact h r' stamp' hheld

theorem fresh_renew (h : l.Fresh) : (l.renew r since).Fresh ↔ l.clearedAt ≤ since := by
  constructor
  · intro hfresh
    exact (hfresh r ⟨since, l.now⟩ (by rw [held_renew, if_pos rfl])).1
  · intro hsince r' stamp' hheld
    unfold Admits
    rw [held_renew] at hheld
    rw [changedAt_renew]
    split at hheld
    · next hr =>
      rw [if_pos hr, ← Option.some.inj hheld]
      exact ⟨hsince, Nat.le_refl _⟩
    · next hr =>
      rw [if_neg hr]
      exact h r' stamp' hheld

end Ledger

/-! ## One request at a time -/

variable {φ : Type*} {p : φ → Bool} {flights : List φ} {flight : φ} {i : Nat}

theorem countP_eraseIdx_eq_zero (h : flights[i]? = some flight) (hp : p flight = true)
    (hsingle : flights.countP p ≤ 1) : (flights.eraseIdx i).countP p = 0 := by
  obtain ⟨hi, hget⟩ := List.getElem?_eq_some_iff.mp h
  have hperm := List.getElem_cons_eraseIdx_perm hi
  rw [← hperm.countP_eq, hget, List.countP_cons, if_pos hp] at hsingle
  omega

theorem countP_eraseIdx_le : (flights.eraseIdx i).countP p ≤ flights.countP p :=
  (List.eraseIdx_sublist flights i).countP_le

end Trackpal.Foundation
