import Mathlib.Logic.Function.Basic
import Mathlib.Order.Lattice
import Mathlib.Order.BoundedOrder.Basic

/-!
# A key-value store whose keys expire

Every key holds a value and the instant at which the key disappears. A read at
or after that instant finds nothing. The operations are the ones of a shared
cache: an unconditional write, a write that succeeds only on an absent key, a
delete and a read, which may delete what has expired.

Results:
1. `SameReads.setNX`: stores that no read tells apart stay so, and answer alike.
2. `bounded_setKeepTtl`: a write that keeps the expiry of its key needs a live key.
-/

namespace Trackpal.Foundation

/-- What each key holds: a value and the instant at which it disappears. -/
abbrev ExpiringStore (κ ν τ : Type*) := κ → Option (ν × τ)

namespace ExpiringStore

variable {κ ν τ : Type*} [LinearOrder τ]

/-- The store without keys. -/
def empty : ExpiringStore κ ν τ := fun _ => none

/-- Read a key. -/
def get (s : ExpiringStore κ ν τ) (now : τ) (k : κ) : Option ν :=
  match s k with
  | some (v, e) => if now < e then some v else none
  | none => none

section
variable [DecidableEq κ]

/-- Write a key, whatever it holds. -/
def set (s : ExpiringStore κ ν τ) (k : κ) (v : ν) (expiry : τ) : ExpiringStore κ ν τ :=
  Function.update s k (some (v, expiry))

/-- Delete a key. -/
def del (s : ExpiringStore κ ν τ) (k : κ) : ExpiringStore κ ν τ :=
  Function.update s k none

/-- Delete a key that has expired. -/
def evict (s : ExpiringStore κ ν τ) (now : τ) (k : κ) : ExpiringStore κ ν τ :=
  if (s.get now k).isSome then s else s.del k

/-- Write a key only if it is absent. Returns the store and whether it wrote. -/
def setNX (s : ExpiringStore κ ν τ) (now : τ) (k : κ) (v : ν) (expiry : τ) :
    ExpiringStore κ ν τ × Bool :=
  if (s.get now k).isSome then (s, false) else (s.set k v expiry, true)

end

variable {s : ExpiringStore κ ν τ} {now now' : τ} {k k' : κ} {v v' : ν} {expiry : τ}

theorem get_eq_some_iff : s.get now k = some v ↔ ∃ e, s k = some (v, e) ∧ now < e := by
  unfold get
  split
  · next v' e h =>
    simp only [h, Option.some.injEq, Prod.mk.injEq]
    constructor
    · intro hv
      split at hv
      · next hlt => exact ⟨e, ⟨Option.some.inj hv, rfl⟩, hlt⟩
      · cases hv
    · rintro ⟨e', ⟨rfl, rfl⟩, hlt⟩
      rw [if_pos hlt]
  · next h => simp [h]

/-- A key read later was already there: time alone never brings a key back. -/
theorem get_eq_some_of_le (h : s.get now' k = some v) (hle : now ≤ now') :
    s.get now k = some v := by
  obtain ⟨e, hk, hlt⟩ := get_eq_some_iff.mp h
  exact get_eq_some_iff.mpr ⟨e, hk, lt_of_le_of_lt hle hlt⟩

variable [DecidableEq κ]

@[simp] theorem get_set_self :
    (s.set k v expiry).get now k = if now < expiry then some v else none := by
  simp [get, set]

@[simp] theorem get_set_of_ne (h : k' ≠ k) : (s.set k v expiry).get now k' = s.get now k' := by
  simp [get, set, Function.update_of_ne h]

@[simp] theorem get_del_self : (s.del k).get now k = none := by
  simp [get, del]

@[simp] theorem get_del_of_ne (h : k' ≠ k) : (s.del k).get now k' = s.get now k' := by
  simp [get, del, Function.update_of_ne h]

/-- Deleting an expired key changes no later read. -/
theorem get_evict (hle : now ≤ now') : (s.evict now k).get now' k' = s.get now' k' := by
  unfold evict
  split
  · rfl
  · next hk =>
    rcases eq_or_ne k' k with rfl | hne
    · rw [get_del_self]
      cases hg : s.get now' k' with
      | none => rfl
      | some v => simp [get_eq_some_of_le hg hle] at hk
    · exact get_del_of_ne hne

theorem setNX_snd : (s.setNX now k v expiry).2 = (s.get now k).isNone := by
  unfold setNX
  cases h : s.get now k <;> simp

/-- A conditional write that succeeds is read back until its expiry. -/
theorem get_setNX_of_absent (h : (s.setNX now k v expiry).2 = true) (hlt : now' < expiry) :
    (s.setNX now k v expiry).1.get now' k = some v := by
  unfold setNX at h ⊢
  cases hg : s.get now k with
  | some v' => simp [hg] at h
  | none => simp [hlt]

/-- A conditional write never disturbs what a later read would find. -/
theorem get_setNX_of_live (h : s.get now' k' = some v') (hle : now ≤ now') :
    (s.setNX now k v expiry).1.get now' k' = some v' := by
  unfold setNX
  split
  · exact h
  · next hk =>
    rcases eq_or_ne k' k with rfl | hne
    · rw [get_eq_some_of_le h hle] at hk
      simp at hk
    · rw [get_set_of_ne hne]
      exact h

/-! ## Stores that no later read tells apart -/

/-- From `now` on, every read finds the same in both stores. -/
def SameReads (now : τ) (s₁ s₂ : ExpiringStore κ ν τ) : Prop :=
  ∀ t, now ≤ t → ∀ k, s₁.get t k = s₂.get t k

namespace SameReads

variable {s₁ s₂ : ExpiringStore κ ν τ}

omit [DecidableEq κ] in
theorem mono (h : SameReads now s₁ s₂) (hle : now ≤ now') : SameReads now' s₁ s₂ :=
  fun t ht => h t (hle.trans ht)

theorem set (h : SameReads now s₁ s₂) : SameReads now (s₁.set k v expiry) (s₂.set k v expiry) := by
  intro t ht k'
  rcases eq_or_ne k' k with rfl | hne
  · simp
  · rw [get_set_of_ne hne, get_set_of_ne hne]
    exact h t ht k'

theorem del (h : SameReads now s₁ s₂) : SameReads now (s₁.del k) (s₂.del k) := by
  intro t ht k'
  rcases eq_or_ne k' k with rfl | hne
  · simp
  · rw [get_del_of_ne hne, get_del_of_ne hne]
    exact h t ht k'

theorem evict (h : SameReads now s₁ s₂) : SameReads now s₁ (s₂.evict now k) := by
  intro t ht k'
  rw [get_evict ht]
  exact h t ht k'

theorem setNX (h : SameReads now s₁ s₂) :
    (s₁.setNX now k v expiry).2 = (s₂.setNX now k v expiry).2 ∧
      SameReads now (s₁.setNX now k v expiry).1 (s₂.setNX now k v expiry).1 := by
  unfold ExpiringStore.setNX
  rw [h now le_rfl k]
  split
  · exact ⟨rfl, h⟩
  · exact ⟨rfl, h.set⟩

end SameReads

/-! ## Writes that keep the expiry -/

section
variable [OrderTop τ]

/-- Write a key and keep its expiry. A key that is absent never expires then. -/
def setKeepTtl (s : ExpiringStore κ ν τ) (now : τ) (k : κ) (v : ν) : ExpiringStore κ ν τ :=
  match s k with
  | some (_, e) => if now < e then s.set k v e else s.set k v ⊤
  | none => s.set k v ⊤

end

/-- No key expires after its limit. -/
def Bounded (s : ExpiringStore κ ν τ) (limit : κ → τ) : Prop :=
  ∀ k v e, s k = some (v, e) → e ≤ limit k

variable {limit limit' : κ → τ}

omit [DecidableEq κ] in
theorem bounded_empty : (empty : ExpiringStore κ ν τ).Bounded limit := fun _ _ _ h => nomatch h

omit [DecidableEq κ] in
theorem Bounded.mono (h : s.Bounded limit) (hle : ∀ k, limit k ≤ limit' k) : s.Bounded limit' :=
  fun k v e hk => (h k v e hk).trans (hle k)

theorem bounded_del (h : s.Bounded limit) : (s.del k).Bounded limit := by
  intro k' v e hk'
  unfold del at hk'
  rw [Function.update_apply] at hk'
  split at hk'
  · cases hk'
  · exact h k' v e hk'

theorem bounded_set (h : s.Bounded limit) : (s.set k v expiry).Bounded limit ↔ expiry ≤ limit k := by
  unfold set
  constructor
  · intro hset
    exact hset k v expiry (Function.update_self k _ s)
  · intro hle k' v' e hk'
    rw [Function.update_apply] at hk'
    split at hk'
    · next hk =>
      cases hk'
      exact hk ▸ hle
    · exact h k' v' e hk'

theorem bounded_setKeepTtl [OrderTop τ] (h : s.Bounded limit) (hlimit : limit k < ⊤) :
    (s.setKeepTtl now k v).Bounded limit ↔ (s.get now k).isSome = true := by
  unfold setKeepTtl get
  cases hk : s k with
  | none => exact iff_of_false (fun hset => hlimit.not_ge ((bounded_set h).mp hset)) Bool.false_ne_true
  | some entry =>
    obtain ⟨v', e⟩ := entry
    dsimp only
    by_cases hlive : now < e
    · rw [if_pos hlive, if_pos hlive]
      exact iff_of_true ((bounded_set h).mpr (h k v' e hk)) rfl
    · rw [if_neg hlive, if_neg hlive]
      exact iff_of_false (fun hset => hlimit.not_ge ((bounded_set h).mp hset)) Bool.false_ne_true

end ExpiringStore

end Trackpal.Foundation
