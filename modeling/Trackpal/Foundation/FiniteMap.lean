import Mathlib.Data.Finset.Card
import Mathlib.Data.Set.Card
import Mathlib.Data.Finset.Option

/-!
# Finite maps that can be counted

A map with finitely many keys, which knows its keys. It is a dictionary, or a
sorted set whose values are the scores. The operations are the ones whose effect
on the number of keys matters: write, delete, and drop the values that fail a test.

Results:
1. `get_put_self`, `get_put_of_ne`, `get_erase_self`, `get_erase_of_ne`,
   `get_keep`: what each operation leaves under a key.
2. `size_keep`: how many keys pass a test.
-/

namespace Trackpal.Foundation

structure FiniteMap (κ ν : Type*) where
  keys : Finset κ
  get : κ → Option ν
  mem_keys : ∀ k, k ∈ keys ↔ (get k).isSome = true

namespace FiniteMap

variable {κ ν : Type*}

/-- The map without keys. -/
def empty : FiniteMap κ ν := ⟨∅, fun _ => none, by simp⟩

/-- The number of keys. -/
def size (m : FiniteMap κ ν) : Nat := m.keys.card

/-- Drop the keys whose value fails the test. -/
def keep (m : FiniteMap κ ν) (p : ν → Bool) : FiniteMap κ ν where
  keys := m.keys.filter fun k => (m.get k).any p
  get k := (m.get k).filter p
  mem_keys k := by
    rw [Finset.mem_filter, m.mem_keys]
    cases m.get k with
    | none => simp
    | some v => cases hp : p v <;> simp [Option.filter, hp]

variable [DecidableEq κ]

/-- Write a key, whatever it holds. -/
def put (m : FiniteMap κ ν) (k : κ) (v : ν) : FiniteMap κ ν where
  keys := insert k m.keys
  get := Function.update m.get k (some v)
  mem_keys k' := by
    rw [Finset.mem_insert, m.mem_keys]
    rcases eq_or_ne k' k with rfl | hne
    · simp
    · simp [hne]

/-- Delete a key. -/
def erase (m : FiniteMap κ ν) (k : κ) : FiniteMap κ ν where
  keys := m.keys.erase k
  get := Function.update m.get k none
  mem_keys k' := by
    rw [Finset.mem_erase, m.mem_keys]
    rcases eq_or_ne k' k with rfl | hne
    · simp
    · simp [hne]

variable {m : FiniteMap κ ν} {k k' : κ} {v : ν} {p : ν → Bool}

omit [DecidableEq κ] in
@[simp] theorem get_empty : (empty : FiniteMap κ ν).get k = none := rfl

@[simp] theorem get_put_self : (m.put k v).get k = some v := Function.update_self _ _ _

@[simp] theorem get_put_of_ne (h : k' ≠ k) : (m.put k v).get k' = m.get k' :=
  Function.update_of_ne h _ _

@[simp] theorem get_erase_self : (m.erase k).get k = none := Function.update_self _ _ _

@[simp] theorem get_erase_of_ne (h : k' ≠ k) : (m.erase k).get k' = m.get k' :=
  Function.update_of_ne h _ _

omit [DecidableEq κ] in
@[simp] theorem get_keep : (m.keep p).get k = (m.get k).filter p := rfl

omit [DecidableEq κ] in
theorem size_keep : {k | ∃ v, m.get k = some v ∧ p v = true}.encard = (m.keep p).size := by
  have hkeys : {k | ∃ v, m.get k = some v ∧ p v = true} = ↑(m.keep p).keys := by
    ext k
    rw [Finset.mem_coe, (m.keep p).mem_keys, get_keep]
    cases hk : m.get k with
    | none => simp [hk]
    | some v => cases hp : p v <;> simp [hk, hp, Option.filter]
  rw [hkeys, Set.encard_coe_eq_coe_finsetCard, size]

end FiniteMap

end Trackpal.Foundation
