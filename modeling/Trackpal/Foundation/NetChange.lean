import Mathlib.Logic.Basic

/-!
# Net-change writes

A session that loads a row, assigns to its columns and commits writes only the
columns whose final value differs from the loaded one. The other columns of the
stored row keep whatever another transaction put there in between.

Results:
1. `netChange_of_eq`, `netChange_of_ne`: which of the two values a column has
   after the commit.
2. `netChange_cases`: the column is written, or it keeps what is stored.
-/

namespace Trackpal.Foundation

variable {α : Type*} [DecidableEq α] {loaded held stored : α}

/-- The value of a column after the commit of a session that loaded `loaded` and
holds `held`, over the stored value. -/
def netChange (loaded held stored : α) : α :=
  if held = loaded then stored else held

theorem netChange_of_eq (h : held = loaded) : netChange loaded held stored = stored := if_pos h

theorem netChange_of_ne (h : held ≠ loaded) : netChange loaded held stored = held := if_neg h

@[simp] theorem netChange_stored : netChange loaded held loaded = held := by
  unfold netChange
  split
  · next h => exact h.symm
  · rfl

theorem netChange_cases (loaded held stored : α) :
    (held = loaded ∧ netChange loaded held stored = stored) ∨
      (held ≠ loaded ∧ netChange loaded held stored = held) := by
  by_cases h : held = loaded
  · exact .inl ⟨h, netChange_of_eq h⟩
  · exact .inr ⟨h, netChange_of_ne h⟩

end Trackpal.Foundation
