import Trackpal.Protocol.Wire
import Mathlib.Data.List.MinMax
import Mathlib.Data.Prod.Lex
import Mathlib.Data.Rat.Cast.Order
import Mathlib.Order.WithBot

/-!
# The choice of an executor

`selector.py`. The load of an executor is an exact quotient here, where the code
divides in floating point.

Results:
1. `selectExecutor_eq_some`: the chosen executor is a candidate with room.
-/

namespace Trackpal.Coordinator

open Trackpal.Protocol

structure ExecutorCapacity (K : Type*) where
  executorId : UUID
  activeLeases : Nat
  maxConcurrency : Nat
  lastSelectedAt : Option K
deriving DecidableEq, Repr

namespace ExecutorCapacity

variable {K : Type*}

/-- The executor may take one more lease, going by the snapshot. -/
def eligible (item : ExecutorCapacity K) : Bool :=
  0 < item.maxConcurrency ∧ item.activeLeases < item.maxConcurrency

/-- The load, the last selection, and the text of the id, which orders ids as their
numbers. An executor that was never selected comes first. -/
def sortKey (item : ExecutorCapacity K) : ℚ ×ₗ WithBot K ×ₗ Nat :=
  toLex (item.activeLeases / item.maxConcurrency,
    toLex ((item.lastSelectedAt : WithBot K), item.executorId.int))

end ExecutorCapacity

variable {K : Type*} [LinearOrder K]

/-- `select_executor`: the first of the least loaded candidates. -/
def selectExecutor (candidates : List (ExecutorCapacity K)) : Option (ExecutorCapacity K) :=
  (candidates.filter ExecutorCapacity.eligible).argmin ExecutorCapacity.sortKey

variable {candidates : List (ExecutorCapacity K)} {selected : ExecutorCapacity K}

theorem selectExecutor_eq_some (h : selectExecutor candidates = some selected) :
    selected ∈ candidates ∧ selected.activeLeases < selected.maxConcurrency := by
  have hmem : selected ∈ candidates.filter ExecutorCapacity.eligible := List.argmin_mem h
  obtain ⟨hcandidate, heligible⟩ := List.mem_filter.mp hmem
  exact ⟨hcandidate, (of_decide_eq_true heligible).2⟩

/-- Of two executors with one lease of two, the one selected longer ago is chosen. -/
example : selectExecutor [⟨⟨1⟩, 1, 2, some 5⟩, ⟨⟨2⟩, 2, 4, some (3 : ℚ)⟩, ⟨⟨3⟩, 1, 1, none⟩] =
    some ⟨⟨2⟩, 2, 4, some 3⟩ := by
  decide +kernel

end Trackpal.Coordinator
