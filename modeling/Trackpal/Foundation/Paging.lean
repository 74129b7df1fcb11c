import Mathlib.Data.List.Basic
import Mathlib.Data.List.Range
import Mathlib.Algebra.Order.Floor.Div
import Mathlib.Tactic.Ring

/-!
# Pages of a list

A list is shown in pages of a fixed size, counted from 0.

Result:
* `mem_page_iff`: where an element of a page stands.
-/

namespace Trackpal.Foundation

variable {α : Type*} {size n : Nat} {l : List α}

def page (size : Nat) (l : List α) (n : Nat) : List α := (l.drop (n * size)).take size

/-- How many pages a list has. -/
def pageCount (size : Nat) (l : List α) : Nat := (l.length + size - 1) / size

namespace PagingLemmas

theorem getElem?_page {i : Nat} (h : i < size) : (page size l n)[i]? = l[n * size + i]? := by
  unfold page
  rw [List.getElem?_take_of_lt h, List.getElem?_drop]

end PagingLemmas

open PagingLemmas

theorem lt_pageCount (hsize : 0 < size) : n < pageCount size l ↔ n * size < l.length := by
  unfold pageCount
  rw [Nat.lt_iff_add_one_le, Nat.le_div_iff_mul_le hsize, Nat.add_mul]
  omega

theorem pageCount_le_one (hsize : 0 < size) : pageCount size l ≤ 1 ↔ l.length ≤ size := by
  have h : 1 < pageCount size l ↔ 1 * size < l.length := lt_pageCount hsize
  omega

theorem mem_page_iff {i : Nat} {a : α} :
    (page size l n)[i]? = some a ↔ i < size ∧ l[n * size + i]? = some a := by
  by_cases h : i < size
  · rw [getElem?_page h]
    simp only [h, true_and]
  · have hlong : (page size l n).length ≤ i := by
      unfold page
      rw [List.length_take]
      omega
    rw [List.getElem?_eq_none hlong]
    simp only [h, false_and, reduceCtorEq]

end Trackpal.Foundation
