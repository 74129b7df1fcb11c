import Mathlib.Data.List.Sort

/-!
# Searching a list through a stable sort

A stable sort commutes with a filter, so an element can be dropped before the
sort or after it. A program that sorts a list with its indices, takes the first
element that has a result, and pops that index from the list, works through the
sorted list from left to right.

Results:
1. `firstHit_eq_none`: without a hit, no element of the sorted list has a result.
2. `firstHit_eq_some`: the index of a hit is that of its element, and popping it leaves the sorted
   list without that element.
-/

namespace Trackpal.Foundation

universe u

variable {α : Type u} {le : α → α → Bool}

/-- A sorted list with an element in it has the elements that do not come after it on
the left, if the left side holds no other. -/
theorem left_eq_takeWhile {a : α} {left right : List α}
    (hleft : ∀ b ∈ left, !le a b) (hright : ∀ b ∈ right, le a b) :
    left = (left ++ right).takeWhile (!le a ·) := by
  rw [List.takeWhile_append_of_pos (by simpa using hleft)]
  cases right with
  | nil => simp
  | cons b right => simp [hright b List.mem_cons_self]

theorem split_unique {a : α} {left right left' right' : List α}
    (h : left ++ right = left' ++ right')
    (hleft : ∀ b ∈ left, !le a b) (hright : ∀ b ∈ right, le a b)
    (hleft' : ∀ b ∈ left', !le a b) (hright' : ∀ b ∈ right', le a b) :
    left = left' ∧ right = right' := by
  have heq : left = left' := by
    rw [left_eq_takeWhile hleft hright, left_eq_takeWhile hleft' hright', h]
  subst heq
  exact ⟨rfl, List.append_cancel_left h⟩

theorem mergeSort_cons_split (htrans : ∀ a b c, le a b → le b c → le a c)
    (htotal : ∀ a b, le a b || le b a) (a : α) (l : List α) :
    ∃ left right, (a :: l).mergeSort le = left ++ a :: right ∧ l.mergeSort le = left ++ right ∧
      (∀ b ∈ left, !le a b) ∧ ∀ b ∈ right, le a b := by
  obtain ⟨left, right, hsort, hrest, hleft⟩ := List.mergeSort_cons htrans htotal a l
  have hsorted := List.pairwise_mergeSort htrans htotal (a :: l)
  rw [hsort] at hsorted
  have htail := (List.pairwise_append.mp hsorted).2.1
  exact ⟨left, right, hsort, hrest, hleft, (List.pairwise_cons.mp htail).1⟩

theorem mergeSort_filter (htrans : ∀ a b c, le a b → le b c → le a c)
    (htotal : ∀ a b, le a b || le b a) (p : α → Bool) (l : List α) :
    (l.filter p).mergeSort le = (l.mergeSort le).filter p := by
  induction l with
  | nil => simp
  | cons a l ih =>
    obtain ⟨left, right, hsort, hrest, hleft, hright⟩ := mergeSort_cons_split htrans htotal a l
    rw [hrest, List.filter_append] at ih
    rw [hsort, List.filter_append]
    cases hp : p a with
    | false =>
      rw [List.filter_cons_of_neg (by simp [hp]), List.filter_cons_of_neg (by simp [hp])]
      exact ih
    | true =>
      rw [List.filter_cons_of_pos hp, List.filter_cons_of_pos hp]
      obtain ⟨left', right', hsort', hrest', hleft', hright'⟩ :=
        mergeSort_cons_split htrans htotal a (l.filter p)
      rw [hrest'] at ih
      -- `a` splits the same sorted list both times
      obtain ⟨rfl, rfl⟩ := split_unique ih hleft' hright'
        (fun b hb => hleft b (List.mem_of_mem_filter hb))
        (fun b hb => hright b (List.mem_of_mem_filter hb))
      exact hsort'

theorem mergeSort_filter_of_eq (htrans : ∀ a b c, le a b → le b c → le a c)
    (htotal : ∀ a b, le a b || le b a) {p : α → Bool} {l left right : List α} {a : α}
    (hsort : l.mergeSort le = left ++ a :: right) (ha : p a = false)
    (hleft : ∀ b ∈ left, p b) (hright : ∀ b ∈ right, p b) :
    (l.filter p).mergeSort le = left ++ right := by
  rw [mergeSort_filter htrans htotal, hsort, List.filter_append,
    List.filter_cons_of_neg (by simp [ha]), List.filter_eq_self.mpr hleft,
    List.filter_eq_self.mpr hright]

/-! ## The first hit, with its index -/

theorem eraseIdx_eq_filter_zipIdx (l : List α) (start i : Nat) :
    ((l.zipIdx start).filter (·.2 ≠ start + i)).map Prod.fst = l.eraseIdx i := by
  induction l generalizing start i with
  | nil => rfl
  | cons a l ih =>
    rw [List.zipIdx_cons]
    cases i with
    | zero =>
      rw [List.filter_cons_of_neg (by simp), List.eraseIdx_cons_zero]
      have hkeep : (l.zipIdx (start + 1)).filter (·.2 ≠ start + 0) = l.zipIdx (start + 1) := by
        refine List.filter_eq_self.mpr fun entry hentry => ?_
        have hstart := (List.mem_zipIdx hentry).1
        simp only [ne_eq, decide_eq_true_eq]
        omega
      rw [hkeep, List.zipIdx_map_fst]
    | succ i =>
      rw [List.filter_cons_of_pos (by simp), List.map_cons, List.eraseIdx_cons_succ,
        ← ih (start + 1) i, show start + (i + 1) = start + 1 + i by omega]

section
variable {β : Type*} (keep : α → Bool) (le : α → α → Bool) (f : α → Option β)

def sortedEntries (l : List α) : List (α × Nat) :=
  (l.zipIdx.filter fun entry => keep entry.1).mergeSort fun a b => le a.1 b.1

/-- The first element in the order of the sort that has a result: the result and the
index in the list. -/
def firstHit (l : List α) : Option (β × Nat) :=
  (sortedEntries keep le l).findSome? fun entry => (f entry.1).map (·, entry.2)

variable {keep le f} {l : List α}

theorem map_fst_sortedEntries :
    (sortedEntries keep le l).map Prod.fst = (l.filter keep).mergeSort le := by
  rw [sortedEntries, List.map_mergeSort (s := le) (fun _ _ _ _ => rfl)]
  congr 1
  rw [show (fun entry : α × Nat => keep entry.1) = keep ∘ Prod.fst from rfl, ← List.filter_map,
    List.zipIdx_map_fst]

theorem nodup_sortedEntries : ((sortedEntries keep le l).map Prod.snd).Nodup := by
  have hperm : (sortedEntries keep le l).Perm (l.zipIdx.filter fun entry => keep entry.1) :=
    List.mergeSort_perm _ _
  rw [(hperm.map Prod.snd).nodup_iff]
  refine List.Nodup.sublist (List.filter_sublist.map Prod.snd) ?_
  rw [List.zipIdx_map_snd]
  exact List.nodup_range'

theorem firstHit_map {γ : Type u} (view : γ → α) (l : List γ) :
    firstHit keep le f (l.map view) =
      firstHit (keep ∘ view) (fun a b => le (view a) (view b)) (f ∘ view) l := by
  have hentries : sortedEntries keep le (l.map view) =
      (sortedEntries (keep ∘ view) (fun a b => le (view a) (view b)) l).map (Prod.map view id) := by
    unfold sortedEntries
    rw [List.zipIdx_map, List.filter_map]
    symm
    apply List.map_mergeSort
    intro a _ b _
    rfl
  rw [firstHit, hentries, List.findSome?_map]
  rfl

theorem firstHit_eq_none (h : firstHit keep le f l = none) :
    ∀ a ∈ (l.filter keep).mergeSort le, f a = none := by
  intro a ha
  rw [← map_fst_sortedEntries] at ha
  obtain ⟨entry, hentry, rfl⟩ := List.mem_map.mp ha
  simpa using List.findSome?_eq_none_iff.mp h entry hentry

theorem firstHit_eq_some (htrans : ∀ a b c, le a b → le b c → le a c)
    (htotal : ∀ a b, le a b || le b a) {b : β} {i : Nat}
    (h : firstHit keep le f l = some (b, i)) :
    ∃ before a after, (l.filter keep).mergeSort le = before ++ a :: after ∧ l[i]? = some a ∧
      f a = some b ∧ (∀ x ∈ before, f x = none) ∧
      ((l.eraseIdx i).filter keep).mergeSort le = before ++ after := by
  obtain ⟨before, ⟨a, j⟩, after, hsort, hhit, hbefore⟩ := List.findSome?_eq_some_iff.mp h
  obtain ⟨hresult, rfl⟩ : f a = some b ∧ j = i := by
    simpa [Option.map_eq_some_iff] using hhit
  refine ⟨before.map Prod.fst, a, after.map Prod.fst, ?_, ?_, hresult, ?_, ?_⟩
  · rw [← map_fst_sortedEntries, hsort, List.map_append, List.map_cons]
  · have hentry : (a, j) ∈ sortedEntries keep le l := by
      rw [hsort]
      exact List.mem_append_right before List.mem_cons_self
    have hmem := List.mem_of_mem_filter (List.mem_mergeSort.mp hentry)
    simpa using List.mem_zipIdx_iff_getElem?.mp hmem
  · intro x hx
    obtain ⟨entry, hentry, rfl⟩ := List.mem_map.mp hx
    simpa using hbefore entry hentry
  -- no other entry of the sorted list carries the index of the hit
  have hnodup := @nodup_sortedEntries α keep le l
  rw [hsort, List.map_append, List.map_cons, List.nodup_middle, List.nodup_cons] at hnodup
  have hother : ∀ entry ∈ before ++ after, entry.2 ≠ j := by
    intro entry hentry hj
    refine hnodup.1 ?_
    rw [← List.map_append]
    exact List.mem_map.mpr ⟨entry, hentry, hj⟩
  have hpopped : (((l.zipIdx.filter (·.2 ≠ 0 + j)).filter fun entry => keep entry.1).mergeSort
      fun a b => le a.1 b.1) = before ++ after := by
    rw [List.filter_comm, Nat.zero_add]
    refine mergeSort_filter_of_eq (a := (a, j)) (fun x y z => htrans x.1 y.1 z.1)
      (fun x y => htotal x.1 y.1) hsort (by simp) ?_ ?_
    · intro entry hentry
      simpa using hother entry (List.mem_append_left after hentry)
    · intro entry hentry
      simpa using hother entry (List.mem_append_right before hentry)
  rw [← List.map_append, ← hpopped, List.map_mergeSort (s := le) (fun _ _ _ _ => rfl),
    ← eraseIdx_eq_filter_zipIdx l 0 j, List.filter_map]
  rfl

end

end Trackpal.Foundation
