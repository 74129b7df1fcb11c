import Trackpal.Foundation.Paging
import Mathlib.Data.List.Sort
import Mathlib.Order.Basic

/-!
# Pages of a query

A query orders its rows by a key and shows one page of them. Rows with equal keys come in the order
in which the database finds them, and that can be another one in each query.

Results:
1. `take_perm`: the rows in front of a place, if the keys differ there.
2. `pages_perm_iff`: the pages show every row once, whatever the orders, exactly if the keys
   differ where the pages meet.
-/

namespace Trackpal.Foundation

variable {ρ κ : Type*}

/-- The order in which a database finds the rows of a query. -/
structure Scan (ρ : Type*) where
  run : List ρ → List ρ
  perm : ∀ rows, (run rows).Perm rows

def Scan.stored : Scan ρ := ⟨id, fun _ => List.Perm.refl _⟩

variable [LinearOrder κ]

def orderBy (scan : Scan ρ) (key : ρ → κ) (rows : List ρ) : List ρ :=
  (scan.run rows).mergeSort fun a b => decide (key a ≤ key b)

/-- `ORDER BY … OFFSET … LIMIT`, for a page counted from 0. -/
def queryPage (scan : Scan ρ) (key : ρ → κ) (rows : List ρ) (size n : Nat) : List ρ :=
  page size (orderBy scan key rows) n

/-- The keys differ where two pages meet. -/
def Aligned (size : Nat) (keys : List κ) : Prop :=
  ∀ n, 0 < n → n * size < keys.length → keys[n * size - 1]? ≠ keys[n * size]?

variable {scan scan' : Scan ρ} {key : ρ → κ} {rows l l' : List ρ} {size n b : Nat}

theorem orderBy_perm : (orderBy scan key rows).Perm rows :=
  (List.mergeSort_perm _ _).trans (scan.perm rows)

theorem orderBy_sorted : (orderBy scan key rows).Pairwise fun a b => key a ≤ key b := by
  have htrans : ∀ a b c : ρ, decide (key a ≤ key b) = true → decide (key b ≤ key c) = true →
      decide (key a ≤ key c) = true := fun a b c hab hbc =>
    decide_eq_true ((of_decide_eq_true hab).trans (of_decide_eq_true hbc))
  have htotal : ∀ a b : ρ, (decide (key a ≤ key b) || decide (key b ≤ key a)) = true :=
    fun a b => by simpa using le_total (key a) (key b)
  exact (List.pairwise_mergeSort htrans htotal _).imp fun h => of_decide_eq_true h

namespace OffsetPagesLemmas

theorem map_eq_of_perm (hperm : l.Perm l') (hl : l.Pairwise fun a b => key a ≤ key b)
    (hl' : l'.Pairwise fun a b => key a ≤ key b) : l.map key = l'.map key :=
  (hperm.map key).eq_of_pairwise (fun _ _ _ _ hab hba => le_antisymm hab hba)
    (List.pairwise_map.mpr hl) (List.pairwise_map.mpr hl')

theorem take_eq_filter (hl : l.Pairwise fun a b => key a ≤ key b) (hpos : 0 < b)
    (hlt : b < l.length) (hdiff : key (l[b - 1]) ≠ key l[b]) :
    l.take b = l.filter fun a => decide (key a < key l[b]) := by
  have hle : ∀ i j (hi : i < l.length) (hj : j < l.length), i ≤ j → key l[i] ≤ key l[j] := by
    intro i j hi hj hij
    obtain rfl | hlt := Nat.eq_or_lt_of_le hij
    · exact le_refl _
    · exact List.pairwise_iff_getElem.mp hl i j hi hj hlt
  have hfront : (l.take b).filter (fun a => decide (key a < key l[b])) = l.take b := by
    refine List.filter_eq_self.mpr fun a ha => decide_eq_true ?_
    obtain ⟨i, hi, rfl⟩ := List.getElem_of_mem ha
    rw [List.length_take] at hi
    rw [List.getElem_take]
    exact (hle i (b - 1) (by omega) (by omega) (by omega)).trans_lt
      (lt_of_le_of_ne (hle (b - 1) b (by omega) hlt (by omega)) hdiff)
  have hback : (l.drop b).filter (fun a => decide (key a < key l[b])) = [] := by
    refine List.filter_eq_nil_iff.mpr fun a ha => ?_
    obtain ⟨i, hi, rfl⟩ := List.getElem_of_mem ha
    rw [List.length_drop] at hi
    rw [List.getElem_drop, decide_eq_true_eq, not_lt]
    exact hle b (b + i) hlt (by omega) (by omega)
  calc l.take b = (l.take b).filter (fun a => decide (key a < key l[b])) ++
        (l.drop b).filter (fun a => decide (key a < key l[b])) := by
        rw [hfront, hback, List.append_nil]
    _ = l.filter fun a => decide (key a < key l[b]) := by
        rw [← List.filter_append, List.take_append_drop]

omit [LinearOrder κ] in
theorem getElem_key (hkeys : l.map key = l'.map key) (h : n < l.length) (h' : n < l'.length) :
    key l[n] = key l'[n] := by
  have hsome : (l.map key)[n]? = (l'.map key)[n]? := by rw [hkeys]
  rw [List.getElem?_map, List.getElem?_map, List.getElem?_eq_getElem h,
    List.getElem?_eq_getElem h'] at hsome
  exact Option.some.inj hsome

end OffsetPagesLemmas

open OffsetPagesLemmas

theorem map_orderBy_eq_mergeSort : (orderBy scan key rows).map key = (rows.map key).mergeSort := by
  have hperm : ((orderBy scan key rows).map key).Perm ((rows.map key).mergeSort) :=
    (orderBy_perm.map key).trans (List.mergeSort_perm _ _).symm
  exact hperm.eq_of_pairwise (fun _ _ _ _ hab hba => le_antisymm hab hba)
    (List.pairwise_map.mpr orderBy_sorted) (List.pairwise_mergeSort' (· ≤ ·) _)

theorem take_perm (hperm : l.Perm l') (hl : l.Pairwise fun a b => key a ≤ key b)
    (hl' : l'.Pairwise fun a b => key a ≤ key b) (hpos : 0 < b)
    (hdiff : b < l.length → (l.map key)[b - 1]? ≠ (l.map key)[b]?) :
    (l.take b).Perm (l'.take b) := by
  by_cases hlt : b < l.length
  · have hlt' : b < l'.length := hperm.length_eq ▸ hlt
    have hkeys := map_eq_of_perm hperm hl hl'
    have hne := hdiff hlt
    rw [List.getElem?_map, List.getElem?_map, List.getElem?_eq_getElem hlt,
      List.getElem?_eq_getElem (by omega : b - 1 < l.length)] at hne
    have hdiff₁ : key (l[b - 1]) ≠ key l[b] := fun h => hne (congrArg some h)
    have hdiff₂ : key (l'[b - 1]) ≠ key l'[b] := by
      rw [← getElem_key hkeys (by omega) (by omega), ← getElem_key hkeys hlt hlt']
      exact hdiff₁
    rw [take_eq_filter hl hpos hlt hdiff₁, take_eq_filter hl' hpos hlt' hdiff₂,
      ← getElem_key hkeys hlt hlt']
    exact hperm.filter _
  · have hlt' : ¬b < l'.length := hperm.length_eq ▸ hlt
    rw [List.take_of_length_le (by omega), List.take_of_length_le (by omega)]
    exact hperm

namespace OffsetPagesLemmas

/-- The list with the two elements at a place exchanged. -/
def swapAt (b : Nat) (l : List ρ) : List ρ :=
  l.take (b - 1) ++ (l[b]?.toList ++ l[b - 1]?.toList ++ l.drop (b + 1))

omit [LinearOrder κ] in
theorem split_at (hpos : 0 < b) (hlt : b < l.length) :
    l = l.take (b - 1) ++ (l[b - 1]?.toList ++ l[b]?.toList ++ l.drop (b + 1)) := by
  have hstep : ∀ i, i < l.length → l.drop i = l[i]?.toList ++ l.drop (i + 1) := by
    intro i hi
    rw [List.getElem?_eq_getElem hi, Option.toList_some, List.singleton_append,
      List.drop_eq_getElem_cons hi]
  calc l = l.take (b - 1) ++ l.drop (b - 1) := (List.take_append_drop _ _).symm
    _ = _ := by
      rw [hstep (b - 1) (by omega), Nat.sub_add_cancel hpos, hstep b hlt, List.append_assoc]

omit [LinearOrder κ] in
theorem swapAt_perm (hpos : 0 < b) (hlt : b < l.length) : (swapAt b l).Perm l := by
  conv => rhs; rw [split_at hpos hlt]
  exact ((List.perm_append_comm).append_right _).append_left _

omit [LinearOrder κ] in
theorem map_swapAt (hpos : 0 < b) (hlt : b < l.length)
    (htied : (l.map key)[b - 1]? = (l.map key)[b]?) : (swapAt b l).map key = l.map key := by
  conv => rhs; rw [split_at hpos hlt]
  rw [List.getElem?_map, List.getElem?_map, List.getElem?_eq_getElem hlt,
    List.getElem?_eq_getElem (by omega : b - 1 < l.length)] at htied
  unfold swapAt
  rw [List.getElem?_eq_getElem hlt, List.getElem?_eq_getElem (by omega : b - 1 < l.length)]
  simp only [List.map_append, Option.toList_some, List.map_cons, List.map_nil,
    Option.some.inj htied]

omit [LinearOrder κ] in
theorem getElem?_swapAt (hpos : 0 < b) (hlt : b < l.length) : (swapAt b l)[b]? = l[b - 1]? := by
  unfold swapAt
  rw [List.getElem?_append_right (by rw [List.length_take]; omega), List.length_take,
    List.getElem?_eq_getElem hlt, List.getElem?_eq_getElem (by omega : b - 1 < l.length),
    show b - min (b - 1) l.length = 1 by omega]
  rfl

open Classical in
noncomputable def scanAs (l rows : List ρ) (h : l.Perm rows) : Scan ρ where
  run found := if found = rows then l else found
  perm found := by
    split
    · next heq => exact heq ▸ h
    · exact List.Perm.refl _

theorem orderBy_scanAs (h : l.Perm rows) (hl : l.Pairwise fun a b => key a ≤ key b) :
    orderBy (scanAs l rows h) key rows = l := by
  unfold orderBy scanAs
  dsimp only
  rw [if_pos rfl]
  exact List.mergeSort_of_pairwise (hl.imp fun h => decide_eq_true h)

end OffsetPagesLemmas

theorem pages_take_perm (hsize : 0 < size) (scans : Nat → Scan ρ)
    (haligned : Aligned size ((orderBy Scan.stored key rows).map key)) :
    ((List.range n).flatMap fun k => queryPage (scans k) key rows size k).Perm
      ((orderBy Scan.stored key rows).take (n * size)) := by
  have htake : ∀ k m, ((orderBy (scans k) key rows).take (m * size)).Perm
      ((orderBy Scan.stored key rows).take (m * size)) := by
    intro k m
    obtain rfl | hpos := Nat.eq_zero_or_pos m
    · simp
    · refine (take_perm (orderBy_perm.trans orderBy_perm.symm) orderBy_sorted orderBy_sorted
        (Nat.mul_pos hpos hsize) fun hlt => haligned m hpos ?_).symm
      rw [List.length_map]
      exact hlt
  induction n with
  | zero => simp
  | succ n ih =>
    -- the next page is what the first `n + 1` pages of its own order have beyond the first `n`
    have hpage : ((orderBy (scans n) key rows).take (n * size) ++
        queryPage (scans n) key rows size n).Perm ((orderBy Scan.stored key rows).take
          (n * size) ++ page size (orderBy Scan.stored key rows) n) := by
      have hnext := htake n (n + 1)
      rw [Nat.add_mul, Nat.one_mul, List.take_add, List.take_add] at hnext
      exact hnext
    rw [List.range_succ, List.flatMap_append, List.flatMap_singleton, Nat.add_mul, Nat.one_mul,
      List.take_add]
    exact (ih.append_right _).trans (((htake n n).symm.append_right _).trans hpage)

theorem pages_perm_iff (hnodup : rows.Nodup) (hsize : 0 < size) (hall : rows.length ≤ n * size) :
    (∀ scans : Nat → Scan ρ,
      ((List.range n).flatMap fun k => queryPage (scans k) key rows size k).Perm rows) ↔
    Aligned size ((orderBy Scan.stored key rows).map key) := by
  have hperm : (orderBy Scan.stored key rows).Perm rows := orderBy_perm
  constructor
  · intro h m hpos hlt htied
    rw [List.length_map] at hlt
    have hb : 0 < m * size := Nat.mul_pos hpos hsize
    have hswap := (swapAt_perm hb hlt).trans hperm
    have hsorted : (swapAt (m * size) (orderBy Scan.stored key rows)).Pairwise
        fun a b => key a ≤ key b := by
      rw [← List.pairwise_map (f := key) (R := (· ≤ ·)), map_swapAt hb hlt htied]
      exact List.pairwise_map.mpr orderBy_sorted
    -- the page in front of the place shows the row before it, and the page behind it again
    have hrows := h fun k => if k = m then scanAs _ _ hswap else Scan.stored
    have hdisjoint := (List.nodup_flatMap.mp (hrows.nodup_iff.mpr hnodup)).2
    have hm : m < n := by
      by_contra hge
      have := Nat.mul_le_mul_right size (Nat.le_of_not_lt hge)
      have := hperm.length_eq
      omega
    have hpages := List.pairwise_iff_getElem.mp hdisjoint (m - 1) m
      (by rw [List.length_range]; omega) (by rw [List.length_range]; exact hm) (by omega)
    rw [List.getElem_range, List.getElem_range] at hpages
    have hbefore : (orderBy Scan.stored key rows)[m * size - 1] ∈
        queryPage Scan.stored key rows size (m - 1) := by
      refine List.mem_of_getElem? (mem_page_iff.mpr ⟨(by omega : size - 1 < size), ?_⟩)
      have hplace : (m - 1) * size + (size - 1) = m * size - 1 := by
        rw [Nat.sub_mul, Nat.one_mul]
        have := Nat.le_mul_of_pos_left size hpos
        omega
      rw [hplace]
      exact List.getElem?_eq_getElem _
    have hbehind : (orderBy Scan.stored key rows)[m * size - 1] ∈
        queryPage (scanAs _ _ hswap) key rows size m := by
      refine List.mem_of_getElem? (mem_page_iff.mpr ⟨hsize, ?_⟩)
      rw [orderBy_scanAs hswap hsorted, Nat.add_zero, getElem?_swapAt hb hlt]
      exact List.getElem?_eq_getElem _
    refine hpages (a := (orderBy Scan.stored key rows)[m * size - 1]) ?_ ?_
    · dsimp only
      rw [if_neg (by omega)]
      exact hbefore
    · dsimp only
      rw [if_pos rfl]
      exact hbehind
  · intro haligned scans
    have htake := pages_take_perm (n := n) hsize scans haligned
    rw [List.take_of_length_le (by rw [hperm.length_eq]; exact hall)] at htake
    exact htake.trans hperm

end Trackpal.Foundation
